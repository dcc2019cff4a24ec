import Cheetah.Ideal
import Mathlib.Tactic.LinearCombination

/-! # Elementwise multiplication kernels

`MulA1B`, `MulA1BV`, `MulAV`, `MulAA` and `SquareA` of `arithmetic.cc`. The
shared-times-shared product takes the Beaver path below twice the OLE batch
size and the direct OLE path above it; squaring splits its cross term over
two links beyond 8192 elements. `MulAV`, `MulAA` and `SquareA` reconstruct
to the plaintext product; `MulA1B` and `MulA1BV` return the OT multiplexer's
answer as it comes.
-/

namespace Cheetah

open NdArrayRef Prog

variable {w : Nat}

/-- `CheetahMulState::TakeCachedBeaver(field, numel)`: the next cached triple,
as three flat arrays of `numel` elements. -/
def KernelEvalContext.takeCachedBeaver (ctx : KernelEvalContext w) (numel : Nat) :
    NdArrayRef w × NdArrayRef w × NdArrayRef w :=
  (⟨.ring, [numel], ctx.cachedBeaver.a⟩, ⟨.ring, [numel], ctx.cachedBeaver.b⟩,
    ⟨.ring, [numel], ctx.cachedBeaver.c⟩)

/-- `vmap({u, v}, f)`: `f` runs once on `u` and `v` laid end to end, and its
result is cut back into the two shapes. -/
def vmap (u v : NdArrayRef w) (f : NdArrayRef w → Prog w (NdArrayRef w)) :
    Prog w (NdArrayRef w × NdArrayRef w) := do
  let r ← f ⟨u.eltype, [u.numel + v.numel], memcpy u.buf u.numel v.numel v.buf⟩
  return ((r.slice 0 u.numel).reshape u.shape, (r.slice u.numel (u.numel + v.numel)).reshape v.shape)

/-- `MulA1B::proc`: an arithmetic share times a boolean-shared bit, by the OT multiplexer. -/
def MulA1B.proc (ctx : KernelEvalContext w) (ashr bshr : NdArrayRef w) :
    Prog w (NdArrayRef w) := do
  enforce (ashr.shape = bshr.shape) "ashr.shape() == bshr.shape()"
  if ashr.numel = 0 then
    return ctx.alloc ashr.eltype ashr.shape
  let out ← request .ot (.multiplexer ashr bshr)
  return out.as ashr.eltype

/-- `MulA1BV::proc`: an arithmetic share times a bit private to `owner`; the
owner receives, the other rank sends. -/
def MulA1BV.proc (ctx : KernelEvalContext w) (ashr bshr : NdArrayRef w) :
    Prog w (NdArrayRef w) := do
  enforce (ashr.shape = bshr.shape) "ashr.shape() == bshr.shape()"
  let some owner := bshr.eltype.privOwner | fail "rhs should be a private type"
  if ashr.numel = 0 then
    return ctx.alloc ashr.eltype ashr.shape
  if ctx.rank ≠ owner then
    let out ← request .ot (.privateMulxSend ashr)
    return out.as ashr.eltype
  let out ← request .ot (.privateMulxRecv ashr bshr)
  return out.as ashr.eltype

/-- `MulAV::proc`: `(x0 + x1) * y = <x_nonowner * y> + x_owner * y` for `y`
private to `owner`. -/
def MulAV.proc (ctx : KernelEvalContext w) (x y : NdArrayRef w) : Prog w (NdArrayRef w) := do
  enforce (x.shape = y.shape) "x.shape() == y.shape()"
  let numel := x.numel
  if numel = 0 then
    return ctx.alloc x.eltype x.shape
  let some owner := y.eltype.privOwner | fail "rhs should be a private type"
  let fx := x.reshape [numel]
  if ctx.rank ≠ owner then
    let out ← request .lctx (.mulOLE fx true)
    return (out.reshape x.shape).as x.eltype
  let fy := y.reshape [numel]
  let out ← request .lctx (.mulOLE fy false)
  return ((ringAdd out (ringMul fx fy)).reshape x.shape).as x.eltype

/-- `MulAA::mulWithBeaver`: open `x - a` and `y - b` and close the product
with a cached triple; only rank 0 adds `(X - A) * (Y - B)`. -/
def MulAA.mulWithBeaver (ctx : KernelEvalContext w) (x y : NdArrayRef w) :
    Prog w (NdArrayRef w) := do
  let numel := x.numel
  if numel = 0 then
    return ctx.alloc x.eltype x.shape
  let (a, b, c) := ctx.takeCachedBeaver numel
  enforce (a.numel = numel) "a.numel() == numel"
  let a := a.reshape x.shape
  let b := b.reshape x.shape
  let c := c.reshape x.shape
  let (x_a, y_b) ← vmap (ringSub x a) (ringSub y b) (request .lctx <| .allReduce ·)
  let z := ringAdd (ringAdd (ringMul x_a b) (ringMul y_b a)) c
  let z := if ctx.rank = 0 then ringAdd z (ringMul x_a y_b) else z
  return z.as x.eltype

/-- `MulAA::mulDirectly`: `MulShare` on the two halves `[0, n/2)` and
`[n/2, n)`, the second over the duplicated link, copied back in order. -/
def MulAA.mulDirectly (ctx : KernelEvalContext w) (x y : NdArrayRef w) :
    Prog w (NdArrayRef w) := do
  let fx := x.reshape [x.numel]
  let fy := y.reshape [y.numel]
  let n := fx.numel
  let nhalf := n / 2
  let task ← request .duplx (.mulShare (fx.slice nhalf n) (fy.slice nhalf n) (ctx.rank = 0))
  let slice0 ← request .lctx (.mulShare (fx.slice 0 nhalf) (fy.slice 0 nhalf) (ctx.rank ≠ 0))
  let outSlices := [slice0, task]
  let out := outSlices.foldl
    (fun (acc : NdArrayRef w × Nat) s =>
      ({ acc.1 with buf := memcpy acc.1.buf acc.2 s.numel s.buf }, acc.2 + s.numel))
    (ctx.alloc x.eltype x.shape, 0)
  return out.1

/-- `MulAA::proc`: the direct path from twice the OLE batch size on, the Beaver path below. -/
def MulAA.proc (ctx : KernelEvalContext w) (x y : NdArrayRef w) : Prog w (NdArrayRef w) := do
  enforce (x.shape = y.shape) "x.shape() == y.shape()"
  if x.numel ≥ 2 * ctx.oleBatchSize then
    MulAA.mulDirectly ctx x y
  else
    MulAA.mulWithBeaver ctx x y

/-- `SquareA::proc`: `(x0 + x1)^2 = x0^2 + 2 <x0 * x1> + x1^2`, the cross term
split at `numel / 2` over two links beyond 8192 elements. -/
def SquareA.proc (ctx : KernelEvalContext w) (x : NdArrayRef w) : Prog w (NdArrayRef w) := do
  let numel := x.numel
  if numel = 0 then
    return ctx.alloc x.eltype x.shape
  let fx := x.reshape [numel]
  let nhalf := if numel ≤ 8192 then numel else numel / 2
  let mul0 ← request .lctx (.mulOLE (fx.slice 0 nhalf) (ctx.rank = 0))
  let x0x1 := ctx.alloc x.eltype [numel]
  let x0x1 := { x0x1 with buf := memcpy x0x1.buf 0 nhalf mul0.buf }
  let x0x1 ← if nhalf < numel then do
      let mul1 ← request .duplx (.mulOLE (fx.slice nhalf numel) (ctx.rank = 1))
      pure { x0x1 with buf := memcpy x0x1.buf nhalf mul1.numel mul1.buf }
    else pure x0x1
  let x0x1 := (ringAdd x0x1 x0x1).reshape x.shape
  return (ringAdd x0x1 (ringMul x x)).as x.eltype

/-! ## Joint runs -/

section Runs

variable {α : Type} (F : Functionality w)

/-- Opening `u` and `v` with one `vmap`ped all-reduce: both parties receive the
sums `u + u'` and `v + v'`. -/
theorem exec_vmap_allReduce (hF : AllReduceSpec F) {u v u' v' : NdArrayRef w}
    (hu : u'.shape = u.shape) (hv : v'.shape = v.shape)
    {k k' : NdArrayRef w × NdArrayRef w → Prog w α} {Q : α → α → Prop}
    (hk : ∀ p p' : NdArrayRef w × NdArrayRef w, Opened u u' p.1 p'.1 → Opened v v' p.2 p'.2 →
      (exec F (k p) (k' p')).Sat Q) :
    (exec F ((vmap u v (request .lctx <| .allReduce ·)).bind k)
      ((vmap u' v' (request .lctx <| .allReduce ·)).bind k')).Sat Q := by
  simp only [vmap, bind_eq, request_bind, call_bind, ret_bind, pure_eq, numel_eq, hu, hv]
  refine exec_call_sat F (hF _ _ rfl) fun s s' ⟨hs, hs', hsum⟩ => hk _ _ ?_ ?_
  · refine ⟨rfl, rfl, fun i hi => ?_⟩
    simpa [hs, hs', memcpy_of_lt (by simpa using hi)] using hsum i (by simp at hi ⊢; omega)
  · refine ⟨rfl, rfl, fun i hi => ?_⟩
    have hlt : u.shape.numel + i < u.shape.numel + v.shape.numel := by simp at hi; omega
    simpa [hs, hs', memcpy_of_mem (Nat.le_add_right _ _) hlt] using
      hsum (u.shape.numel + i) (by simpa using hlt)

/-- The owner of `y` sends its copy of `y` into the OLE and adds its local term. -/
theorem MulAV.proc_owner (ctx : KernelEvalContext w) {x y : NdArrayRef w}
    (hxy : x.shape = y.shape) (hn : x.shape.numel ≠ 0) (hy : y.eltype = .priv ctx.rank) :
    MulAV.proc ctx x y = .call .lctx (.mulOLE (y.reshape [x.shape.numel]) false) fun out =>
      .ret (((ringAdd out (ringMul (x.reshape [x.shape.numel]) (y.reshape [x.shape.numel]))).reshape
        x.shape).as x.eltype) := by
  simp [MulAV.proc, ← hxy, hn, hy, Ty.privOwner]

/-- The other rank only evaluates the OLE on its share of `x`. -/
theorem MulAV.proc_nonowner (ctx : KernelEvalContext w) {x y : NdArrayRef w} {o : Fin 2}
    (hxy : x.shape = y.shape) (hn : x.shape.numel ≠ 0) (hy : y.eltype = .priv o)
    (ho : ctx.rank ≠ o) :
    MulAV.proc ctx x y = .call .lctx (.mulOLE (x.reshape [x.shape.numel]) true) fun out =>
      .ret ((out.reshape x.shape).as x.eltype) := by
  simp [MulAV.proc, ← hxy, hn, hy, Ty.privOwner, ho]

variable {ctx0 ctx1 : KernelEvalContext w} (h0 : ctx0.rank = 0) (h1 : ctx1.rank = 1)
include h0 h1

/-- `MulAV` reconstructs `x * y` for either owner; `ys r` is rank `r`'s copy of
the private operand, read only by the owner. -/
theorem MulAV.proc_reconstructs (hF : MulOLESpec F) {x0 x1 : NdArrayRef w}
    {ys : Fin 2 → NdArrayRef w} {o : Fin 2} (hx : x1.shape = x0.shape)
    (hys : ∀ r, (ys r).shape = x0.shape) (hown : ∀ r, (ys r).eltype = .priv o) :
    (exec F (MulAV.proc ctx0 x0 (ys 0)) (MulAV.proc ctx1 x1 (ys 1))).Sat
      (AddShares x0.shape fun i => (x0.buf i + x1.buf i) * (ys o).buf i) := by
  by_cases hn : x0.shape.numel = 0
  · simp only [MulAV.proc, hys, hx, numel_eq, hn, enforce_pos, bind_eq, ret_bind, if_true,
      pure_eq, exec_ret, Outcome.sat_done]
    exact ⟨rfl, rfl, fun i hi => absurd hi (by omega)⟩
  have hn1 : x1.shape.numel ≠ 0 := hx ▸ hn
  obtain rfl | rfl : o = 0 ∨ o = 1 := by omega
  · rw [MulAV.proc_owner ctx0 (hys 0).symm hn (h0 ▸ hown 0),
      MulAV.proc_nonowner ctx1 (hx.trans (hys 1).symm) hn1 (hown 1) (by simp [h1]), hx]
    refine exec_call_sat F (hF _ _ false (by simp [hys])) fun s s' ⟨_, _, hv⟩ =>
      ⟨rfl, rfl, fun i hi => ?_⟩
    have := hv i (by simpa using hi)
    simp only [as_buf, reshape_buf, ringAdd_buf, ringMul_buf, Pi.add_apply, Pi.mul_apply] at this ⊢
    linear_combination this
  · rw [MulAV.proc_nonowner ctx0 (hys 0).symm hn (hown 0) (by simp [h0]),
      MulAV.proc_owner ctx1 (hx.trans (hys 1).symm) hn1 (h1 ▸ hown 1), hx]
    refine exec_call_sat F (hF _ _ true (by simp [hys])) fun s s' ⟨_, _, hv⟩ =>
      ⟨rfl, rfl, fun i hi => ?_⟩
    have := hv i (by simpa using hi)
    simp only [as_buf, reshape_buf, ringAdd_buf, ringMul_buf, Pi.add_apply, Pi.mul_apply] at this ⊢
    linear_combination this

/-- The Beaver path reconstructs the product for every correlated triple. -/
theorem MulAA.mulWithBeaver_reconstructs (hF : AllReduceSpec F)
    (hb : ctx0.cachedBeaver.Correlated ctx1.cachedBeaver) {x0 x1 y0 y1 : NdArrayRef w}
    (hx : x1.shape = x0.shape) (hy0 : y0.shape = x0.shape) (hy1 : y1.shape = x0.shape) :
    (exec F (MulAA.mulWithBeaver ctx0 x0 y0) (MulAA.mulWithBeaver ctx1 x1 y1)).Sat
      (AddShares x0.shape fun i => (x0.buf i + x1.buf i) * (y0.buf i + y1.buf i)) := by
  by_cases hn : x0.shape.numel = 0
  · simp only [MulAA.mulWithBeaver, numel_eq, hx, hn, if_true, pure_eq, exec_ret,
      Outcome.sat_done]
    exact ⟨rfl, rfl, fun i hi => absurd hi (by omega)⟩
  simp only [MulAA.mulWithBeaver, hn, hx, KernelEvalContext.takeCachedBeaver, numel_eq,
    Shape.numel_cons, Shape.numel_nil, mul_one, enforce_pos, bind_eq, pure_eq, ret_bind, if_false]
  refine exec_vmap_allReduce F hF (by simp [hx]) (by simp [hy0, hy1])
    fun p p' ⟨hp, hp', hpv⟩ ⟨_, _, hqv⟩ => ?_
  simp only [h0, h1, if_true, show (1 : Fin 2) ≠ 0 by decide, if_false, exec_ret,
    Outcome.sat_done]
  refine ⟨by simpa using hp, by simpa [hx] using hp', fun i hi => ?_⟩
  obtain ⟨ha0, ha1⟩ := hpv i (by simpa using hi)
  obtain ⟨hb0, hb1⟩ := hqv i (by simpa [hy0] using hi)
  simp only [as_buf, ringAdd_buf, ringMul_buf, ringSub_buf, reshape_buf, Pi.add_apply,
    Pi.mul_apply, Pi.sub_apply] at ha0 ha1 hb0 hb1 ⊢
  rw [ha0, ha1, hb0, hb1]
  linear_combination hb i

/-- The direct path reconstructs the product: the two halves land at offsets
`0` and `n / 2` and cover `[0, n)`. -/
theorem MulAA.mulDirectly_reconstructs (hF : MulShareSpec F) {x0 x1 y0 y1 : NdArrayRef w}
    (hx : x1.shape = x0.shape) (hy0 : y0.shape = x0.shape) (hy1 : y1.shape = x0.shape) :
    (exec F (MulAA.mulDirectly ctx0 x0 y0) (MulAA.mulDirectly ctx1 x1 y1)).Sat
      (AddShares x0.shape fun i => (x0.buf i + x1.buf i) * (y0.buf i + y1.buf i)) := by
  simp only [MulAA.mulDirectly, h0, h1, numel_eq, hx, hy0, hy1, bind_eq, request_bind,
    ret_bind, pure_eq]
  refine exec_call_sat F (hF _ _ _ _ true (by simp) (by simp) (by simp)) fun t t' ⟨ht, ht', htv⟩ =>
    exec_call_sat F (hF _ _ _ _ false (by simp) (by simp) (by simp)) fun s s' ⟨hs, hs', hsv⟩ => ?_
  simp only [List.foldl_cons, List.foldl_nil, zero_add, exec_ret, Outcome.sat_done,
    KernelEvalContext.alloc, numel_eq, hs, hs', ht, ht', slice_shape, reshape_shape,
    List.tail_cons, Shape.numel_cons, Shape.numel_nil, mul_one, Nat.sub_zero]
  refine ⟨rfl, rfl, fun i hi => ?_⟩
  dsimp only
  by_cases hlt : i < x0.shape.numel / 2
  · rw [memcpy_two_of_lt hlt, memcpy_two_of_lt hlt]
    simpa using hsv i (by simpa using hlt)
  · have hge := not_lt.mp hlt
    rw [memcpy_two_of_ge hge (by omega), memcpy_two_of_ge hge (by omega)]
    simpa [Nat.add_sub_cancel' hge] using htv (i - x0.shape.numel / 2) (by simp; omega)

end Runs

section Claims

variable (F : Functionality w) (ctx0 ctx1 : KernelEvalContext w)

/-- `MulAA::proc` reconstructs `x * y` on whichever branch the batch size
selects, and so does each branch on every input. -/
theorem mulAA_reconstructs_product (hmul : MulShareSpec F) (hred : AllReduceSpec F)
    (h0 : ctx0.rank = 0) (h1 : ctx1.rank = 1) (hbatch : ctx0.oleBatchSize = ctx1.oleBatchSize)
    (hb : ctx0.cachedBeaver.Correlated ctx1.cachedBeaver) (x0 x1 y0 y1 : NdArrayRef w)
    (hx : x1.shape = x0.shape) (hy0 : y0.shape = x0.shape) (hy1 : y1.shape = x0.shape) :
    (exec F (MulAA.proc ctx0 x0 y0) (MulAA.proc ctx1 x1 y1)).Sat
        (AddShares x0.shape fun i => (x0.buf i + x1.buf i) * (y0.buf i + y1.buf i)) ∧
      (exec F (MulAA.mulWithBeaver ctx0 x0 y0) (MulAA.mulWithBeaver ctx1 x1 y1)).Sat
        (AddShares x0.shape fun i => (x0.buf i + x1.buf i) * (y0.buf i + y1.buf i)) ∧
      (exec F (MulAA.mulDirectly ctx0 x0 y0) (MulAA.mulDirectly ctx1 x1 y1)).Sat
        (AddShares x0.shape fun i => (x0.buf i + x1.buf i) * (y0.buf i + y1.buf i)) := by
  have hbeaver := MulAA.mulWithBeaver_reconstructs F h0 h1 hred hb hx hy0 hy1
  have hdirect := MulAA.mulDirectly_reconstructs F h0 h1 hmul hx hy0 hy1
  refine ⟨?_, hbeaver, hdirect⟩
  simp only [MulAA.proc, numel_eq, hx, hy0, hy1, hbatch, enforce_pos, bind_eq, ret_bind]
  split_ifs
  · exact hdirect
  · exact hbeaver

/-- Each rank's `2 <x0 * x1> + x_r^2` adds up to the square. -/
theorem add_square_of_cross {a0 a1 c0 c1 : BitVec w} (h : c0 + c1 = a0 * a1) :
    c0 + c0 + a0 * a0 + (c1 + c1 + a1 * a1) = (a0 + a1) * (a0 + a1) := by
  linear_combination 2 * h

/-- `SquareA` reconstructs `x * x` on both sides of the 8192 threshold: the
halves land at offsets `0` and `nhalf` and cover `[0, n)`. -/
theorem squareA_reconstructs_square (hF : MulOLESpec F) (h0 : ctx0.rank = 0)
    (h1 : ctx1.rank = 1) (x0 x1 : NdArrayRef w) (hx : x1.shape = x0.shape) :
    (exec F (SquareA.proc ctx0 x0) (SquareA.proc ctx1 x1)).Sat
      (AddShares x0.shape fun i => (x0.buf i + x1.buf i) * (x0.buf i + x1.buf i)) := by
  by_cases hn : x0.shape.numel = 0
  · simp only [SquareA.proc, numel_eq, hx, hn, if_true, pure_eq, exec_ret, Outcome.sat_done]
    exact ⟨rfl, rfl, fun i hi => absurd hi (by omega)⟩
  simp only [SquareA.proc, hn, hx, numel_eq, h0, h1, if_false, bind_eq, pure_eq, ret_bind,
    request_bind]
  by_cases hsmall : x0.shape.numel ≤ 8192
  · simp only [hsmall, if_true, lt_irrefl, if_false, ret_bind]
    refine exec_call_sat F (hF _ _ true rfl) fun m m' ⟨_, _, hmv⟩ => ⟨rfl, rfl, fun i hi => ?_⟩
    simp only [as_buf, ringAdd_buf, ringMul_buf, reshape_buf, Pi.add_apply, Pi.mul_apply,
      KernelEvalContext.alloc, memcpy_of_mem (Nat.zero_le i) (by simpa using hi), Nat.sub_zero]
    exact add_square_of_cross (by simpa using hmv i (by simpa using hi))
  · have hlt : x0.shape.numel / 2 < x0.shape.numel := Nat.div_lt_self (by omega) (by decide)
    simp only [hsmall, if_false, hlt, if_true, bind_eq, request_bind, pure_eq, ret_bind]
    refine exec_call_sat F (hF _ _ true rfl) fun m m' ⟨_, _, hmv⟩ =>
      exec_call_sat F (hF _ _ false rfl) fun t t' ⟨ht, ht', htv⟩ => ⟨rfl, rfl, fun i hi => ?_⟩
    simp only [as_buf, ringAdd_buf, ringMul_buf, reshape_buf, Pi.add_apply, Pi.mul_apply,
      KernelEvalContext.alloc, numel_eq, ht, ht', slice_shape, reshape_shape, List.tail_cons,
      Shape.numel_cons, Shape.numel_nil, mul_one]
    by_cases hlo : i < x0.shape.numel / 2
    · rw [memcpy_two_of_lt hlo, memcpy_two_of_lt hlo]
      exact add_square_of_cross (by simpa using hmv i (by simpa using hlo))
    · have hge := not_lt.mp hlo
      rw [memcpy_two_of_ge hge (by omega), memcpy_two_of_ge hge (by omega)]
      exact add_square_of_cross
        (by simpa [Nat.add_sub_cancel' hge] using htv (i - x0.shape.numel / 2) (by simp; omega))

/-- Two elements against a batch size of 2 take the Beaver path, here with the
correlated triples `(1, 2, 5)` and `(2, 1, 4)` (`3 * 3 = 9`); against a batch
size of 1 they take the direct path. -/
theorem mulAA_reconstructs_product_instance :
    (exec (dealer : Functionality 8)
      (MulAA.proc ⟨0, 2, ⟨fun _ => 1, fun _ => 2, fun _ => 5⟩, none, 0⟩ ⟨.ashr, [2], fun _ => 3⟩
        ⟨.ashr, [2], fun _ => 5⟩)
      (MulAA.proc ⟨1, 2, ⟨fun _ => 2, fun _ => 1, fun _ => 4⟩, none, 0⟩ ⟨.ashr, [2], fun _ => 4⟩
        ⟨.ashr, [2], fun _ => 6⟩)).Sat
      (AddShares [2] fun _ => (3 + 4) * (5 + 6)) ∧
    (exec (dealer : Functionality 8)
      (MulAA.proc (.ofRank 0 1) ⟨.ashr, [2], fun _ => 3⟩ ⟨.ashr, [2], fun _ => 5⟩)
      (MulAA.proc (.ofRank 1 1) ⟨.ashr, [2], fun _ => 4⟩ ⟨.ashr, [2], fun _ => 6⟩)).Sat
      (AddShares [2] fun _ => (3 + 4) * (5 + 6)) :=
  ⟨(mulAA_reconstructs_product dealer ⟨0, 2, ⟨fun _ => 1, fun _ => 2, fun _ => 5⟩, none, 0⟩
      ⟨1, 2, ⟨fun _ => 2, fun _ => 1, fun _ => 4⟩, none, 0⟩ dealer_mulShare dealer_allReduce rfl rfl
      rfl (fun _ => (by decide : (5 : BitVec 8) + 4 = (1 + 2) * (2 + 1))) ⟨.ashr, [2], fun _ => 3⟩ ⟨.ashr, [2], fun _ => 4⟩ ⟨.ashr, [2], fun _ => 5⟩
      ⟨.ashr, [2], fun _ => 6⟩ rfl rfl rfl).1,
    (mulAA_reconstructs_product dealer (.ofRank 0 1) (.ofRank 1 1) dealer_mulShare dealer_allReduce
      rfl rfl rfl (fun _ => by simp [KernelEvalContext.ofRank]) ⟨.ashr, [2], fun _ => 3⟩
      ⟨.ashr, [2], fun _ => 4⟩ ⟨.ashr, [2], fun _ => 5⟩ ⟨.ashr, [2], fun _ => 6⟩ rfl rfl rfl).1⟩

theorem squareA_reconstructs_square_instance :
    (exec (dealer : Functionality 8) (SquareA.proc (.ofRank 0 1) ⟨.ashr, [3], fun _ => 7⟩)
      (SquareA.proc (.ofRank 1 1) ⟨.ashr, [3], fun _ => 9⟩)).Sat
      (AddShares [3] fun _ => (7 + 9) * (7 + 9)) :=
  squareA_reconstructs_square dealer (.ofRank 0 1) (.ofRank 1 1) dealer_mulOLE rfl rfl
    ⟨.ashr, [3], fun _ => 7⟩ ⟨.ashr, [3], fun _ => 9⟩ rfl

end Claims

end Cheetah
