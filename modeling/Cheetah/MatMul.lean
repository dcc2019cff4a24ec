import Cheetah.Mul

/-! # Matrix product kernels

`MatMulVVS`, `MatMulAA`, `MatMulAV`, `BatchMatMulAV` and `BatchMatMulAA` of
`arithmetic.cc`. The cross terms run through `DotOLE`, concurrently over the
duplicated link where both operands are shared; the owner of a private
operand adds its local product. The batched kernels fill their output slice
by slice in a loop.
-/

namespace Cheetah

open NdArrayRef Prog

variable {w : Nat}

/-- `MatMulVVS::proc`: two matrices private to different ranks; the owner of
`x` supplies the left operand of one `DotOLE`. -/
def MatMulVVS.proc (ctx : KernelEvalContext w) (x y : NdArrayRef w) : Prog w (NdArrayRef w) := do
  if x.numel = 0 ∨ y.numel = 0 then
    return ctx.alloc .ashr [x.shape.getD 0 0, y.shape.getD 1 0]
  let some lhsOwner := x.eltype.privOwner | fail "x.eltype().as<Priv2kTy>() is null"
  let dim3 : Shape3D := (x.shape.getD 0 0, x.shape.getD 1 0, y.shape.getD 1 0)
  if ctx.rank = lhsOwner then
    let out ← request .lctx (.dotOLE x dim3 true)
    return out.as .ashr
  let out ← request .lctx (.dotOLE y dim3 false)
  return out.as .ashr

/-- `MatMulAA::proc`: `(x0 + x1)(y0 + y1)`, the cross term `x0 y1` over the
duplicated link, `x1 y0` over the primary one, and `x_r y_r` locally. -/
def MatMulAA.proc (ctx : KernelEvalContext w) (x y : NdArrayRef w) : Prog w (NdArrayRef w) := do
  if x.numel = 0 ∨ y.numel = 0 then
    return ctx.alloc x.eltype [x.shape.getD 0 0, y.shape.getD 1 0]
  let dim3 : Shape3D := (x.shape.getD 0 0, x.shape.getD 1 0, y.shape.getD 1 0)
  let task ← if ctx.rank = 0 then request .duplx (.dotOLE x dim3 true)
    else request .duplx (.dotOLE y dim3 false)
  let x1y0 ← if ctx.rank = 0 then request .lctx (.dotOLE y dim3 false)
    else request .lctx (.dotOLE x dim3 true)
  let ret := ringAdd (ringMmul x y) x1y0
  return (ringAdd ret task).as x.eltype

/-- `MatMulAV::proc`: `(x0 + x1) y = <x_nonowner y> + x_owner y` for `y` private to `owner`. -/
def MatMulAV.proc (ctx : KernelEvalContext w) (x y : NdArrayRef w) : Prog w (NdArrayRef w) := do
  if x.numel = 0 ∨ y.numel = 0 then
    return ctx.alloc x.eltype [x.shape.getD 0 0, y.shape.getD 1 0]
  let some owner := y.eltype.privOwner | fail "rhs should be a private type"
  let dim3 : Shape3D := (x.shape.getD 0 0, x.shape.getD 1 0, y.shape.getD 1 0)
  if ctx.rank = owner then
    let out ← request .lctx (.dotOLE y dim3 false)
    return (ringAdd out (ringMmul x y)).as x.eltype
  let out ← request .lctx (.dotOLE x dim3 true)
  return out.as x.eltype

/-- The shape checks of `BatchMatMulAV::evaluate` and `BatchMatMulAA::evaluate`. -/
def batchEvaluateChecks (xs ys : Shape) : Prog w Unit := do
  enforce (xs.length = ys.length) s!"ndim mismatch: lhs={xs}, rhs={ys}"
  enforce (xs.getD 0 0 = ys.getD 0 0) s!"batch mismatch: lhs={xs}, rhs={ys}"
  enforce (xs.getD 2 0 = ys.getD 1 0) s!"shape mismatch: lhs={xs}, rhs={ys}"

/-- The shape checks at the head of `BatchMatMulAV::proc` and `BatchMatMulAA::proc`. -/
def batchProcChecks (x y : NdArrayRef w) : Prog w Unit := do
  enforce (x.shape.length = 3 ∧ y.shape.length = 3) "x.ndim() == 3 && y.ndim() == 3"
  enforce (x.shape.getD 0 0 = y.shape.getD 0 0) "x.shape()[0] == y.shape()[0]"
  enforce (x.shape.getD 2 0 = y.shape.getD 1 0) "x.shape()[2] == y.shape()[1]"

/-- `BatchMatMulAV::proc`: one `BatchDotOLE` for the whole batch; the owner then
adds `x[b] y[b]` to slice `b` of its share for every `b`. -/
def BatchMatMulAV.proc (ctx : KernelEvalContext w) (x y : NdArrayRef w) :
    Prog w (NdArrayRef w) := do
  if x.numel = 0 ∨ y.numel = 0 then
    return ctx.alloc x.eltype [x.shape.getD 0 0, y.shape.getD 1 0]
  batchProcChecks x y
  let some owner := y.eltype.privOwner | fail "rhs should be a private type"
  let (bs, m, k, n) := (x.shape.getD 0 0, x.shape.getD 1 0, x.shape.getD 2 0, y.shape.getD 2 0)
  let dim4 : Shape4D := (bs, m, k, n)
  if ctx.rank ≠ owner then
    let out ← request .lctx (.batchDotOLE x dim4 true)
    return out.as x.eltype
  let out ← request .lctx (.batchDotOLE y dim4 false)
  let out := (List.range bs).foldl (fun out b =>
    let lhs := (x.slice b (b + 1)).reshape [m, k]
    let rhs := (y.slice b (b + 1)).reshape [k, n]
    let outSlice := (out.slice b (b + 1)).reshape [m, n]
    out.setSlice (ringAdd outSlice (ringMmul lhs rhs)) b) out
  return out.as x.eltype

/-- `BatchMatMulAV::evaluate`. -/
def BatchMatMulAV.evaluate (ctx : KernelEvalContext w) (lhs rhs : NdArrayRef w) :
    Prog w (NdArrayRef w) := do
  batchEvaluateChecks lhs.shape rhs.shape
  BatchMatMulAV.proc ctx lhs rhs

/-- `BatchMatMulAA::proc`: both cross terms by `BatchDotOLE` over the two links;
the local products `x_r[b] y_r[b]` are written slice by slice into a new array. -/
def BatchMatMulAA.proc (ctx : KernelEvalContext w) (x y : NdArrayRef w) :
    Prog w (NdArrayRef w) := do
  if x.numel = 0 ∨ y.numel = 0 then
    return ctx.alloc x.eltype [x.shape.getD 0 0, y.shape.getD 1 0]
  batchProcChecks x y
  let (bs, m, k, n) := (x.shape.getD 0 0, x.shape.getD 1 0, x.shape.getD 2 0, y.shape.getD 2 0)
  let dim4 : Shape4D := (bs, m, k, n)
  let task ← if ctx.rank = 0 then request .duplx (.batchDotOLE x dim4 true)
    else request .duplx (.batchDotOLE y dim4 false)
  let x1y0 ← if ctx.rank = 0 then request .lctx (.batchDotOLE y dim4 false)
    else request .lctx (.batchDotOLE x dim4 true)
  let out := (List.range bs).foldl (fun out b =>
    let lhs := (x.slice b (b + 1)).reshape [m, k]
    let rhs := (y.slice b (b + 1)).reshape [k, n]
    out.setSlice (ringMmul lhs rhs) b) (ctx.alloc x.eltype [bs, m, n])
  return (ringAdd (ringAdd out x1y0) task).as x.eltype

/-- `BatchMatMulAA::evaluate`. -/
def BatchMatMulAA.evaluate (ctx : KernelEvalContext w) (lhs rhs : NdArrayRef w) :
    Prog w (NdArrayRef w) := do
  batchEvaluateChecks lhs.shape rhs.shape
  BatchMatMulAA.proc ctx lhs rhs

/-! ## The batch loop -/

/-- Writing slice `j` of `out` with a value computed from slice `j` of `out`,
for `j = 0, 1, …, b - 1`: the first `b` slices hold those values and the rest
of the buffer is untouched. -/
theorem foldl_setSlice {r : Nat} (step : NdArrayRef w → Nat → NdArrayRef w)
    (f : Nat → (Nat → BitVec w) → Nat → BitVec w) (init : NdArrayRef w)
    (hstep : ∀ out j, out.shape = init.shape → (step out j).shape = out.shape ∧
      (step out j).buf = memcpy out.buf (j * r) r (f j fun p => out.buf (j * r + p))) (b : Nat) :
    ((List.range b).foldl step init).shape = init.shape ∧
      ∀ i, ((List.range b).foldl step init).buf i =
        if i < b * r then f (i / r) (fun p => init.buf (i / r * r + p)) (i % r) else init.buf i := by
  induction b with
  | zero => simp
  | succ b ih =>
      obtain ⟨hshape, hbuf⟩ := ih
      obtain ⟨hshape', hbuf'⟩ := hstep _ b hshape
      rw [List.range_succ, List.foldl_append, List.foldl_cons, List.foldl_nil, hbuf']
      refine ⟨hshape'.trans hshape, fun i => ?_⟩
      have hsucc : (b + 1) * r = b * r + r := Nat.succ_mul b r
      by_cases hlo : i < b * r
      · rw [memcpy_of_lt hlo, hbuf, if_pos hlo, if_pos (by omega)]
      by_cases hhi : i < (b + 1) * r
      · have hdiv : i / r = b := Nat.div_eq_of_lt_le (not_lt.mp hlo) hhi
        have hmod : i % r = i - b * r := by rw [Nat.mod_def, hdiv, Nat.mul_comm]
        rw [memcpy_of_mem (not_lt.mp hlo) (by omega), if_pos hhi, hdiv, hmod]
        congr 1
        funext p
        rw [hbuf, if_neg (by omega)]
      · rw [memcpy_of_ge (by omega), hbuf, if_neg hlo, if_neg hhi]

/-- Writing slices never changes the shape. -/
@[simp] theorem foldl_setSlice_shape (g : NdArrayRef w → Nat → NdArrayRef w) (init : NdArrayRef w)
    (l : List Nat) : (l.foldl (fun out j => out.setSlice (g out j) j) init).shape = init.shape := by
  induction l generalizing init with
  | nil => rfl
  | cons j l ih => exact (ih _).trans (setSlice_shape _ _ _)

section Loops

variable {bs m k n : Nat} (x y init : NdArrayRef w) (hx : x.shape = [bs, m, k])
  (hy : y.shape = [bs, k, n]) (hinit : init.shape = [bs, m, n])
include hx hy hinit

/-- The loop of `BatchMatMulAA`: slice `b` of the result holds `x[b] y[b]`. -/
theorem batchMatMul_loop_buf {q : Nat} (hq : q < bs * (m * n)) :
    ((List.range bs).foldl (fun out b => out.setSlice
      (ringMmul ((x.slice b (b + 1)).reshape [m, k]) ((y.slice b (b + 1)).reshape [k, n])) b)
      init).buf q = bmmulBuf m k n x.buf y.buf q := by
  obtain ⟨-, h⟩ := foldl_setSlice (r := m * n) (fun out b => out.setSlice
      (ringMmul ((x.slice b (b + 1)).reshape [m, k]) ((y.slice b (b + 1)).reshape [k, n])) b)
    (fun j _ => (ringMmul ((x.slice j (j + 1)).reshape [m, k])
      ((y.slice j (j + 1)).reshape [k, n])).buf) init
    (fun out _ hout => ⟨rfl, by simp [hout, hinit]⟩) bs
  rw [h, if_pos hq]
  simp [bmmulBuf, hx, hy]

/-- The loop of `BatchMatMulAV`: slice `b` of the owner's share gains `x[b] y[b]`. -/
theorem batchMatMul_addLoop_buf {q : Nat} (hq : q < bs * (m * n)) :
    ((List.range bs).foldl (fun out b => out.setSlice (ringAdd ((out.slice b (b + 1)).reshape [m, n])
      (ringMmul ((x.slice b (b + 1)).reshape [m, k]) ((y.slice b (b + 1)).reshape [k, n]))) b)
      init).buf q = init.buf q + bmmulBuf m k n x.buf y.buf q := by
  obtain ⟨-, h⟩ := foldl_setSlice (r := m * n) (fun out b => out.setSlice
      (ringAdd ((out.slice b (b + 1)).reshape [m, n])
        (ringMmul ((x.slice b (b + 1)).reshape [m, k]) ((y.slice b (b + 1)).reshape [k, n]))) b)
    (fun j v => v + (ringMmul ((x.slice j (j + 1)).reshape [m, k])
      ((y.slice j (j + 1)).reshape [k, n])).buf) init
    (fun out _ hout => ⟨rfl, by simp [hout, hinit]⟩) bs
  rw [h, if_pos hq]
  simp [bmmulBuf, hx, hy, Nat.div_add_mod']

end Loops

section Runs

variable (F : Functionality w) {ctx0 ctx1 : KernelEvalContext w} (h0 : ctx0.rank = 0)
  (h1 : ctx1.rank = 1)
include h0 h1

/-- `MatMulAA` reconstructs `x y`: the cross terms `x0 y1` and `x1 y0` each once. -/
theorem MatMulAA.proc_reconstructs (hF : DotOLESpec F)
    {m k n : Nat} (hm : 0 < m) (hk : 0 < k) (hn : 0 < n) {x0 x1 y0 y1 : NdArrayRef w}
    (hx0 : x0.shape = [m, k]) (hx1 : x1.shape = [m, k]) (hy0 : y0.shape = [k, n])
    (hy1 : y1.shape = [k, n]) :
    (exec F (MatMulAA.proc ctx0 x0 y0) (MatMulAA.proc ctx1 x1 y1)).Sat
      (AddShares [m, n] (mmulBuf k n (x0.buf + x1.buf) (y0.buf + y1.buf))) := by
  have hmk : m * k ≠ 0 := Nat.mul_ne_zero hm.ne' hk.ne'
  have hkn : k * n ≠ 0 := Nat.mul_ne_zero hk.ne' hn.ne'
  simp only [MatMulAA.proc, numel_eq, hx0, hx1, hy0, hy1, Shape.numel_cons, Shape.numel_nil,
    mul_one, hmk, hkn, or_self, if_false, h0, h1, if_true, show (1 : Fin 2) ≠ 0 by decide, bind_eq,
    request_bind, pure_eq, ret_bind, List.getD_cons_zero, List.getD_cons_succ]
  refine exec_call_sat F (hF _ _ m k n hx0 hy1).1 fun d d' ⟨_, _, hd⟩ =>
    exec_call_sat F (hF _ _ m k n hx1 hy0).2 fun l l' ⟨_, _, hl⟩ =>
      ⟨by simp [hx0, hy0], by simp [hx1, hy1], fun i hi => ?_⟩
  have hdi := hd i hi
  have hli := hl i hi
  simp only [as_buf, ringAdd_buf, ringMmul_buf, Pi.add_apply, hx0, hy0, hx1, hy1,
    List.getD_cons_zero, List.getD_cons_succ, mmulBuf_add_left, mmulBuf_add_right] at hdi hli ⊢
  linear_combination hdi + hli

/-- `BatchMatMulAA` reconstructs `x[b] y[b]` in every slice `b`. -/
theorem BatchMatMulAA.proc_reconstructs (hF : BatchDotOLESpec F)
    {bs m k n : Nat} (hb : 0 < bs) (hm : 0 < m) (hk : 0 < k) (hn : 0 < n) {x0 x1 y0 y1 : NdArrayRef w}
    (hx0 : x0.shape = [bs, m, k]) (hx1 : x1.shape = [bs, m, k]) (hy0 : y0.shape = [bs, k, n])
    (hy1 : y1.shape = [bs, k, n]) :
    (exec F (BatchMatMulAA.proc ctx0 x0 y0) (BatchMatMulAA.proc ctx1 x1 y1)).Sat
      (AddShares [bs, m, n] (bmmulBuf m k n (x0.buf + x1.buf) (y0.buf + y1.buf))) := by
  have hmk : bs * (m * k) ≠ 0 := Nat.mul_ne_zero hb.ne' (Nat.mul_ne_zero hm.ne' hk.ne')
  have hkn : bs * (k * n) ≠ 0 := Nat.mul_ne_zero hb.ne' (Nat.mul_ne_zero hk.ne' hn.ne')
  simp only [BatchMatMulAA.proc, batchProcChecks, numel_eq, hx0, hx1, hy0, hy1, Shape.numel_cons,
    Shape.numel_nil, mul_one, hmk, hkn, or_self, if_false, h0, h1, if_true,
    show (1 : Fin 2) ≠ 0 by decide, bind_eq, request_bind, pure_eq, ret_bind, List.getD_cons_zero,
    List.getD_cons_succ, List.length_cons, List.length_nil, enforce_pos, and_self]
  refine exec_call_sat F (hF _ _ bs m k n hx0 hy1).1 fun d d' ⟨_, _, hd⟩ =>
    exec_call_sat F (hF _ _ bs m k n hx1 hy0).2 fun l l' ⟨_, _, hl⟩ =>
      ⟨by simp [KernelEvalContext.alloc], by simp [KernelEvalContext.alloc], fun q hq => ?_⟩
  have hdq := hd q hq
  have hlq := hl q hq
  simp only [Shape.numel_cons, Shape.numel_nil, mul_one] at hq
  simp only [as_buf, ringAdd_buf, Pi.add_apply,
    batchMatMul_loop_buf x0 y0 (ctx0.alloc _ _) hx0 hy0 rfl hq,
    batchMatMul_loop_buf x1 y1 (ctx1.alloc _ _) hx1 hy1 rfl hq,
    bmmulBuf_add_left, bmmulBuf_add_right] at hdq hlq ⊢
  linear_combination hdq + hlq

/-- `MatMulAV` reconstructs `x y` for either owner of `y`; `ys r` is rank `r`'s copy. -/
theorem MatMulAV.proc_reconstructs (hF : DotOLESpec F)
    {m k n : Nat} (hm : 0 < m) (hk : 0 < k) (hn : 0 < n) {x0 x1 : NdArrayRef w}
    {ys : Fin 2 → NdArrayRef w} {o : Fin 2} (hx0 : x0.shape = [m, k]) (hx1 : x1.shape = [m, k])
    (hys : ∀ r, (ys r).shape = [k, n]) (hown : ∀ r, (ys r).eltype = .priv o) :
    (exec F (MatMulAV.proc ctx0 x0 (ys 0)) (MatMulAV.proc ctx1 x1 (ys 1))).Sat
      (AddShares [m, n] (mmulBuf k n (x0.buf + x1.buf) (ys o).buf)) := by
  have hmk : m * k ≠ 0 := Nat.mul_ne_zero hm.ne' hk.ne'
  have hkn : k * n ≠ 0 := Nat.mul_ne_zero hk.ne' hn.ne'
  simp only [MatMulAV.proc, numel_eq, hx0, hx1, hys, hown, Ty.privOwner, Shape.numel_cons,
    Shape.numel_nil, mul_one, hmk, hkn, or_self, if_false, h0, h1, bind_eq, request_bind, pure_eq,
    ret_bind, List.getD_cons_zero, List.getD_cons_succ]
  obtain rfl | rfl : o = 0 ∨ o = 1 := by omega
  · simp only [if_true, show (1 : Fin 2) ≠ 0 by decide, if_false]
    refine exec_call_sat F (hF _ _ m k n hx1 (hys 0)).2 fun s s' ⟨hs, hs', hv⟩ =>
      ⟨by simpa using hs, by simpa using hs', fun i hi => ?_⟩
    have := hv i hi
    simp only [as_buf, ringAdd_buf, ringMmul_buf, Pi.add_apply, hx0, hys, List.getD_cons_zero,
      List.getD_cons_succ, mmulBuf_add_left] at this ⊢
    linear_combination this
  · simp only [if_true, show (0 : Fin 2) ≠ 1 by decide, if_false]
    refine exec_call_sat F (hF _ _ m k n hx0 (hys 1)).1 fun s s' ⟨hs, hs', hv⟩ =>
      ⟨by simpa using hs, by simpa using hs', fun i hi => ?_⟩
    have := hv i hi
    simp only [as_buf, ringAdd_buf, ringMmul_buf, Pi.add_apply, hx1, hys, List.getD_cons_zero,
      List.getD_cons_succ, mmulBuf_add_left] at this ⊢
    linear_combination this

/-- `BatchMatMulAV` reconstructs `x[b] y[b]` in every slice `b`, for either owner. -/
theorem BatchMatMulAV.proc_reconstructs (hF : BatchDotOLESpec F)
    {bs m k n : Nat} (hb : 0 < bs) (hm : 0 < m) (hk : 0 < k) (hn : 0 < n) {x0 x1 : NdArrayRef w}
    {ys : Fin 2 → NdArrayRef w} {o : Fin 2} (hx0 : x0.shape = [bs, m, k])
    (hx1 : x1.shape = [bs, m, k]) (hys : ∀ r, (ys r).shape = [bs, k, n])
    (hown : ∀ r, (ys r).eltype = .priv o) :
    (exec F (BatchMatMulAV.proc ctx0 x0 (ys 0)) (BatchMatMulAV.proc ctx1 x1 (ys 1))).Sat
      (AddShares [bs, m, n] (bmmulBuf m k n (x0.buf + x1.buf) (ys o).buf)) := by
  have hmk : bs * (m * k) ≠ 0 := Nat.mul_ne_zero hb.ne' (Nat.mul_ne_zero hm.ne' hk.ne')
  have hkn : bs * (k * n) ≠ 0 := Nat.mul_ne_zero hb.ne' (Nat.mul_ne_zero hk.ne' hn.ne')
  simp only [BatchMatMulAV.proc, batchProcChecks, numel_eq, hx0, hx1, hys, hown, Ty.privOwner,
    Shape.numel_cons, Shape.numel_nil, mul_one, hmk, hkn, or_self, if_false, h0, h1, bind_eq,
    request_bind, pure_eq, ret_bind, List.getD_cons_zero, List.getD_cons_succ, List.length_cons,
    List.length_nil, enforce_pos, and_self]
  obtain rfl | rfl : o = 0 ∨ o = 1 := by omega
  · simp only [ne_eq, not_true_eq_false, if_false, show (1 : Fin 2) ≠ 0 by decide, not_false_eq_true, if_true]
    refine exec_call_sat F (hF _ _ bs m k n hx1 (hys 0)).2 fun s s' ⟨hs, hs', hv⟩ =>
      ⟨by simpa using hs, by simpa using hs', fun q hq => ?_⟩
    have := hv q hq
    simp only [Shape.numel_cons, Shape.numel_nil, mul_one] at hq
    simp only [as_buf, batchMatMul_addLoop_buf x0 (ys 0) s hx0 (hys 0) hs hq, Pi.add_apply,
      bmmulBuf_add_left] at this ⊢
    linear_combination this
  · simp only [ne_eq, not_true_eq_false, if_false, show (0 : Fin 2) ≠ 1 by decide, not_false_eq_true, if_true]
    refine exec_call_sat F (hF _ _ bs m k n hx0 (hys 1)).1 fun s s' ⟨hs, hs', hv⟩ =>
      ⟨by simpa using hs, by simpa using hs', fun q hq => ?_⟩
    have := hv q hq
    simp only [Shape.numel_cons, Shape.numel_nil, mul_one] at hq
    simp only [as_buf, batchMatMul_addLoop_buf x1 (ys 1) s' hx1 (hys 1) hs' hq, Pi.add_apply,
      bmmulBuf_add_left] at this ⊢
    linear_combination this

end Runs

section Claims

variable (F : Functionality w) (ctx0 ctx1 : KernelEvalContext w)

/-- Both shared-by-shared matrix kernels reconstruct the plaintext product, the
batched one slice by slice, for every non-empty conformant shape. -/
theorem matMulAA_reconstructs_product (hdot : DotOLESpec F) (hbatch : BatchDotOLESpec F)
    (h0 : ctx0.rank = 0) (h1 : ctx1.rank = 1) :
    (∀ (m k n : Nat) (x0 x1 y0 y1 : NdArrayRef w), 0 < m → 0 < k → 0 < n →
      x0.shape = [m, k] → x1.shape = [m, k] → y0.shape = [k, n] → y1.shape = [k, n] →
      (exec F (MatMulAA.proc ctx0 x0 y0) (MatMulAA.proc ctx1 x1 y1)).Sat
        (AddShares [m, n] (mmulBuf k n (x0.buf + x1.buf) (y0.buf + y1.buf)))) ∧
    (∀ (bs m k n : Nat) (x0 x1 y0 y1 : NdArrayRef w), 0 < bs → 0 < m → 0 < k → 0 < n →
      x0.shape = [bs, m, k] → x1.shape = [bs, m, k] → y0.shape = [bs, k, n] →
      y1.shape = [bs, k, n] →
      (exec F (BatchMatMulAA.proc ctx0 x0 y0) (BatchMatMulAA.proc ctx1 x1 y1)).Sat
        (AddShares [bs, m, n] (bmmulBuf m k n (x0.buf + x1.buf) (y0.buf + y1.buf)))) :=
  ⟨fun _ _ _ _ _ _ _ hm hk hn hx0 hx1 hy0 hy1 =>
    MatMulAA.proc_reconstructs F h0 h1 hdot hm hk hn hx0 hx1 hy0 hy1,
   fun _ _ _ _ _ _ _ _ hb hm hk hn hx0 hx1 hy0 hy1 =>
    BatchMatMulAA.proc_reconstructs F h0 h1 hbatch hb hm hk hn hx0 hx1 hy0 hy1⟩

theorem matMulAA_reconstructs_product_instance :
    (exec (dealer : Functionality 8)
      (MatMulAA.proc (.ofRank 0 1) ⟨.ashr, [1, 2], fun _ => 2⟩ ⟨.ashr, [2, 1], fun _ => 3⟩)
      (MatMulAA.proc (.ofRank 1 1) ⟨.ashr, [1, 2], fun _ => 4⟩ ⟨.ashr, [2, 1], fun _ => 5⟩)).Sat
        (AddShares [1, 1] (mmulBuf 2 1 ((fun _ => 2) + fun _ => 4) ((fun _ => 3) + fun _ => 5))) ∧
    (exec (dealer : Functionality 8)
      (BatchMatMulAA.proc (.ofRank 0 1) ⟨.ashr, [2, 1, 1], fun _ => 2⟩ ⟨.ashr, [2, 1, 1], fun _ => 3⟩)
      (BatchMatMulAA.proc (.ofRank 1 1) ⟨.ashr, [2, 1, 1], fun _ => 4⟩
        ⟨.ashr, [2, 1, 1], fun _ => 5⟩)).Sat
        (AddShares [2, 1, 1] (bmmulBuf 1 1 1 ((fun _ => 2) + fun _ => 4) ((fun _ => 3) + fun _ => 5))) :=
  ⟨(matMulAA_reconstructs_product dealer (.ofRank 0 1) (.ofRank 1 1) dealer_dotOLE
      dealer_batchDotOLE rfl rfl).1 1 2 1 ⟨.ashr, [1, 2], fun _ => 2⟩ ⟨.ashr, [1, 2], fun _ => 4⟩
      ⟨.ashr, [2, 1], fun _ => 3⟩ ⟨.ashr, [2, 1], fun _ => 5⟩ (by decide) (by decide) (by decide)
      rfl rfl rfl rfl,
    (matMulAA_reconstructs_product dealer (.ofRank 0 1) (.ofRank 1 1) dealer_dotOLE
      dealer_batchDotOLE rfl rfl).2 2 1 1 1 ⟨.ashr, [2, 1, 1], fun _ => 2⟩
      ⟨.ashr, [2, 1, 1], fun _ => 4⟩ ⟨.ashr, [2, 1, 1], fun _ => 3⟩ ⟨.ashr, [2, 1, 1], fun _ => 5⟩
      (by decide) (by decide) (by decide) (by decide) rfl rfl rfl rfl⟩

/-- The private-operand kernels reconstruct `x y` for either owner `o` of `y`:
elementwise, as a matrix product, and slice by slice over a batch. -/
theorem mulAV_family_reconstructs (hmul : MulOLESpec F) (hdot : DotOLESpec F)
    (hbatch : BatchDotOLESpec F) (h0 : ctx0.rank = 0) (h1 : ctx1.rank = 1) (o : Fin 2) :
    (∀ (x0 x1 : NdArrayRef w) (ys : Fin 2 → NdArrayRef w), x1.shape = x0.shape →
      (∀ r, (ys r).shape = x0.shape) → (∀ r, (ys r).eltype = .priv o) →
      (exec F (MulAV.proc ctx0 x0 (ys 0)) (MulAV.proc ctx1 x1 (ys 1))).Sat
        (AddShares x0.shape fun i => (x0.buf i + x1.buf i) * (ys o).buf i)) ∧
    (∀ (m k n : Nat) (x0 x1 : NdArrayRef w) (ys : Fin 2 → NdArrayRef w), 0 < m → 0 < k → 0 < n →
      x0.shape = [m, k] → x1.shape = [m, k] → (∀ r, (ys r).shape = [k, n]) →
      (∀ r, (ys r).eltype = .priv o) →
      (exec F (MatMulAV.proc ctx0 x0 (ys 0)) (MatMulAV.proc ctx1 x1 (ys 1))).Sat
        (AddShares [m, n] (mmulBuf k n (x0.buf + x1.buf) (ys o).buf))) ∧
    (∀ (bs m k n : Nat) (x0 x1 : NdArrayRef w) (ys : Fin 2 → NdArrayRef w), 0 < bs → 0 < m →
      0 < k → 0 < n → x0.shape = [bs, m, k] → x1.shape = [bs, m, k] →
      (∀ r, (ys r).shape = [bs, k, n]) → (∀ r, (ys r).eltype = .priv o) →
      (exec F (BatchMatMulAV.proc ctx0 x0 (ys 0)) (BatchMatMulAV.proc ctx1 x1 (ys 1))).Sat
        (AddShares [bs, m, n] (bmmulBuf m k n (x0.buf + x1.buf) (ys o).buf))) :=
  ⟨fun _ _ _ hx hys hown => MulAV.proc_reconstructs F h0 h1 hmul hx hys hown,
   fun _ _ _ _ _ _ hm hk hn hx0 hx1 hys hown =>
    MatMulAV.proc_reconstructs F h0 h1 hdot hm hk hn hx0 hx1 hys hown,
   fun _ _ _ _ _ _ _ hb hm hk hn hx0 hx1 hys hown =>
    BatchMatMulAV.proc_reconstructs F h0 h1 hbatch hb hm hk hn hx0 hx1 hys hown⟩

theorem mulAV_family_reconstructs_instance :
    (exec (dealer : Functionality 8)
      (MulAV.proc (.ofRank 0 1) ⟨.ashr, [2], fun _ => 2⟩ ⟨.priv 1, [2], fun _ => 3⟩)
      (MulAV.proc (.ofRank 1 1) ⟨.ashr, [2], fun _ => 4⟩ ⟨.priv 1, [2], fun _ => 3⟩)).Sat
        (AddShares [2] fun i => ((fun _ => 2 : Nat → BitVec 8) i + (fun _ => 4 : Nat → BitVec 8) i) *
          (fun _ => 3 : Nat → BitVec 8) i) ∧
    (exec (dealer : Functionality 8)
      (MatMulAV.proc (.ofRank 0 1) ⟨.ashr, [1, 2], fun _ => 2⟩ ⟨.priv 1, [2, 1], fun _ => 3⟩)
      (MatMulAV.proc (.ofRank 1 1) ⟨.ashr, [1, 2], fun _ => 4⟩ ⟨.priv 1, [2, 1], fun _ => 3⟩)).Sat
        (AddShares [1, 1] (mmulBuf 2 1 ((fun _ => 2) + fun _ => 4) fun _ => 3)) ∧
    (exec (dealer : Functionality 8)
      (BatchMatMulAV.proc (.ofRank 0 1) ⟨.ashr, [2, 1, 1], fun _ => 2⟩
        ⟨.priv 1, [2, 1, 1], fun _ => 3⟩)
      (BatchMatMulAV.proc (.ofRank 1 1) ⟨.ashr, [2, 1, 1], fun _ => 4⟩
        ⟨.priv 1, [2, 1, 1], fun _ => 3⟩)).Sat
        (AddShares [2, 1, 1] (bmmulBuf 1 1 1 ((fun _ => 2) + fun _ => 4) fun _ => 3)) :=
  ⟨(mulAV_family_reconstructs dealer (.ofRank 0 1) (.ofRank 1 1) dealer_mulOLE dealer_dotOLE
      dealer_batchDotOLE rfl rfl 1).1 ⟨.ashr, [2], fun _ => 2⟩ ⟨.ashr, [2], fun _ => 4⟩
      (fun _ => ⟨.priv 1, [2], fun _ => 3⟩) rfl (fun _ => rfl) (fun _ => rfl),
    (mulAV_family_reconstructs dealer (.ofRank 0 1) (.ofRank 1 1) dealer_mulOLE dealer_dotOLE
      dealer_batchDotOLE rfl rfl 1).2.1 1 2 1 ⟨.ashr, [1, 2], fun _ => 2⟩
      ⟨.ashr, [1, 2], fun _ => 4⟩ (fun _ => ⟨.priv 1, [2, 1], fun _ => 3⟩) (by decide) (by decide)
      (by decide) rfl rfl (fun _ => rfl) (fun _ => rfl),
    (mulAV_family_reconstructs dealer (.ofRank 0 1) (.ofRank 1 1) dealer_mulOLE dealer_dotOLE
      dealer_batchDotOLE rfl rfl 1).2.2 2 1 1 1 ⟨.ashr, [2, 1, 1], fun _ => 2⟩
      ⟨.ashr, [2, 1, 1], fun _ => 4⟩ (fun _ => ⟨.priv 1, [2, 1, 1], fun _ => 3⟩) (by decide)
      (by decide) (by decide) (by decide) rfl rfl (fun _ => rfl) (fun _ => rfl)⟩

end Claims

/-! ## Empty operands

The batched kernels answer an empty operand with an array of shape
`(x.shape[0], y.shape[1])`, the shape the two-dimensional kernels use, where
their output is `(B, M, N)`. -/

/-- On `(1, 2, 0) × (1, 0, 3)`, which both `evaluate` checks accept, the batched
kernels return an array of shape `(1, 0)` and not `(1, 2, 3)`. -/
theorem batchMatMul_empty_operand_shape :
    BatchMatMulAA.evaluate (.ofRank 0 1 : KernelEvalContext 8) ⟨.ashr, [1, 2, 0], 0⟩
        ⟨.ashr, [1, 0, 3], 0⟩ = .ret ⟨.ashr, [1, 0], 0⟩ ∧
    BatchMatMulAV.evaluate (.ofRank 0 1 : KernelEvalContext 8) ⟨.ashr, [1, 2, 0], 0⟩
        ⟨.priv 1, [1, 0, 3], 0⟩ = .ret ⟨.ashr, [1, 0], 0⟩ :=
  ⟨rfl, rfl⟩

end Cheetah
