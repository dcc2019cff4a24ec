import Cheetah.Msb
import Cheetah.Equal
import Cheetah.MatMul

/-! # Pairing of the two ranks' calls

Each kernel runs on both ranks under one session: same public shapes, element
types and configuration, rank 0 and rank 1. Its two programs then issue, call
by call, complementary requests on the same link: the same primitive on the
same sizes, opposite roles where the primitive has roles, and the same
branches. One exception is `EqualAP`, whose shape check only rank 1 makes.
-/

namespace Cheetah

open NdArrayRef Prog

variable {w : Nat}

section Kernels

variable {ctx0 ctx1 : KernelEvalContext w}

theorem TruncA.proc_paired {x0 x1 : NdArrayRef w} (hx : x1.shape = x0.shape) (bits : Nat)
    (sign : SignType) : Paired (TruncA.proc ctx0 x0 bits sign) (TruncA.proc ctx1 x1 bits sign) := by
  simp only [TruncA.proc, numel_eq, hx, bind_eq, pure_eq, ret_bind, request_bind]
  exact .ite (fun _ => .ret _ _) fun _ => .call ⟨by simp [hx], rfl⟩ fun _ _ => .ret _ _

theorem MulA1B.proc_paired {a0 a1 b0 b1 : NdArrayRef w} (ha : a1.shape = a0.shape)
    (hb : b1.shape = b0.shape) : Paired (MulA1B.proc ctx0 a0 b0) (MulA1B.proc ctx1 a1 b1) := by
  simp only [MulA1B.proc, numel_eq, ha, hb, bind_eq, enforce_bind, pure_eq, ret_bind, request_bind]
  exact .ite (fun _ => .ite (fun _ => .ret _ _) fun _ =>
    .call (by simp [ha]) fun _ _ => .ret _ _) fun _ => .fail _ _

theorem MulAA.mulWithBeaver_paired {x0 x1 y0 y1 : NdArrayRef w} (hx : x1.shape = x0.shape)
    (hy : y1.shape = y0.shape) :
    Paired (MulAA.mulWithBeaver ctx0 x0 y0) (MulAA.mulWithBeaver ctx1 x1 y1) := by
  simp only [MulAA.mulWithBeaver, vmap, KernelEvalContext.takeCachedBeaver, numel_eq, hx, hy,
    bind_eq, enforce_bind, pure_eq, ret_bind, request_bind, call_bind, reshape_shape,
    Shape.numel_cons, Shape.numel_nil, mul_one, if_true]
  exact .ite (fun _ => .ret _ _) fun _ => .call (by simp [hx, hy]) fun _ _ => .ret _ _

variable (hs : Session ctx0 ctx1)
include hs

theorem MsbA2B.proc_paired (nbits_ : Nat) {x0 x1 : NdArrayRef w} (hx : x1.shape = x0.shape) :
    Paired (MsbA2B.proc nbits_ ctx0 x0) (MsbA2B.proc nbits_ ctx1 x1) := by
  simp only [MsbA2B.proc, numel_eq, hx, hs.rank0, hs.rank1, if_true, show (1 : Fin 2) ≠ 0 by decide,
    if_false, bind_eq, enforce_bind, pure_eq, ret_bind, request_bind]
  exact .ite (fun _ => .ite (fun _ => .ret _ _) fun _ =>
    .call ⟨by simp [hx], rfl, rfl⟩ fun _ _ => .ret _ _) fun _ => .fail _ _

theorem EqualAA.proc_paired (nbits_ : Nat) {x0 x1 y0 y1 : NdArrayRef w} (hx : x1.shape = x0.shape)
    (hy : y1.shape = y0.shape) :
    Paired (EqualAA.proc nbits_ ctx0 x0 y0) (EqualAA.proc nbits_ ctx1 x1 y1) := by
  simp only [EqualAA.proc, numel_eq, hx, hy, hs.rank0, hs.rank1, if_true,
    show (1 : Fin 2) ≠ 0 by decide, if_false, bind_eq, enforce_bind, pure_eq, ret_bind, request_bind]
  exact .ite (fun h => .ite (fun _ => .ite (fun _ => .ret _ _) fun _ =>
    .call ⟨by simp [hx, hy, h], rfl⟩ fun _ _ => .ret _ _) fun _ => .fail _ _) fun _ => .fail _ _

theorem EqualAP.proc_paired {x0 x1 y0 y1 : NdArrayRef w} (hx : x1.shape = x0.shape)
    (hy : y1.shape = x0.shape) : Paired (EqualAP.proc ctx0 x0 y0) (EqualAP.proc ctx1 x1 y1) := by
  simp only [EqualAP.proc, hs.rank0, hs.rank1, hs.env, if_true, show (1 : Fin 2) ≠ 0 by decide,
    if_false]
  exact EqualAA.proc_paired hs _ hx (by rw [hy, ringZeros_shape])

theorem MulA1BV.proc_paired {a0 a1 b0 b1 : NdArrayRef w} (ha : a1.shape = a0.shape)
    (hb : b1.shape = b0.shape) (hown : b1.eltype = b0.eltype) :
    Paired (MulA1BV.proc ctx0 a0 b0) (MulA1BV.proc ctx1 a1 b1) := by
  simp only [MulA1BV.proc, numel_eq, ha, hb, hown, hs.rank0, hs.rank1, bind_eq, enforce_bind,
    pure_eq, ret_bind, request_bind, ne_eq, ite_not]
  rcases b0.eltype.privOwner with _ | o
  · exact .ite (fun _ => .fail _ _) fun _ => .fail _ _
  · exact .ite (fun _ => .ite (fun _ => .ret _ _) fun _ =>
      .owner_ite (.call (by simp [ha]) fun _ _ => .ret _ _) (.call (by simp [ha]) fun _ _ => .ret _ _))
      fun _ => .fail _ _


theorem MulAV.proc_paired {x0 x1 y0 y1 : NdArrayRef w} (hx : x1.shape = x0.shape)
    (hy : y1.shape = y0.shape) (hown : y1.eltype = y0.eltype) :
    Paired (MulAV.proc ctx0 x0 y0) (MulAV.proc ctx1 x1 y1) := by
  simp only [MulAV.proc, numel_eq, hx, hy, hown, hs.rank0, hs.rank1, bind_eq, enforce_bind,
    pure_eq, ret_bind, request_bind, ne_eq, ite_not]
  rcases y0.eltype.privOwner with _ | o
  · exact .ite (fun _ => .ite (fun _ => .ret _ _) fun _ => .fail _ _) fun _ => .fail _ _
  · exact .ite (fun _ => .ite (fun _ => .ret _ _) fun _ =>
      .owner_ite (.call (by simp) fun _ _ => .ret _ _) (.call (by simp) fun _ _ => .ret _ _))
      fun _ => .fail _ _


theorem MulAA.mulDirectly_paired {x0 x1 y0 y1 : NdArrayRef w} (hx : x1.shape = x0.shape) :
    Paired (MulAA.mulDirectly ctx0 x0 y0) (MulAA.mulDirectly ctx1 x1 y1) := by
  simp only [MulAA.mulDirectly, numel_eq, hx, hs.rank0, hs.rank1, bind_eq, pure_eq, ret_bind,
    request_bind, call_bind]
  exact .call (by simp) fun _ _ =>
    .call (by simp) fun _ _ => .ret _ _

theorem MulAA.proc_paired {x0 x1 y0 y1 : NdArrayRef w} (hx : x1.shape = x0.shape)
    (hy : y1.shape = y0.shape) : Paired (MulAA.proc ctx0 x0 y0) (MulAA.proc ctx1 x1 y1) := by
  simp only [MulAA.proc, numel_eq, hx, hy, hs.batch, bind_eq, enforce_bind]
  exact .ite (fun _ => .ite (fun _ => MulAA.mulDirectly_paired hs hx)
    fun _ => MulAA.mulWithBeaver_paired hx hy) fun _ => .fail _ _

theorem SquareA.proc_paired {x0 x1 : NdArrayRef w} (hx : x1.shape = x0.shape) :
    Paired (SquareA.proc ctx0 x0) (SquareA.proc ctx1 x1) := by
  simp only [SquareA.proc, numel_eq, hx, hs.rank0, hs.rank1, bind_eq, pure_eq, ret_bind,
    request_bind, call_bind]
  exact .ite (fun _ => .ret _ _) fun _ => .call (by simp) fun _ _ =>
    .ite (fun _ => .call (by simp) fun _ _ => .ret _ _) fun _ => .ret _ _

theorem MatMulVVS.proc_paired {x0 x1 y0 y1 : NdArrayRef w} (hx : x1.shape = x0.shape)
    (hy : y1.shape = y0.shape) (hown : x1.eltype = x0.eltype) :
    Paired (MatMulVVS.proc ctx0 x0 y0) (MatMulVVS.proc ctx1 x1 y1) := by
  simp only [MatMulVVS.proc, numel_eq, hx, hy, hown, hs.rank0, hs.rank1, bind_eq, pure_eq,
    ret_bind, request_bind]
  rcases x0.eltype.privOwner with _ | o
  · exact .ite (fun _ => .ret _ _) fun _ => .fail _ _
  · exact .ite (fun _ => .ret _ _) fun _ => .owner_ite
      (.call ⟨rfl, by decide⟩ fun _ _ => .ret _ _) (.call ⟨rfl, by decide⟩ fun _ _ => .ret _ _)


theorem MatMulAA.proc_paired {x0 x1 y0 y1 : NdArrayRef w} (hx : x1.shape = x0.shape)
    (hy : y1.shape = y0.shape) : Paired (MatMulAA.proc ctx0 x0 y0) (MatMulAA.proc ctx1 x1 y1) := by
  simp only [MatMulAA.proc, numel_eq, hx, hy, hs.rank0, hs.rank1, if_true,
    show (1 : Fin 2) ≠ 0 by decide, if_false, bind_eq, pure_eq, ret_bind, request_bind, call_bind]
  exact .ite (fun _ => .ret _ _) fun _ => .call ⟨rfl, by decide⟩ fun _ _ =>
    .call ⟨rfl, by decide⟩ fun _ _ => .ret _ _

theorem MatMulAV.proc_paired {x0 x1 y0 y1 : NdArrayRef w} (hx : x1.shape = x0.shape)
    (hy : y1.shape = y0.shape) (hown : y1.eltype = y0.eltype) :
    Paired (MatMulAV.proc ctx0 x0 y0) (MatMulAV.proc ctx1 x1 y1) := by
  simp only [MatMulAV.proc, numel_eq, hx, hy, hown, hs.rank0, hs.rank1, bind_eq, pure_eq,
    ret_bind, request_bind]
  rcases y0.eltype.privOwner with _ | o
  · exact .ite (fun _ => .ret _ _) fun _ => .fail _ _
  · exact .ite (fun _ => .ret _ _) fun _ => .owner_ite
      (.call ⟨rfl, by decide⟩ fun _ _ => .ret _ _) (.call ⟨rfl, by decide⟩ fun _ _ => .ret _ _)


theorem BatchMatMulAA.proc_paired {x0 x1 y0 y1 : NdArrayRef w} (hx : x1.shape = x0.shape)
    (hy : y1.shape = y0.shape) :
    Paired (BatchMatMulAA.proc ctx0 x0 y0) (BatchMatMulAA.proc ctx1 x1 y1) := by
  simp only [BatchMatMulAA.proc, batchProcChecks, numel_eq, hx, hy, hs.rank0, hs.rank1, if_true,
    show (1 : Fin 2) ≠ 0 by decide, if_false, bind_eq, pure_eq, ret_bind, request_bind, call_bind,
    enforce_bind, ite_bind, fail_bind]
  exact .ite (fun _ => .ret _ _) fun _ => .ite (fun _ => .ite (fun _ => .ite (fun _ =>
    .call ⟨rfl, by decide⟩ fun _ _ => .call ⟨rfl, by decide⟩ fun _ _ => .ret _ _)
    fun _ => .fail _ _) fun _ => .fail _ _) fun _ => .fail _ _

theorem BatchMatMulAV.proc_paired {x0 x1 y0 y1 : NdArrayRef w} (hx : x1.shape = x0.shape)
    (hy : y1.shape = y0.shape) (hown : y1.eltype = y0.eltype) :
    Paired (BatchMatMulAV.proc ctx0 x0 y0) (BatchMatMulAV.proc ctx1 x1 y1) := by
  simp only [BatchMatMulAV.proc, batchProcChecks, numel_eq, hx, hy, hown, hs.rank0, hs.rank1,
    bind_eq, pure_eq, ret_bind, request_bind, call_bind, enforce_bind, ite_bind, fail_bind, ne_eq,
    ite_not]
  rcases y0.eltype.privOwner with _ | o
  all_goals refine .ite (fun _ => .ret _ _) fun _ => .ite (fun _ => .ite (fun _ => .ite (fun _ => ?_)
    fun _ => .fail _ _) fun _ => .fail _ _) fun _ => .fail _ _
  · exact .fail _ _
  · exact .owner_ite (.call ⟨rfl, by decide⟩ fun _ _ => .ret _ _)
      (.call ⟨rfl, by decide⟩ fun _ _ => .ret _ _)

end Kernels

section Claims

variable (ctx0 ctx1 : KernelEvalContext w)

/-- Under one session every two-party kernel pairs its ranks' calls, for all
public shapes, element types and owners; `EqualAP` needs the public `y` to
have the shape of `x`. So no kernel deadlocks: under any functionality that
answers every invocation, the joint run finishes or both ranks abort. -/
theorem kernels_paired (hs : Session ctx0 ctx1) (F : Functionality w) (hF : F.Serves) :
    (∀ (x0 x1 : NdArrayRef w) (bits : Nat) (sign : SignType), x1.shape = x0.shape →
      Paired (TruncA.proc ctx0 x0 bits sign) (TruncA.proc ctx1 x1 bits sign) ∧
        exec F (TruncA.proc ctx0 x0 bits sign) (TruncA.proc ctx1 x1 bits sign) ≠ .stuck) ∧
    (∀ (nbits_ : Nat) (x0 x1 : NdArrayRef w), x1.shape = x0.shape →
      Paired (MsbA2B.proc nbits_ ctx0 x0) (MsbA2B.proc nbits_ ctx1 x1) ∧
        exec F (MsbA2B.proc nbits_ ctx0 x0) (MsbA2B.proc nbits_ ctx1 x1) ≠ .stuck) ∧
    (∀ (nbits_ : Nat) (x0 x1 y0 y1 : NdArrayRef w), x1.shape = x0.shape → y1.shape = y0.shape →
      Paired (EqualAA.proc nbits_ ctx0 x0 y0) (EqualAA.proc nbits_ ctx1 x1 y1) ∧
        exec F (EqualAA.proc nbits_ ctx0 x0 y0) (EqualAA.proc nbits_ ctx1 x1 y1) ≠ .stuck) ∧
    (∀ x0 x1 y0 y1 : NdArrayRef w, x1.shape = x0.shape → y1.shape = x0.shape →
      Paired (EqualAP.proc ctx0 x0 y0) (EqualAP.proc ctx1 x1 y1) ∧
        exec F (EqualAP.proc ctx0 x0 y0) (EqualAP.proc ctx1 x1 y1) ≠ .stuck) ∧
    (∀ a0 a1 b0 b1 : NdArrayRef w, a1.shape = a0.shape → b1.shape = b0.shape →
      Paired (MulA1B.proc ctx0 a0 b0) (MulA1B.proc ctx1 a1 b1) ∧
        exec F (MulA1B.proc ctx0 a0 b0) (MulA1B.proc ctx1 a1 b1) ≠ .stuck) ∧
    (∀ a0 a1 b0 b1 : NdArrayRef w, a1.shape = a0.shape → b1.shape = b0.shape →
      b1.eltype = b0.eltype → Paired (MulA1BV.proc ctx0 a0 b0) (MulA1BV.proc ctx1 a1 b1) ∧
        exec F (MulA1BV.proc ctx0 a0 b0) (MulA1BV.proc ctx1 a1 b1) ≠ .stuck) ∧
    (∀ x0 x1 y0 y1 : NdArrayRef w, x1.shape = x0.shape → y1.shape = y0.shape →
      y1.eltype = y0.eltype → Paired (MulAV.proc ctx0 x0 y0) (MulAV.proc ctx1 x1 y1) ∧
        exec F (MulAV.proc ctx0 x0 y0) (MulAV.proc ctx1 x1 y1) ≠ .stuck) ∧
    (∀ x0 x1 y0 y1 : NdArrayRef w, x1.shape = x0.shape → y1.shape = y0.shape →
      Paired (MulAA.proc ctx0 x0 y0) (MulAA.proc ctx1 x1 y1) ∧
        exec F (MulAA.proc ctx0 x0 y0) (MulAA.proc ctx1 x1 y1) ≠ .stuck) ∧
    (∀ x0 x1 : NdArrayRef w, x1.shape = x0.shape →
      Paired (SquareA.proc ctx0 x0) (SquareA.proc ctx1 x1) ∧
        exec F (SquareA.proc ctx0 x0) (SquareA.proc ctx1 x1) ≠ .stuck) ∧
    (∀ x0 x1 y0 y1 : NdArrayRef w, x1.shape = x0.shape → y1.shape = y0.shape →
      x1.eltype = x0.eltype → Paired (MatMulVVS.proc ctx0 x0 y0) (MatMulVVS.proc ctx1 x1 y1) ∧
        exec F (MatMulVVS.proc ctx0 x0 y0) (MatMulVVS.proc ctx1 x1 y1) ≠ .stuck) ∧
    (∀ x0 x1 y0 y1 : NdArrayRef w, x1.shape = x0.shape → y1.shape = y0.shape →
      Paired (MatMulAA.proc ctx0 x0 y0) (MatMulAA.proc ctx1 x1 y1) ∧
        exec F (MatMulAA.proc ctx0 x0 y0) (MatMulAA.proc ctx1 x1 y1) ≠ .stuck) ∧
    (∀ x0 x1 y0 y1 : NdArrayRef w, x1.shape = x0.shape → y1.shape = y0.shape →
      y1.eltype = y0.eltype → Paired (MatMulAV.proc ctx0 x0 y0) (MatMulAV.proc ctx1 x1 y1) ∧
        exec F (MatMulAV.proc ctx0 x0 y0) (MatMulAV.proc ctx1 x1 y1) ≠ .stuck) ∧
    (∀ x0 x1 y0 y1 : NdArrayRef w, x1.shape = x0.shape → y1.shape = y0.shape →
      Paired (BatchMatMulAA.proc ctx0 x0 y0) (BatchMatMulAA.proc ctx1 x1 y1) ∧
        exec F (BatchMatMulAA.proc ctx0 x0 y0) (BatchMatMulAA.proc ctx1 x1 y1) ≠ .stuck) ∧
    (∀ x0 x1 y0 y1 : NdArrayRef w, x1.shape = x0.shape → y1.shape = y0.shape →
      y1.eltype = y0.eltype →
        Paired (BatchMatMulAV.proc ctx0 x0 y0) (BatchMatMulAV.proc ctx1 x1 y1) ∧
          exec F (BatchMatMulAV.proc ctx0 x0 y0) (BatchMatMulAV.proc ctx1 x1 y1) ≠ .stuck) :=
  ⟨fun _ _ _ _ hx => (TruncA.proc_paired hx _ _).and_exec_ne_stuck hF,
   fun _ _ _ hx => (MsbA2B.proc_paired hs _ hx).and_exec_ne_stuck hF,
   fun _ _ _ _ _ hx hy => (EqualAA.proc_paired hs _ hx hy).and_exec_ne_stuck hF,
   fun _ _ _ _ hx hy => (EqualAP.proc_paired hs hx hy).and_exec_ne_stuck hF,
   fun _ _ _ _ ha hb => (MulA1B.proc_paired ha hb).and_exec_ne_stuck hF,
   fun _ _ _ _ ha hb hown => (MulA1BV.proc_paired hs ha hb hown).and_exec_ne_stuck hF,
   fun _ _ _ _ hx hy hown => (MulAV.proc_paired hs hx hy hown).and_exec_ne_stuck hF,
   fun _ _ _ _ hx hy => (MulAA.proc_paired hs hx hy).and_exec_ne_stuck hF,
   fun _ _ hx => (SquareA.proc_paired hs hx).and_exec_ne_stuck hF,
   fun _ _ _ _ hx hy hown => (MatMulVVS.proc_paired hs hx hy hown).and_exec_ne_stuck hF,
   fun _ _ _ _ hx hy => (MatMulAA.proc_paired hs hx hy).and_exec_ne_stuck hF,
   fun _ _ _ _ hx hy hown => (MatMulAV.proc_paired hs hx hy hown).and_exec_ne_stuck hF,
   fun _ _ _ _ hx hy => (BatchMatMulAA.proc_paired hs hx hy).and_exec_ne_stuck hF,
   fun _ _ _ _ hx hy hown => (BatchMatMulAV.proc_paired hs hx hy hown).and_exec_ne_stuck hF⟩

/-- `TruncA` on two elements, under the dealer. -/
theorem kernels_paired_instance :
    Paired (TruncA.proc (.ofRank 0 1 : KernelEvalContext 8) ⟨.ashr, [2], fun _ => 3⟩ 1 .unknown)
        (TruncA.proc (.ofRank 1 1) ⟨.ashr, [2], fun _ => 5⟩ 1 .unknown) ∧
      exec dealer (TruncA.proc (.ofRank 0 1 : KernelEvalContext 8) ⟨.ashr, [2], fun _ => 3⟩ 1 .unknown)
        (TruncA.proc (.ofRank 1 1) ⟨.ashr, [2], fun _ => 5⟩ 1 .unknown) ≠ .stuck :=
  (kernels_paired (.ofRank 0 1) (.ofRank 1 1) ⟨rfl, rfl, rfl, rfl⟩ dealer dealer_serves).1 _ _ _ _
    rfl

/-- Whenever the public `y` does not have the shape of a non-empty `x`, rank 0
enters the equality protocol while rank 1 aborts: the runs never pair, and the
joint run is stuck whatever the functionalities answer. -/
theorem equalAP_unpaired_of_shape_ne (F : Functionality w) (hs : Session ctx0 ctx1)
    (hw : w < 2 ^ 31) (x0 x1 y0 y1 : NdArrayRef w) (hx : x1.shape = x0.shape)
    (hy : y1.shape ≠ x0.shape) (hn : x0.shape.numel ≠ 0) :
    exec F (EqualAP.proc ctx0 x0 y0) (EqualAP.proc ctx1 x1 y1) = .stuck ∧
    ¬Paired (EqualAP.proc ctx0 x0 y0) (EqualAP.proc ctx1 x1 y1) := by
  have hle : effNbits w (EqualAP.iequalBits w ctx0.iequalBitsEnv).toNat ≤ w := by
    have := EqualAP.iequalBits_toNat_le hw ctx0.iequalBitsEnv
    unfold effNbits; split_ifs <;> omega
  simp only [EqualAP.proc, EqualAA.proc, hs.rank0, hs.rank1, if_true,
    show (1 : Fin 2) ≠ 0 by decide, if_false, numel_eq, hx, ringZeros_shape, Ne.symm hy, hn,
    hle, bind_eq, enforce_bind, pure_eq, ret_bind, request_bind]
  exact ⟨rfl, fun h => nomatch h⟩

theorem equalAP_unpaired_of_shape_ne_instance :
    exec (dealer : Functionality 8)
        (EqualAP.proc (.ofRank 0 1) ⟨.ashr, [3], 0⟩ ⟨.pub, [3, 1], 0⟩)
        (EqualAP.proc (.ofRank 1 1) ⟨.ashr, [3], 0⟩ ⟨.pub, [3, 1], 0⟩) = .stuck ∧
    ¬Paired (EqualAP.proc (.ofRank 0 1 : KernelEvalContext 8) ⟨.ashr, [3], 0⟩ ⟨.pub, [3, 1], 0⟩)
      (EqualAP.proc (.ofRank 1 1) ⟨.ashr, [3], 0⟩ ⟨.pub, [3, 1], 0⟩) :=
  equalAP_unpaired_of_shape_ne (.ofRank 0 1) (.ofRank 1 1) dealer ⟨rfl, rfl, rfl, rfl⟩ (by decide)
    ⟨.ashr, [3], 0⟩ ⟨.ashr, [3], 0⟩ ⟨.pub, [3, 1], 0⟩ ⟨.pub, [3, 1], 0⟩ rfl (by decide) (by decide)

end Claims

/-- `EqualAP` on `x` of shape `(1)` and a public `y` of shape `(2)`: rank 0
compares `x` against zeros of its own shape and enters the equality protocol,
while rank 1 aborts on `x.shape() == y.shape()`. -/
theorem equalAP_shape_mismatch_unpaired :
    exec (dealer : Functionality 8)
        (EqualAP.proc (.ofRank 0 1) ⟨.ashr, [1], 0⟩ ⟨.pub, [2], 0⟩)
        (EqualAP.proc (.ofRank 1 1) ⟨.ashr, [1], 0⟩ ⟨.pub, [2], 0⟩) = .stuck ∧
    ¬Paired (EqualAP.proc (.ofRank 0 1 : KernelEvalContext 8) ⟨.ashr, [1], 0⟩ ⟨.pub, [2], 0⟩)
      (EqualAP.proc (.ofRank 1 1) ⟨.ashr, [1], 0⟩ ⟨.pub, [2], 0⟩) :=
  ⟨rfl, fun h => nomatch h⟩

end Cheetah
