import Cheetah.Ideal

/-! # Truncation and the most significant bit

`TruncA` and `MsbA2B` of `arithmetic.cc`, which hand their whole input to one
OT-based protocol. `MsbA2B` reads bit `n - 1` of `x0 + x1` as
`msb(x0) ^ msb(x1) ^ carry`, where the carry into that bit comes from one
comparison of `x0 mod 2^(n-1)` against `2^(n-1) - 1 - x1 mod 2^(n-1)`.
-/

namespace Cheetah

open NdArrayRef Prog

variable {w : Nat}

/-- `TruncA::proc`: the truncation protocol on the whole input, signed, with the heuristic. -/
def TruncA.proc (ctx : KernelEvalContext w) (x : NdArrayRef w) (bits : Nat) (sign : SignType) :
    Prog w (NdArrayRef w) := do
  if x.numel = 0 then
    return ctx.alloc x.eltype x.shape
  request .ot (.truncate x ⟨true, sign, bits, true⟩)

/-- `mask = (1 << shft) - 1` in the unsigned ring type. -/
def MsbA2B.mask (shft : Nat) : BitVec w := ((1 : BitVec w) <<< shft) - 1

/-- `MsbA2B::proc`: rank 0 compares `x0 & mask`, rank 1 `(mask - x1) & mask`;
each XORs its share of the carry with its own `x_r >> shft`. -/
def MsbA2B.proc (nbits_ : Nat) (ctx : KernelEvalContext w) (x : NdArrayRef w) :
    Prog w (NdArrayRef w) := do
  let nbits := effNbits w nbits_
  let shft := nbits - 1
  enforce (nbits ≤ w) "nbits <= 8 * SizeOf(field)"
  if x.numel = 0 then
    return (ctx.alloc x.eltype x.shape).as (.bshr 1)
  let mask : BitVec w := MsbA2B.mask shft
  let adjusted : NdArrayRef w := if ctx.rank = 0 then ⟨.ring, x.shape, fun i => x.buf i &&& mask⟩
    else ⟨.ring, x.shape, fun i => (mask - x.buf i) &&& mask⟩
  let carryBit ← request .ot (.compare adjusted true 0)
  return { carryBit with eltype := .bshr 1, buf := fun i => carryBit.buf i ^^^ (x.buf i >>> shft) }

/-! ## The carry identity -/

section Carry

variable {s : Nat} (hs : s < w)
include hs

theorem MsbA2B.mask_toNat : (MsbA2B.mask s : BitVec w).toNat = 2 ^ s - 1 := by
  have h1 : 2 ^ s < 2 ^ w := Nat.pow_lt_pow_right (by decide) hs
  have h2 : 0 < 2 ^ s := Nat.two_pow_pos s
  have h3 : (1 : BitVec w).toNat = 1 := by simp [show 0 < w by omega]
  have h4 : 2 ^ w - 1 + 2 ^ s = (2 ^ s - 1) + 2 ^ w := by omega
  rw [MsbA2B.mask, BitVec.toNat_sub, BitVec.toNat_shiftLeft, h3, Nat.one_shiftLeft,
    Nat.mod_eq_of_lt h1, h4, Nat.add_mod_right, Nat.mod_eq_of_lt (by omega)]

/-- Rank 0's adjusted input is its share's low `s` bits. -/
theorem MsbA2B.and_mask_toNat (x : BitVec w) :
    (x &&& MsbA2B.mask s).toNat = x.toNat % 2 ^ s := by
  rw [BitVec.toNat_and, MsbA2B.mask_toNat hs, Nat.and_pow_two_sub_one_eq_mod]

/-- Rank 1's adjusted input is `2^s - 1` minus its share's low `s` bits: the
subtraction wraps modulo `2^w`, a multiple of `2^s`. -/
theorem MsbA2B.sub_and_mask_toNat (x : BitVec w) :
    ((MsbA2B.mask s - x) &&& MsbA2B.mask s).toNat = 2 ^ s - 1 - x.toNat % 2 ^ s := by
  obtain ⟨q, hq⟩ : 2 ^ s ∣ 2 ^ w := Nat.pow_dvd_pow 2 hs.le
  have hpos := Nat.two_pow_pos s
  have hmod := Nat.mod_add_div x.toNat (2 ^ s)
  have hlt := Nat.mod_lt x.toNat hpos
  have hc : 2 ^ s * (x.toNat / 2 ^ s) < 2 ^ s * q := by
    refine Nat.mul_lt_mul_of_pos_left ?_ hpos
    rw [Nat.div_lt_iff_lt_mul hpos, Nat.mul_comm, ← hq]
    exact x.isLt
  have key : 2 ^ w - x.toNat + (2 ^ s - 1) =
      (2 ^ s - 1 - x.toNat % 2 ^ s) + 2 ^ s * (q - x.toNat / 2 ^ s) := by
    rw [Nat.mul_sub, ← hq]
    omega
  rw [MsbA2B.and_mask_toNat hs, BitVec.toNat_sub, MsbA2B.mask_toNat hs,
    Nat.mod_mod_of_dvd _ ⟨q, hq⟩, key, Nat.add_mul_mod_self_left, Nat.mod_eq_of_lt (by omega)]

/-- The comparison of the adjusted inputs is the carry into bit `s` of `x0 + x1`. -/
theorem MsbA2B.cmpBit_adjusted (x0 x1 : BitVec w) :
    cmpBit true (x0 &&& MsbA2B.mask s) ((MsbA2B.mask s - x1) &&& MsbA2B.mask s) =
      bitWord (BitVec.carry s x0 x1 false) := by
  have := Nat.mod_lt x1.toNat (Nat.two_pow_pos s)
  rw [cmpBit, if_pos rfl, MsbA2B.sub_and_mask_toNat hs, MsbA2B.and_mask_toNat hs]
  congr 1
  simp only [BitVec.carry, Bool.toNat_false, Nat.add_zero, decide_eq_decide]
  omega

theorem getLsbD_zero_bitWord (b : Bool) : (bitWord b : BitVec w).getLsbD 0 = b := by
  cases b <;> simp [bitWord, show 0 < w by omega]

/-- Per element: XOR shares of the carry, each XORed with its own `x_r >> s`,
hold bit `s` of `x0 + x1` in their bit 0. -/
theorem MsbA2B.getLsbD_output (x0 x1 c0 c1 : BitVec w)
    (hc : c0 ^^^ c1 = cmpBit true (x0 &&& MsbA2B.mask s) ((MsbA2B.mask s - x1) &&& MsbA2B.mask s)) :
    ((c0 ^^^ (x0 >>> s)) ^^^ (c1 ^^^ (x1 >>> s))).getLsbD 0 = (x0 + x1).getLsbD s := by
  have hc0 := congrArg (BitVec.getLsbD · 0) hc
  simp only [BitVec.getLsbD_xor, MsbA2B.cmpBit_adjusted hs, getLsbD_zero_bitWord hs] at hc0
  simp only [BitVec.getLsbD_add hs, BitVec.getLsbD_xor, BitVec.getLsbD_ushiftRight, Nat.add_zero,
    ← hc0]
  simp only [Bool.xor_assoc, Bool.xor_comm, Bool.xor_left_comm]

end Carry

/-! ## One-bit shares -/

/-- The word is `0` or `1`: a well-formed share of a one-bit boolean. -/
def IsBit (v : BitVec w) : Prop := v = 0 ∨ v = 1

instance (v : BitVec w) : Decidable (IsBit v) := inferInstanceAs (Decidable (_ ∨ _))

theorem isBit_iff_toNat_lt (hw : 0 < w) (v : BitVec w) : IsBit v ↔ v.toNat < 2 := by
  have h0 : (0 : BitVec w).toNat = 0 := by simp
  have h1 : (1 : BitVec w).toNat = 1 := by simp [hw]
  rw [IsBit, BitVec.toNat_eq, BitVec.toNat_eq, h0, h1]
  omega

theorem bitWord_isBit (b : Bool) : IsBit (bitWord b : BitVec w) := by
  cases b
  · exact Or.inl rfl
  · exact Or.inr rfl

/-- At the full width a bit XORed with `x >> (w - 1)` is still a bit. -/
theorem isBit_xor_ushiftRight (hw : 0 < w) {c : BitVec w} (hc : IsBit c) (x : BitVec w) :
    IsBit (c ^^^ (x >>> (w - 1))) := by
  rw [isBit_iff_toNat_lt hw] at hc ⊢
  have hx : (x >>> (w - 1)).toNat < 2 ^ 1 := by
    rw [BitVec.toNat_ushiftRight, Nat.shiftRight_eq_div_pow,
      Nat.div_lt_iff_lt_mul (Nat.two_pow_pos _), ← Nat.pow_add, Nat.add_sub_cancel' hw]
    exact x.isLt
  rw [BitVec.toNat_xor]
  exact Nat.xor_lt_two_pow (n := 1) hc hx

/-- Every comparison answers each rank a word `0` or `1` on the compared elements. -/
def CompareAnswersBits (F : Functionality w) : Prop :=
  ∀ a b g bw s s', F (.compare a g bw) (.compare b g bw) = some (s, s') →
    ∀ i < a.numel, IsBit (s.buf i) ∧ IsBit (s'.buf i)

theorem dealer_compareAnswersBits : CompareAnswersBits (dealer : Functionality w) := by
  intro a b g bw s s' h i _
  obtain ⟨rfl, rfl⟩ := Prod.mk.inj (Option.some.inj h.symm)
  exact ⟨bitWord_isBit _, Or.inl rfl⟩

/-! ## Runs -/

section Claims

variable (F : Functionality w) (ctx0 ctx1 : KernelEvalContext w)

/-- Bit 0 of the XOR of both outputs is bit `n - 1` of `x0 + x1`, for every
effective width `1 ≤ n ≤ w`. -/
theorem msbA2B_reconstructs_msb (hF : CompareSpec F) (h0 : ctx0.rank = 0) (h1 : ctx1.rank = 1)
    (hw : 0 < w) (nbits_ : Nat) (hn : nbits_ ≤ w) (x0 x1 : NdArrayRef w)
    (hx : x1.shape = x0.shape) :
    (exec F (MsbA2B.proc nbits_ ctx0 x0) (MsbA2B.proc nbits_ ctx1 x1)).Sat fun z0 z1 =>
      z0.shape = x0.shape ∧ z1.shape = x0.shape ∧
        ∀ i < x0.numel, (z0.buf i ^^^ z1.buf i).getLsbD 0 =
          (x0.buf i + x1.buf i).getLsbD (effNbits w nbits_ - 1) := by
  have hle : effNbits w nbits_ ≤ w := by unfold effNbits; split_ifs <;> omega
  have hs : effNbits w nbits_ - 1 < w := by omega
  by_cases hz : x0.shape.numel = 0
  · simp [MsbA2B.proc, hle, hz, hx, KernelEvalContext.alloc]
  · simp only [MsbA2B.proc, numel_eq, hx, hz, hle, enforce_pos, if_false, h0, h1, if_true,
      show (1 : Fin 2) ≠ 0 by decide, bind_eq, ret_bind, request_bind, pure_eq]
    refine exec_call_sat F (hF _ _ true rfl) fun c c' ⟨hc, hc', hv⟩ => ⟨hc, hc', fun i hi => ?_⟩
    exact MsbA2B.getLsbD_output hs _ _ _ _ (hv i hi)

theorem msbA2B_reconstructs_msb_instance :
    0 < 8 ∧ 3 ≤ 8 ∧ ([2] : Shape) = [2] ∧
    (exec (dealer : Functionality 8) (MsbA2B.proc 3 (.ofRank 0 1) ⟨.ashr, [2], fun _ => 3⟩)
      (MsbA2B.proc 3 (.ofRank 1 1) ⟨.ashr, [2], fun _ => 6⟩)).Sat fun z0 z1 =>
        z0.shape = [2] ∧ z1.shape = [2] ∧
          ∀ i < Shape.numel [2], (z0.buf i ^^^ z1.buf i).getLsbD 0 = (3 + 6 : BitVec 8).getLsbD 2 :=
  ⟨by decide, by decide, rfl, msbA2B_reconstructs_msb dealer (.ofRank 0 1) (.ofRank 1 1)
    dealer_compare rfl rfl (by decide) 3 (by decide) ⟨.ashr, [2], fun _ => 3⟩
    ⟨.ashr, [2], fun _ => 6⟩ rfl⟩

/-- At the full width, `nbits_ = 0` or `w`, every output word is a bit whenever
the comparison answers bits. -/
theorem msbA2B_full_width_output_isBit (hF : CompareSpec F) (hb : CompareAnswersBits F)
    (h0 : ctx0.rank = 0) (h1 : ctx1.rank = 1) (hw : 0 < w) (nbits_ : Nat)
    (hn : effNbits w nbits_ = w) (x0 x1 : NdArrayRef w) (hx : x1.shape = x0.shape) :
    (exec F (MsbA2B.proc nbits_ ctx0 x0) (MsbA2B.proc nbits_ ctx1 x1)).Sat fun z0 z1 =>
      ∀ i < x0.numel, IsBit (z0.buf i) ∧ IsBit (z1.buf i) := by
  by_cases hz : x0.shape.numel = 0
  · simp [MsbA2B.proc, hn, hz, hx]
  · simp only [MsbA2B.proc, numel_eq, hx, hz, hn, le_refl, enforce_pos, if_false, h0, h1, if_true,
      show (1 : Fin 2) ≠ 0 by decide, bind_eq, ret_bind, request_bind, pure_eq]
    refine exec_call_sat F ((hF _ _ true (by rfl)).mono fun c c' hc => hb _ _ _ _ _ _ hc)
      fun c c' hv i hi => ?_
    exact ⟨isBit_xor_ushiftRight hw (hv i hi).1 _, isBit_xor_ushiftRight hw (hv i hi).2 _⟩

theorem msbA2B_full_width_output_isBit_instance :
    effNbits 8 0 = 8 ∧ ([2] : Shape) = [2] ∧
    (exec (dealer : Functionality 8) (MsbA2B.proc 0 (.ofRank 0 1) ⟨.ashr, [2], fun _ => 200⟩)
      (MsbA2B.proc 0 (.ofRank 1 1) ⟨.ashr, [2], fun _ => 100⟩)).Sat fun z0 z1 =>
        ∀ i < Shape.numel [2], IsBit (z0.buf i) ∧ IsBit (z1.buf i) :=
  ⟨rfl, rfl, msbA2B_full_width_output_isBit dealer (.ofRank 0 1) (.ofRank 1 1) dealer_compare
    dealer_compareAnswersBits rfl rfl (by decide) 0 rfl ⟨.ashr, [2], fun _ => 200⟩
    ⟨.ashr, [2], fun _ => 100⟩ rfl⟩

end Claims

/-- With `nbits_ = 1` on a 64-bit ring, rank 0's output word is its whole share
`2`, not a bit, although both comparison answers are bits. -/
theorem msbA2B_narrow_output_not_bit :
    CompareAnswersBits (dealer : Functionality 64) ∧
    (exec (dealer : Functionality 64) (MsbA2B.proc 1 (.ofRank 0 1) ⟨.ashr, [1], fun _ => 2⟩)
      (MsbA2B.proc 1 (.ofRank 1 1) ⟨.ashr, [1], fun _ => 0⟩)).Sat fun z0 _ =>
        z0.eltype = .bshr 1 ∧ z0.buf 0 = 2 ∧ ¬IsBit (z0.buf 0) :=
  ⟨dealer_compareAnswersBits, by decide⟩

end Cheetah
