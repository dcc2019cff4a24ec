import Cheetah.Ideal
import Mathlib.Data.Nat.Digits

/-! # Equality kernels

`EqualAA` and `EqualAP` of `arithmetic.cc`. Since `x0 + x1 = y0 + y1` exactly
when `x0 - y0 = y1 - x1`, one run of the equality protocol on the ranks'
differences decides `x = y` modulo `2^n`. `EqualAP` reads `n` from the
environment variable `SPU_BB_SET_IEQUAL_BITS`.
-/

namespace Cheetah

open NdArrayRef Prog

variable {w : Nat}

/-! ## Parsing `SPU_BB_SET_IEQUAL_BITS` -/

/-- `isspace` in the C locale. -/
def isSpace (c : Char) : Bool :=
  c = ' ' || c = '\t' || c = '\n' || c = '\x0b' || c = '\x0c' || c = '\r'

/-- `LONG_MIN` and `LONG_MAX` of a 64-bit `long`. -/
def longMin : Int := -((2 ^ 63 : Nat) : Int)
def longMax : Int := ((2 ^ 63 - 1 : Nat) : Int)

/-- The decimal digits at the head of `cs` read on into `acc`, and the rest of `cs`. -/
def readDigits : List Char → Nat → Nat × List Char
  | c :: cs, acc => if c.isDigit then readDigits cs (10 * acc + (c.toNat - '0'.toNat)) else (acc, c :: cs)
  | [], acc => (acc, [])

/-- `strtol(s, &pEnd, 10)` as the C standard describes it: white space, an
optional sign and the longest run of decimal digits; a value out of range
saturates at `LONG_MIN` or `LONG_MAX`; with no digits the value is `0` and
`pEnd` is `s`. Returns the value and the text from `pEnd` on. -/
def strtol (s : List Char) : Int × List Char :=
  let t := s.dropWhile isSpace
  let (neg, u) : Bool × List Char := match t with
    | '-' :: u => (true, u)
    | '+' :: u => (false, u)
    | _ => (false, t)
  match u with
  | c :: _ =>
    if c.isDigit then
      let (n, rest) := readDigits u 0
      (if neg then max longMin (-n) else min longMax n, rest)
    else (0, s)
  | [] => (0, s)

/-- The decimal digit characters and the values `readDigits` gives them. -/
theorem digitChar_decimal : ∀ d, d < 10 →
    (Nat.digitChar d).isDigit = true ∧ (Nat.digitChar d).toNat - '0'.toNat = d := by decide

/-- `readDigits` through the digits of `n` that `toDigitsCore` lays in front of
`ds` goes on as if it had read `n` in one go. -/
theorem readDigits_toDigitsCore (fuel n : Nat) (h : n < fuel) :
    ∃ L, ∀ ds acc, readDigits (Nat.toDigitsCore 10 fuel n ds) acc =
      readDigits ds (acc * 10 ^ L + n) := by
  induction fuel generalizing n with
  | zero => omega
  | succ fuel ih =>
    obtain ⟨hd, hv⟩ := digitChar_decimal (n % 10) (Nat.mod_lt _ (by decide))
    by_cases h0 : n / 10 = 0
    · refine ⟨1, fun ds acc => ?_⟩
      simp only [Nat.toDigitsCore, h0, if_true, readDigits, hd, hv]
      congr 1
      omega
    · obtain ⟨L, hL⟩ := ih (n / 10) (by omega)
      refine ⟨L + 1, fun ds acc => ?_⟩
      simp only [Nat.toDigitsCore, h0, if_false, hL, readDigits, hd, hv, if_true]
      congr 1
      rw [pow_succ, ← mul_assoc]
      generalize acc * 10 ^ L = a
      omega

/-- The text `toDigitsCore` produces starts with a decimal digit. -/
theorem toDigitsCore_head (fuel n : Nat) (ds : List Char) (h : n < fuel) :
    ∃ d cs, d < 10 ∧ Nat.toDigitsCore 10 fuel n ds = Nat.digitChar d :: cs := by
  induction fuel generalizing n ds with
  | zero => omega
  | succ fuel ih =>
    by_cases h0 : n / 10 = 0
    · exact ⟨n % 10, ds, Nat.mod_lt _ (by decide), by simp [Nat.toDigitsCore, h0]⟩
    · obtain ⟨d, cs, hd, hcs⟩ := ih (n / 10) (Nat.digitChar (n % 10) :: ds) (by omega)
      exact ⟨d, cs, hd, by simp only [Nat.toDigitsCore, h0, if_false, hcs]⟩

theorem strtol_digitChar {d : Nat} (hd : d < 10) (cs : List Char) :
    strtol (Nat.digitChar d :: cs) =
      let (n, rest) := readDigits (Nat.digitChar d :: cs) 0; (min longMax n, rest) := by
  match d, hd with
  | 0, _ | 1, _ | 2, _ | 3, _ | 4, _ | 5, _ | 6, _ | 7, _ | 8, _ | 9, _ => rfl

theorem strtol_minus_digitChar {d : Nat} (hd : d < 10) (cs : List Char) :
    strtol ('-' :: Nat.digitChar d :: cs) =
      let (n, rest) := readDigits (Nat.digitChar d :: cs) 0; (max longMin (-n), rest) := by
  match d, hd with
  | 0, _ | 1, _ | 2, _ | 3, _ | 4, _ | 5, _ | 6, _ | 7, _ | 8, _ | 9, _ => rfl

/-- The round trip: `strtol` reads back the decimal text of every integer,
saturated to a `long`, and reads all of it. -/
theorem strtol_toString (n : Int) :
    strtol (toString n).toList = (max longMin (min longMax n), []) := by
  have key : ∀ m : Nat, ∃ d cs, d < 10 ∧ Nat.toDigits 10 m = Nat.digitChar d :: cs ∧
      readDigits (Nat.digitChar d :: cs) 0 = (m, []) := fun m => by
    obtain ⟨d, cs, hd, hcs⟩ := toDigitsCore_head (m + 1) m [] (by omega)
    obtain ⟨L, hL⟩ := readDigits_toDigitsCore (m + 1) m (by omega)
    refine ⟨d, cs, hd, hcs, ?_⟩
    rw [← hcs, hL]
    simp [readDigits]
  cases n with
  | ofNat m =>
    obtain ⟨d, cs, hd, hcs, hr⟩ := key m
    show strtol (Nat.toDigits 10 m) = _
    rw [hcs, strtol_digitChar hd, hr]
    simp only [longMin, longMax, Prod.mk.injEq, and_true, Int.ofNat_eq_coe]
    omega
  | negSucc m =>
    obtain ⟨d, cs, hd, hcs, hr⟩ := key (m + 1)
    show strtol ('-' :: Nat.toDigits 10 (m + 1)) = _
    rw [hcs, strtol_minus_digitChar hd, hr]
    simp only [longMin, longMax, Prod.mk.injEq, and_true, Int.negSucc_eq]
    omega

/-- The conversion of a `long` to `int`, which keeps the value modulo `2^32`. -/
def toCInt (v : Int) : Int := v.bmod (2 ^ 32)

/-- The `iequal_bits` that `EqualAP::proc` builds its `EqualAA` with, from the
value of `SPU_BB_SET_IEQUAL_BITS` if set: where `strtol` reads all of it,
`std::min<int>(x.elsize() * 8, std::max<int>(bits, 0))`, and `0` otherwise. -/
def EqualAP.iequalBits (w : Nat) (env : Option String) : Int :=
  match env with
  | none => 0
  | some s =>
    let (bits, pEnd) := strtol s.toList
    if pEnd = [] then min (toCInt w) (max (toCInt bits) 0) else 0

/-- The narrowing is the identity on the values an `int` holds. -/
theorem toCInt_of_lt {v : Int} (h : -2 ^ 31 ≤ v ∧ v < 2 ^ 31) : toCInt v = v := by
  rw [toCInt, Int.bmod_def]
  split_ifs <;> omega

/-- The width `EqualAP` asks for never exceeds the ring width. -/
theorem EqualAP.iequalBits_toNat_le (hw : w < 2 ^ 31) (env : Option String) :
    (EqualAP.iequalBits w env).toNat ≤ w := by
  have hcw : toCInt w = w := toCInt_of_lt ⟨by omega, by omega⟩
  rcases env with _ | s
  · simp [EqualAP.iequalBits]
  · simp only [EqualAP.iequalBits]
    rcases strtol s.toList with ⟨bits, pEnd⟩
    split_ifs <;> omega

/-- Every decimal setting of `SPU_BB_SET_IEQUAL_BITS`: `strtol` reads back
the decimal text of every integer, saturated to a `long`, and reads all of it,
so `EqualAP` asks for that value narrowed to an `int` and clamped to `[0, w]`. -/
theorem equalAP_iequalBits_of_decimal (hw : w < 2 ^ 31) (n : Int) :
    strtol (toString n).toList = (max longMin (min longMax n), []) ∧
    EqualAP.iequalBits w (some (toString n)) =
      min (w : Int) (max (toCInt (max longMin (min longMax n))) 0) := by
  refine ⟨strtol_toString n, ?_⟩
  simp only [EqualAP.iequalBits, strtol_toString, if_true,
    toCInt_of_lt (v := w) ⟨by omega, by omega⟩]

theorem equalAP_iequalBits_of_decimal_instance :
    (strtol (toString (-4294967291 : Int)).toList =
        (max longMin (min longMax (-4294967291)), []) ∧
      EqualAP.iequalBits 64 (some (toString (-4294967291 : Int))) =
        min 64 (max (toCInt (max longMin (min longMax (-4294967291)))) 0)) ∧
    EqualAP.iequalBits 64 (some (toString (-4294967291 : Int))) = 5 :=
  ⟨equalAP_iequalBits_of_decimal (by decide) (-4294967291), by decide⟩

/-! ## The kernels -/

/-- `EqualAA::proc`: rank 0 hands `x - y` and rank 1 `y - x` to the equality
protocol on `nbits` bits. -/
def EqualAA.proc (nbits_ : Nat) (ctx : KernelEvalContext w) (x y : NdArrayRef w) :
    Prog w (NdArrayRef w) := do
  enforce (x.shape = y.shape) "x.shape() == y.shape()"
  let nbits := effNbits w nbits_
  enforce (nbits ≤ w) "nbits <= 8 * SizeOf(field)"
  if x.numel = 0 then
    return (ctx.alloc x.eltype x.shape).as (.bshr 1)
  let adjusted := if ctx.rank = 0 then ringSub x y else ringSub y x
  let out ← request .ot (.equal adjusted nbits)
  return out.as (.bshr 1)

/-- `EqualAP::proc`: `EqualAA` on `x` and the public `y`, which rank 0 replaces by zeros. -/
def EqualAP.proc (ctx : KernelEvalContext w) (x y : NdArrayRef w) : Prog w (NdArrayRef w) :=
  let iequalBits := EqualAP.iequalBits w ctx.iequalBitsEnv
  if ctx.rank = 0 then EqualAA.proc iequalBits.toNat ctx x (ringZeros x.shape)
  else EqualAA.proc iequalBits.toNat ctx x y

/-! ## Equality modulo `2^n` -/

section EqBit

theorem BitVec.setWidth_sub' {n : Nat} (hn : n ≤ w) (a b : BitVec w) :
    (a - b).setWidth n = a.setWidth n - b.setWidth n := by
  rw [eq_sub_iff_add_eq, ← BitVec.setWidth_add _ _ hn, sub_add_cancel]

/-- Reduction modulo `2^n` divides `2^w`, so differences compare as sums do. -/
theorem eqBit_sub_sub {n : Nat} (hn : n ≤ w) (a b c d : BitVec w) :
    eqBit n (a - b) (c - d) = eqBit n (a + d) (c + b) := by
  simp only [eqBit, ← BitVec.toNat_setWidth, ← BitVec.toNat_eq, BitVec.setWidth_sub' hn,
    BitVec.setWidth_add _ _ hn, sub_eq_sub_iff_add_eq_add]

/-- At the full width, or on values below `2^n`, equality modulo `2^n` is equality. -/
theorem eqBit_of_lt {n : Nat} {u v : BitVec w} (h : n = w ∨ u.toNat < 2 ^ n ∧ v.toNat < 2 ^ n) :
    eqBit n u v = bitWord (decide (u = v)) := by
  have : u.toNat % 2 ^ n = u.toNat ∧ v.toNat % 2 ^ n = v.toNat := by
    rcases h with rfl | ⟨hu, hv⟩
    · exact ⟨Nat.mod_eq_of_lt u.isLt, Nat.mod_eq_of_lt v.isLt⟩
    · exact ⟨Nat.mod_eq_of_lt hu, Nat.mod_eq_of_lt hv⟩
  simp only [eqBit, this.1, this.2, ← BitVec.toNat_eq]

end EqBit

section Runs

variable (F : Functionality w) {ctx0 ctx1 : KernelEvalContext w} (h0 : ctx0.rank = 0)
  (h1 : ctx1.rank = 1)
include h0 h1

/-- `EqualAA` answers XOR shares of `1{x0 + x1 = y0 + y1 mod 2^n}`. -/
theorem EqualAA.proc_reconstructs (hF : EqualSpec F) {nbits_ : Nat} (hn : nbits_ ≤ w)
    {x0 x1 y0 y1 : NdArrayRef w} (hx1 : x1.shape = x0.shape) (hy0 : y0.shape = x0.shape)
    (hy1 : y1.shape = x0.shape) :
    (exec F (EqualAA.proc nbits_ ctx0 x0 y0) (EqualAA.proc nbits_ ctx1 x1 y1)).Sat
      (XorShares x0.shape fun i =>
        eqBit (effNbits w nbits_) (x0.buf i + x1.buf i) (y0.buf i + y1.buf i)) := by
  have hle : effNbits w nbits_ ≤ w := by unfold effNbits; split_ifs <;> omega
  by_cases hz : x0.shape.numel = 0
  · simp [EqualAA.proc, hle, hz, hx1, hy0, hy1, KernelEvalContext.alloc, XorShares]
  · simp only [EqualAA.proc, numel_eq, hx1, hy0, hy1, hz, hle, enforce_pos, if_false, h0, h1,
      if_true, show (1 : Fin 2) ≠ 0 by decide, bind_eq, ret_bind, request_bind, pure_eq]
    refine exec_call_sat F (hF _ _ _ (by simp [hx1, hy1])) fun s s' ⟨hs, hs', hv⟩ =>
      ⟨by simpa [hy0] using hs, by simpa using hs', fun i hi => ?_⟩
    rw [as_buf, as_buf, hv i (by simpa using hi)]
    simp only [ringSub_buf, Pi.sub_apply]
    rw [eqBit_sub_sub hle, add_comm (y1.buf i)]

end Runs

section Claims

variable (F : Functionality w) (ctx0 ctx1 : KernelEvalContext w)

/-- Both equality kernels answer XOR shares of equality modulo `2^n`, `EqualAP`
with the width the environment selects; at the full width, or on values below
`2^n`, that is plain equality. -/
theorem equal_reconstructs_eq (hF : EqualSpec F) (h0 : ctx0.rank = 0) (h1 : ctx1.rank = 1)
    (henv : ctx0.iequalBitsEnv = ctx1.iequalBitsEnv) (hw : w < 2 ^ 31) :
    (∀ (nbits_ : Nat) (x0 x1 y0 y1 : NdArrayRef w), nbits_ ≤ w → x1.shape = x0.shape →
      y0.shape = x0.shape → y1.shape = x0.shape →
      (exec F (EqualAA.proc nbits_ ctx0 x0 y0) (EqualAA.proc nbits_ ctx1 x1 y1)).Sat
        (XorShares x0.shape fun i =>
          eqBit (effNbits w nbits_) (x0.buf i + x1.buf i) (y0.buf i + y1.buf i))) ∧
    (∀ (x0 x1 y : NdArrayRef w), x1.shape = x0.shape → y.shape = x0.shape →
      (exec F (EqualAP.proc ctx0 x0 y) (EqualAP.proc ctx1 x1 y)).Sat
        (XorShares x0.shape fun i =>
          eqBit (effNbits w (EqualAP.iequalBits w ctx0.iequalBitsEnv).toNat)
            (x0.buf i + x1.buf i) (y.buf i))) ∧
    (∀ (n : Nat) (u v : BitVec w), (n = w ∨ u.toNat < 2 ^ n ∧ v.toNat < 2 ^ n) →
      eqBit n u v = bitWord (decide (u = v))) := by
  refine ⟨fun _ _ _ _ _ hn hx1 hy0 hy1 => EqualAA.proc_reconstructs F h0 h1 hF hn hx1 hy0 hy1,
    fun x0 x1 y hx1 hy => ?_, fun _ _ _ h => eqBit_of_lt h⟩
  have h := EqualAA.proc_reconstructs F h0 h1 hF (EqualAP.iequalBits_toNat_le hw ctx0.iequalBitsEnv) hx1
    (ringZeros_shape x0.shape) hy
  simp only [ringZeros_buf, Pi.zero_apply, zero_add] at h
  simpa only [EqualAP.proc, h0, h1, henv, if_true, show (1 : Fin 2) ≠ 0 by decide,
    if_false] using h

theorem equal_reconstructs_eq_instance :
    (exec (dealer : Functionality 8)
      (EqualAA.proc 3 (.ofRank 0 1) ⟨.ashr, [2], fun _ => 9⟩ ⟨.ashr, [2], fun _ => 4⟩)
      (EqualAA.proc 3 (.ofRank 1 1) ⟨.ashr, [2], fun _ => 3⟩ ⟨.ashr, [2], fun _ => 0⟩)).Sat
        (XorShares [2] fun i => eqBit (effNbits 8 3) (((fun _ => 9 : Nat → BitVec 8) i) + 3)
          (((fun _ => 4 : Nat → BitVec 8) i) + 0)) ∧
    (exec (dealer : Functionality 8)
      (EqualAP.proc ⟨0, 1, ⟨0, 0, 0⟩, some "4", 0⟩ ⟨.ashr, [2], fun _ => 9⟩ ⟨.pub, [2], fun _ => 12⟩)
      (EqualAP.proc ⟨1, 1, ⟨0, 0, 0⟩, some "4", 0⟩ ⟨.ashr, [2], fun _ => 3⟩
        ⟨.pub, [2], fun _ => 12⟩)).Sat
        (XorShares [2] fun i => eqBit (effNbits 8 (EqualAP.iequalBits 8 (some "4")).toNat)
          (((fun _ => 9 : Nat → BitVec 8) i) + 3) ((fun _ => 12 : Nat → BitVec 8) i)) :=
  ⟨(equal_reconstructs_eq dealer (.ofRank 0 1) (.ofRank 1 1) dealer_equal rfl rfl rfl
      (by decide)).1 3 ⟨.ashr, [2], fun _ => 9⟩ ⟨.ashr, [2], fun _ => 3⟩ ⟨.ashr, [2], fun _ => 4⟩
      ⟨.ashr, [2], fun _ => 0⟩ (by decide) rfl rfl rfl,
    (equal_reconstructs_eq (dealer : Functionality 8) ⟨0, 1, ⟨0, 0, 0⟩, some "4", 0⟩
      ⟨1, 1, ⟨0, 0, 0⟩, some "4", 0⟩ dealer_equal rfl rfl rfl (by decide)).2.1
      ⟨.ashr, [2], fun _ => 9⟩ ⟨.ashr, [2], fun _ => 3⟩ ⟨.pub, [2], fun _ => 12⟩ rfl rfl⟩

end Claims

/-- `SPU_BB_SET_IEQUAL_BITS=4294967297` is read whole as `2^32 + 1`, which the
conversion to `int` inside `std::max<int>` turns into `1`: on a 64-bit ring
`EqualAP` then compares one bit, and reports `3 = 1`. -/
theorem equalAP_iequalBits_narrowed :
    strtol "4294967297".toList = (4294967297, []) ∧
    EqualAP.iequalBits 64 (some "4294967297") = 1 ∧
    (exec (dealer : Functionality 64)
      (EqualAP.proc ⟨0, 1, ⟨0, 0, 0⟩, some "4294967297", 0⟩ ⟨.ashr, [1], fun _ => 3⟩
        ⟨.pub, [1], fun _ => 1⟩)
      (EqualAP.proc ⟨1, 1, ⟨0, 0, 0⟩, some "4294967297", 0⟩ ⟨.ashr, [1], fun _ => 0⟩
        ⟨.pub, [1], fun _ => 1⟩)).Sat fun z0 z1 => z0.buf 0 ^^^ z1.buf 0 = 1 := by
  decide

end Cheetah
