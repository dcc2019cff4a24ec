import Cheetah.Ideal

/-! # The digit recursion of the comparison protocol

Modelled from the header comment of `compare_prot.h`, whose implementation is
not part of the sources: `x` and `y` are broken into digits of `radix` bits,
each digit pair gives `1{x_i < y_i}` and `1{x_i = y_i}`, and these are reduced
by `1{x < y} = 1{x_d < y_d} ^ (1{x_d = y_d} & 1{x[0:d) < y[0:d)})` along a tree.
The step is associative with a unit, so every bracketing of the digits, balanced
or not, yields the comparison and the equality that `CompareSpec` and
`EqualSpec` ask of the protocols.
-/

namespace Cheetah

/-- `(1{x < y}, 1{x = y})` on a run of digits. Modelled from the header
comment of `compare_prot.h`: the protocol body is not in the sources. -/
structure LtEq where
  lt : Bool
  eq : Bool
  deriving DecidableEq, Repr

namespace LtEq

/-- The empty run of digits: not less, and equal. -/
def empty : LtEq := ⟨false, true⟩

/-- A more significant run `hi` followed by a less significant run `lo`. -/
def combine (hi lo : LtEq) : LtEq := ⟨hi.lt ^^ (hi.eq && lo.lt), hi.eq && lo.eq⟩

/-- The pair of two digits. -/
def ofDigits (u v : Nat) : LtEq := ⟨decide (u < v), decide (u = v)⟩

theorem combine_assoc (a b c : LtEq) : combine (combine a b) c = combine a (combine b c) := by
  obtain ⟨al, ae⟩ := a
  obtain ⟨bl, be⟩ := b
  obtain ⟨cl, ce⟩ := c
  cases al <;> cases ae <;> cases bl <;> cases be <;> cases cl <;> cases ce <;> rfl

@[simp] theorem combine_empty (a : LtEq) : combine a empty = a := by
  obtain ⟨l, e⟩ := a
  cases l <;> cases e <;> rfl

@[simp] theorem empty_combine (a : LtEq) : combine empty a = a := by
  obtain ⟨l, e⟩ := a
  cases l <;> cases e <;> rfl

/-- Folding runs is folding their concatenation. -/
theorem foldr_combine_append (l l' : List LtEq) :
    (l ++ l').foldr combine empty = combine (l.foldr combine empty) (l'.foldr combine empty) := by
  induction l with
  | nil => simp
  | cons a l ih => simp [ih, combine_assoc]

/-- Lexicographic order on a digit `h` above a remainder `l < B`. -/
theorem ofDigits_combine {B xh yh xl yl : Nat} (hx : xl < B) (hy : yl < B) :
    combine (ofDigits xh yh) (ofDigits xl yl) = ofDigits (xl + B * xh) (yl + B * yh) := by
  rcases Nat.lt_trichotomy xh yh with h | rfl | h
  · have : B * xh + B ≤ B * yh := by rw [← Nat.mul_succ]; exact Nat.mul_le_mul_left _ h
    have h1 : xl + B * xh < yl + B * yh := by omega
    simp [combine, ofDigits, h, h.ne, h1, h1.ne]
  · simp [combine, ofDigits]
  · have : B * yh + B ≤ B * xh := by rw [← Nat.mul_succ]; exact Nat.mul_le_mul_left _ h
    have h1 : yl + B * yh < xl + B * xh := by omega
    simp [combine, ofDigits, h.not_lt, h.ne', h1.not_lt, h1.ne']

end LtEq

open LtEq

/-- Digit `i` of `x` in radix `2^radix`, as the header comment of
`compare_prot.h` cuts `x` (the protocol body is not in the sources). -/
def digit (radix i x : Nat) : Nat := x / (2 ^ radix) ^ i % 2 ^ radix

/-- A bracketing of digit positions, most significant on the left. Modelled
from the header comment of `compare_prot.h`, whose tree traversal (the body is
not in the sources) is one such bracketing. -/
inductive DigitTree where
  | leaf (i : Nat)
  | node (hi lo : DigitTree)

namespace DigitTree

/-- The digit positions of a tree, most significant first. -/
def positions : DigitTree → List Nat
  | leaf i => [i]
  | node hi lo => hi.positions ++ lo.positions

/-- The reduction of the digit pairs of `x` and `y` along the tree. -/
def reduce (radix x y : Nat) : DigitTree → LtEq
  | leaf i => ofDigits (digit radix i x) (digit radix i y)
  | node hi lo => combine (hi.reduce radix x y) (lo.reduce radix x y)

/-- Every bracketing reduces as the plain fold over its positions. -/
theorem reduce_eq_foldr (radix x y : Nat) (t : DigitTree) :
    t.reduce radix x y = (t.positions.map fun i => ofDigits (digit radix i x) (digit radix i y)).foldr
      combine empty := by
  induction t with
  | leaf i => simp [reduce, positions]
  | node hi lo ihi ilo =>
      simp only [reduce, positions, List.map_append, foldr_combine_append, ihi, ilo]

end DigitTree

/-- The fold over the digits `d - 1, …, 0` compares `x` and `y` modulo `(2^radix)^d`. -/
theorem foldr_digits (radix x y : Nat) (d : Nat) :
    (((List.range d).reverse.map fun i => ofDigits (digit radix i x) (digit radix i y)).foldr
      combine empty) = ofDigits (x % (2 ^ radix) ^ d) (y % (2 ^ radix) ^ d) := by
  induction d with
  | zero => simp [ofDigits, empty, Nat.mod_one]
  | succ d ih =>
      have hB : 0 < (2 ^ radix) ^ d := Nat.pos_pow_of_pos d (Nat.two_pow_pos radix)
      rw [List.range_succ, List.reverse_append, List.map_append, foldr_combine_append, ih]
      simp only [List.reverse_cons, List.reverse_nil, List.nil_append, List.map_cons, List.map_nil,
        List.foldr_cons, List.foldr_nil, combine_empty, digit]
      rw [ofDigits_combine (Nat.mod_lt _ hB) (Nat.mod_lt _ hB), ← Nat.mod_pow_succ,
        ← Nat.mod_pow_succ]

variable {w : Nat}

/-- On a `w`-bit ring cut into `d` digits of `radix` bits, `d` at least
`⌈w / radix⌉` (the top digit short when `radix` does not divide `w`, as radix 3
on 64 bits), every bracketing of the digits `d - 1, …, 0` yields the bits that
`CompareSpec` (either direction) and `EqualSpec` (on all `w` bits) ask of the
protocols. -/
theorem digitTree_reduce_compare {radix d : Nat} (hw : w ≤ radix * d) (t : DigitTree)
    (ht : t.positions = (List.range d).reverse) (u v : BitVec w) :
    cmpBit false u v = bitWord (t.reduce radix u.toNat v.toNat).lt ∧
    cmpBit true u v = bitWord (t.reduce radix v.toNat u.toNat).lt ∧
    eqBit w u v = bitWord (t.reduce radix u.toNat v.toNat).eq := by
  have hB : 2 ^ w ≤ (2 ^ radix) ^ d := by rw [← Nat.pow_mul]; exact Nat.pow_le_pow_right Nat.zero_lt_two hw
  rw [DigitTree.reduce_eq_foldr, DigitTree.reduce_eq_foldr, ht, foldr_digits, foldr_digits,
    Nat.mod_eq_of_lt (u.isLt.trans_le hB), Nat.mod_eq_of_lt (v.isLt.trans_le hB)]
  exact ⟨rfl, rfl, by rw [eqBit, Nat.mod_eq_of_lt u.isLt, Nat.mod_eq_of_lt v.isLt]; rfl⟩

/-- Radix 3 over a byte, three digits (the top one of two bits) in an
unbalanced tree: `200 > 100`. -/
theorem digitTree_reduce_compare_instance :
    cmpBit true (200 : BitVec 8) 100 =
      bitWord ((DigitTree.node (.leaf 2) (.node (.leaf 1) (.leaf 0))).reduce 3 100 200).lt ∧
    ((DigitTree.node (.leaf 2) (.node (.leaf 1) (.leaf 0))).reduce 3 100 200).lt = true :=
  ⟨(@digitTree_reduce_compare 8 3 3 (by decide) (.node (.leaf 2) (.node (.leaf 1) (.leaf 0))) rfl
    200 100).2.1, by decide⟩

end Cheetah
