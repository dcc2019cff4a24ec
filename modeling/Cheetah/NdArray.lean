import Mathlib.Data.BitVec
import Mathlib.Algebra.BigOperators.Group.Finset

/-! # Ring arrays of the Cheetah kernels

An `NdArrayRef` of the field of width `w` is a compact row-major array of
elements of `ℤ/2^w`, here `BitVec w`, together with its element type and
shape. Its buffer is a function of the flat index: a kernel reads only the
first `numel` entries, so results are compared on that prefix.
-/

namespace Cheetah

open Finset

/-- `spu::Shape`: the extent of every dimension. -/
abbrev Shape := List Nat

/-- `Shape::numel`: the product of the extents. -/
def Shape.numel : Shape → Nat
  | [] => 1
  | d :: s => d * Shape.numel s

@[simp] theorem Shape.numel_nil : Shape.numel [] = 1 := rfl
@[simp] theorem Shape.numel_cons (d : Nat) (s : Shape) :
    Shape.numel (d :: s) = d * Shape.numel s := rfl

/-- The element types the kernels inspect or attach: plain ring elements,
arithmetic shares, boolean shares of `nbits` bits, values private to one rank,
and public values. -/
inductive Ty where
  | ring
  | ashr
  | bshr (nbits : Nat)
  | priv (owner : Fin 2)
  | pub
  deriving DecidableEq, Repr

/-- `eltype().as<Priv2kTy>()->owner()`; `none` where the cast yields `nullptr`. -/
def Ty.privOwner : Ty → Option (Fin 2)
  | .priv owner => some owner
  | _ => none

structure NdArrayRef (w : Nat) where
  eltype : Ty
  shape : Shape
  buf : Nat → BitVec w

/-- The row-major product buffer of a `k`-column and a `n`-column matrix. -/
def mmulBuf {w : Nat} (k n : Nat) (a b : Nat → BitVec w) : Nat → BitVec w :=
  fun p => ∑ j ∈ range k, a (p / n * k + j) * b (j * n + p % n)

/-- The row-major `(B, M, N)` buffer of the batch of `(M, K) × (K, N)` products. -/
def bmmulBuf {w : Nat} (m k n : Nat) (a b : Nat → BitVec w) : Nat → BitVec w :=
  fun q => mmulBuf k n (fun i => a (q / (m * n) * (m * k) + i))
    (fun j => b (q / (m * n) * (k * n) + j)) (q % (m * n))

/-- `std::memcpy` of `count` elements of `src` into `dst` at element `offset`. -/
def memcpy {w : Nat} (dst : Nat → BitVec w) (offset count : Nat) (src : Nat → BitVec w) :
    Nat → BitVec w :=
  fun i => if offset ≤ i ∧ i < offset + count then src (i - offset) else dst i

namespace NdArrayRef

variable {w : Nat}

def numel (x : NdArrayRef w) : Nat := x.shape.numel

/-- The same buffer under another shape. -/
def reshape (x : NdArrayRef w) (shape : Shape) : NdArrayRef w := { x with shape }

/-- The same buffer tagged with another element type. -/
def as (x : NdArrayRef w) (eltype : Ty) : NdArrayRef w := { x with eltype }

/-- `slice` with unit strides restricting the leading dimension to `[lo, hi)`
and keeping the others whole: a view at `lo` leading rows from the start. -/
def slice (x : NdArrayRef w) (lo hi : Nat) : NdArrayRef w :=
  { x with shape := (hi - lo) :: x.shape.tail,
           buf := fun i => x.buf (lo * Shape.numel x.shape.tail + i) }

/-- Writing `v` through the view `x.slice lo (lo + 1)`. -/
def setSlice (x v : NdArrayRef w) (lo : Nat) : NdArrayRef w :=
  { x with buf := memcpy x.buf (lo * Shape.numel x.shape.tail) v.numel v.buf }

/-- `ring_zeros(field, shape)`. -/
def ringZeros (shape : Shape) : NdArrayRef w := ⟨.ring, shape, 0⟩

/-- `ring_add`. -/
def ringAdd (x y : NdArrayRef w) : NdArrayRef w := { x with buf := x.buf + y.buf }

/-- `ring_sub`. -/
def ringSub (x y : NdArrayRef w) : NdArrayRef w := { x with buf := x.buf - y.buf }

/-- `ring_mul`. -/
def ringMul (x y : NdArrayRef w) : NdArrayRef w := { x with buf := x.buf * y.buf }

/-- `ring_mmul` of an `(M, K)` and a `(K, N)` array. -/
def ringMmul (x y : NdArrayRef w) : NdArrayRef w :=
  ⟨x.eltype, [x.shape.getD 0 0, y.shape.getD 1 0],
    mmulBuf (x.shape.getD 1 0) (y.shape.getD 1 0) x.buf y.buf⟩

/-- Proofs spell element counts through the shape. -/
@[simp] theorem numel_eq (x : NdArrayRef w) : x.numel = x.shape.numel := rfl
@[simp] theorem reshape_shape (x : NdArrayRef w) (s : Shape) : (x.reshape s).shape = s := rfl
@[simp] theorem reshape_buf (x : NdArrayRef w) (s : Shape) : (x.reshape s).buf = x.buf := rfl
@[simp] theorem reshape_eltype (x : NdArrayRef w) (s : Shape) :
    (x.reshape s).eltype = x.eltype := rfl
@[simp] theorem as_shape (x : NdArrayRef w) (t : Ty) : (x.as t).shape = x.shape := rfl
@[simp] theorem as_buf (x : NdArrayRef w) (t : Ty) : (x.as t).buf = x.buf := rfl
@[simp] theorem as_eltype (x : NdArrayRef w) (t : Ty) : (x.as t).eltype = t := rfl
@[simp] theorem slice_shape (x : NdArrayRef w) (lo hi : Nat) :
    (x.slice lo hi).shape = (hi - lo) :: x.shape.tail := rfl
@[simp] theorem slice_buf (x : NdArrayRef w) (lo hi : Nat) :
    (x.slice lo hi).buf = fun i => x.buf (lo * Shape.numel x.shape.tail + i) := rfl
@[simp] theorem setSlice_shape (x v : NdArrayRef w) (lo : Nat) :
    (x.setSlice v lo).shape = x.shape := rfl
@[simp] theorem setSlice_buf (x v : NdArrayRef w) (lo : Nat) :
    (x.setSlice v lo).buf = memcpy x.buf (lo * Shape.numel x.shape.tail) v.numel v.buf := rfl
@[simp] theorem ringZeros_shape (s : Shape) : (ringZeros s : NdArrayRef w).shape = s := rfl
@[simp] theorem ringZeros_buf (s : Shape) : (ringZeros s : NdArrayRef w).buf = 0 := rfl
@[simp] theorem ringAdd_shape (x y : NdArrayRef w) : (ringAdd x y).shape = x.shape := rfl
@[simp] theorem ringAdd_buf (x y : NdArrayRef w) : (ringAdd x y).buf = x.buf + y.buf := rfl
@[simp] theorem ringSub_shape (x y : NdArrayRef w) : (ringSub x y).shape = x.shape := rfl
@[simp] theorem ringSub_buf (x y : NdArrayRef w) : (ringSub x y).buf = x.buf - y.buf := rfl
@[simp] theorem ringMul_shape (x y : NdArrayRef w) : (ringMul x y).shape = x.shape := rfl
@[simp] theorem ringMul_buf (x y : NdArrayRef w) : (ringMul x y).buf = x.buf * y.buf := rfl
@[simp] theorem ringMmul_shape (x y : NdArrayRef w) :
    (ringMmul x y).shape = [x.shape.getD 0 0, y.shape.getD 1 0] := rfl
@[simp] theorem ringMmul_buf (x y : NdArrayRef w) :
    (ringMmul x y).buf = mmulBuf (x.shape.getD 1 0) (y.shape.getD 1 0) x.buf y.buf := rfl

end NdArrayRef

section Buffers

variable {w : Nat}

theorem memcpy_of_mem {dst src : Nat → BitVec w} {offset count i : Nat}
    (hlo : offset ≤ i) (hhi : i < offset + count) :
    memcpy dst offset count src i = src (i - offset) := if_pos ⟨hlo, hhi⟩

theorem memcpy_of_lt {dst src : Nat → BitVec w} {offset count i : Nat} (h : i < offset) :
    memcpy dst offset count src i = dst i := if_neg (by omega)

theorem memcpy_of_ge {dst src : Nat → BitVec w} {offset count i : Nat}
    (h : offset + count ≤ i) : memcpy dst offset count src i = dst i := if_neg (by omega)

/-- Two buffers copied back to back, the first at offset 0, read back in order. -/
theorem memcpy_two_of_lt {d u v : Nat → BitVec w} {m k i : Nat} (h : i < m) :
    memcpy (memcpy d 0 m u) m k v i = u i := by
  rw [memcpy_of_lt h, memcpy_of_mem (Nat.zero_le _) (by omega), Nat.sub_zero]

theorem memcpy_two_of_ge {d u v : Nat → BitVec w} {m k i : Nat} (h : m ≤ i) (h' : i < m + k) :
    memcpy (memcpy d 0 m u) m k v i = v (i - m) :=
  memcpy_of_mem h h'

theorem mmulBuf_add_left (k n : Nat) (a a' b : Nat → BitVec w) :
    mmulBuf k n (a + a') b = mmulBuf k n a b + mmulBuf k n a' b := by
  funext p
  simp only [mmulBuf, Pi.add_apply, add_mul, sum_add_distrib]

theorem mmulBuf_add_right (k n : Nat) (a b b' : Nat → BitVec w) :
    mmulBuf k n a (b + b') = mmulBuf k n a b + mmulBuf k n a b' := by
  funext p
  simp only [mmulBuf, Pi.add_apply, mul_add, sum_add_distrib]

theorem bmmulBuf_add_left (m k n : Nat) (a a' b : Nat → BitVec w) :
    bmmulBuf m k n (a + a') b = bmmulBuf m k n a b + bmmulBuf m k n a' b := by
  funext q
  exact congrFun (mmulBuf_add_left k n _ _ _) _

theorem bmmulBuf_add_right (m k n : Nat) (a b b' : Nat → BitVec w) :
    bmmulBuf m k n a (b + b') = bmmulBuf m k n a b + bmmulBuf m k n a b' := by
  funext q
  exact congrFun (mmulBuf_add_right k n _ _ _) _

end Buffers

end Cheetah
