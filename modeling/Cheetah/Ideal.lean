import Cheetah.Protocol

/-! # Ideal sub-protocols and kernel contexts

What the kernels assume of the sub-protocols they call, one specification
per primitive whose answer a kernel's result is built from, and a trusted
dealer that meets all of them and answers every invocation. A kernel reads
its rank, the OLE batch size, the cached Beaver triple and the environment
through its `KernelEvalContext`.
-/

namespace Cheetah

variable {w : Nat}

/-- `z0`, `z1` are additive shares of `v` on an array of shape `shape`. -/
def AddShares (shape : Shape) (v : Nat → BitVec w) (z0 z1 : NdArrayRef w) : Prop :=
  z0.shape = shape ∧ z1.shape = shape ∧ ∀ i < shape.numel, z0.buf i + z1.buf i = v i

/-- `z0`, `z1` are XOR shares of `v` on an array of shape `shape`. -/
def XorShares (shape : Shape) (v : Nat → BitVec w) (z0 z1 : NdArrayRef w) : Prop :=
  z0.shape = shape ∧ z1.shape = shape ∧ ∀ i < shape.numel, z0.buf i ^^^ z1.buf i = v i

/-- The word `1` or `0`. -/
def bitWord (b : Bool) : BitVec w := if b then 1 else 0

/-- `1{u > v}`, or `1{u < v}` when `greaterThan` is false, as unsigned words. -/
def cmpBit (greaterThan : Bool) (u v : BitVec w) : BitVec w :=
  bitWord (if greaterThan then v.toNat < u.toNat else u.toNat < v.toNat)

/-- `1{u = v mod 2^n}`. -/
def eqBit (n : Nat) (u v : BitVec w) : BitVec w := bitWord (u.toNat % 2 ^ n = v.toNat % 2 ^ n)

/-- `s` and `s'` both hold the opened sum of `a` and `b`. -/
def Opened (a b s s' : NdArrayRef w) : Prop :=
  s.shape = a.shape ∧ s'.shape = a.shape ∧
    ∀ i < a.numel, s.buf i = a.buf i + b.buf i ∧ s'.buf i = a.buf i + b.buf i

section Specs

variable (F : Functionality w)

/-- `MulOLE`: one vector from each party, additive shares of their elementwise product. -/
def MulOLESpec : Prop :=
  ∀ (a b : NdArrayRef w) (e : Bool), b.shape = a.shape →
    F.Yields (.mulOLE a e) (.mulOLE b !e) (AddShares a.shape (a.buf * b.buf))

/-- `MulShare`: each party's shares of `x` and `y`, additive shares of `x * y`. -/
def MulShareSpec : Prop :=
  ∀ (x y x' y' : NdArrayRef w) (e : Bool), y.shape = x.shape → x'.shape = x.shape →
    y'.shape = x.shape → F.Yields (.mulShare x y e) (.mulShare x' y' !e)
      (AddShares x.shape ((x.buf + x'.buf) * (y.buf + y'.buf)))

/-- `DotOLE`: the `(M, K)` left operand from one party and the `(K, N)` right
operand from the other, in either order; additive shares of their product. -/
def DotOLESpec : Prop :=
  ∀ (a b : NdArrayRef w) (m k n : Nat), a.shape = [m, k] → b.shape = [k, n] →
    F.Yields (.dotOLE a (m, k, n) true) (.dotOLE b (m, k, n) false)
      (AddShares [m, n] (mmulBuf k n a.buf b.buf)) ∧
    F.Yields (.dotOLE b (m, k, n) false) (.dotOLE a (m, k, n) true)
      (AddShares [m, n] (mmulBuf k n a.buf b.buf))

/-- `BatchDotOLE`: `DotOLE` on every slice of a `(B, M, K)` and a `(B, K, N)` operand. -/
def BatchDotOLESpec : Prop :=
  ∀ (a b : NdArrayRef w) (bs m k n : Nat), a.shape = [bs, m, k] → b.shape = [bs, k, n] →
    F.Yields (.batchDotOLE a (bs, m, k, n) true) (.batchDotOLE b (bs, m, k, n) false)
      (AddShares [bs, m, n] (bmmulBuf m k n a.buf b.buf)) ∧
    F.Yields (.batchDotOLE b (bs, m, k, n) false) (.batchDotOLE a (bs, m, k, n) true)
      (AddShares [bs, m, n] (bmmulBuf m k n a.buf b.buf))

/-- `CompareProtocol::Compute` over the full width: XOR shares of `1{in0 > in1}`
(or `<`), where `in_r` is rank `r`'s input. -/
def CompareSpec : Prop :=
  ∀ (a b : NdArrayRef w) (g : Bool), b.shape = a.shape →
    F.Yields (.compare a g 0) (.compare b g 0)
      (XorShares a.shape fun i => cmpBit g (a.buf i) (b.buf i))

/-- `EqualProtocol::Compute(input, n)`: XOR shares of `1{in0 = in1 mod 2^n}`. -/
def EqualSpec : Prop :=
  ∀ (a b : NdArrayRef w) (n : Nat), b.shape = a.shape →
    F.Yields (.equal a n) (.equal b n) (XorShares a.shape fun i => eqBit n (a.buf i) (b.buf i))

/-- `Communicator::allReduce(ADD, ·)`: both parties receive the sum. -/
def AllReduceSpec : Prop :=
  ∀ (a b : NdArrayRef w), b.shape = a.shape → F.Yields (.allReduce a) (.allReduce b) (Opened a b)

end Specs

/-- A trusted dealer: it computes each invocation's result and hands it to
rank 0, and zeros to rank 1. It truncates exactly, `x >> shift` on the sum,
arithmetic when signed. -/
def dealer : Functionality w
  | .mulOLE a _, .mulOLE b _ => give a.shape (a.buf * b.buf)
  | .mulShare x y _, .mulShare x' y' _ => give x.shape ((x.buf + x'.buf) * (y.buf + y'.buf))
  | .dotOLE a (m, k, n) true, .dotOLE b _ _ => give [m, n] (mmulBuf k n a.buf b.buf)
  | .dotOLE b (m, k, n) false, .dotOLE a _ _ => give [m, n] (mmulBuf k n a.buf b.buf)
  | .batchDotOLE a (bs, m, k, n) true, .batchDotOLE b _ _ =>
      give [bs, m, n] (bmmulBuf m k n a.buf b.buf)
  | .batchDotOLE b (bs, m, k, n) false, .batchDotOLE a _ _ =>
      give [bs, m, n] (bmmulBuf m k n a.buf b.buf)
  | .multiplexer a b, .multiplexer a' b' =>
      give a.shape fun i => (a.buf i + a'.buf i) * bitWord ((b.buf i ^^^ b'.buf i).getLsbD 0)
  | .privateMulxSend a, .privateMulxRecv a' b =>
      give a.shape fun i => (a.buf i + a'.buf i) * bitWord ((b.buf i).getLsbD 0)
  | .privateMulxRecv a' b, .privateMulxSend a =>
      give a.shape fun i => (a.buf i + a'.buf i) * bitWord ((b.buf i).getLsbD 0)
  | .compare a g _, .compare b _ _ => give a.shape fun i => cmpBit g (a.buf i) (b.buf i)
  | .equal a n, .equal b _ => give a.shape fun i => eqBit n (a.buf i) (b.buf i)
  | .truncate a m, .truncate b _ => give a.shape fun i =>
      if m.signedArith then (a.buf i + b.buf i).sshiftRight m.shiftBits
      else (a.buf i + b.buf i) >>> m.shiftBits
  | .allReduce a, .allReduce b => some (⟨.ring, a.shape, a.buf + b.buf⟩, ⟨.ring, a.shape, a.buf + b.buf⟩)
  | _, _ => none
where
  give (shape : Shape) (v : Nat → BitVec w) : Option (NdArrayRef w × NdArrayRef w) :=
    some (⟨.ring, shape, v⟩, ⟨.ring, shape, 0⟩)

section Dealer

theorem dealer_mulOLE : MulOLESpec (dealer : Functionality w) :=
  fun _ _ _ _ => ⟨_, _, rfl, rfl, rfl, fun _ _ => add_zero _⟩

theorem dealer_mulShare : MulShareSpec (dealer : Functionality w) :=
  fun _ _ _ _ _ _ _ _ => ⟨_, _, rfl, rfl, rfl, fun _ _ => add_zero _⟩

theorem dealer_dotOLE : DotOLESpec (dealer : Functionality w) := fun _ _ _ _ _ _ _ =>
  ⟨⟨_, _, rfl, rfl, rfl, fun _ _ => add_zero _⟩, ⟨_, _, rfl, rfl, rfl, fun _ _ => add_zero _⟩⟩

theorem dealer_batchDotOLE : BatchDotOLESpec (dealer : Functionality w) := fun _ _ _ _ _ _ _ _ =>
  ⟨⟨_, _, rfl, rfl, rfl, fun _ _ => add_zero _⟩, ⟨_, _, rfl, rfl, rfl, fun _ _ => add_zero _⟩⟩

theorem dealer_compare : CompareSpec (dealer : Functionality w) :=
  fun _ _ _ _ => ⟨_, _, rfl, rfl, rfl, fun _ _ => BitVec.xor_zero⟩

theorem dealer_equal : EqualSpec (dealer : Functionality w) :=
  fun _ _ _ _ => ⟨_, _, rfl, rfl, rfl, fun _ _ => BitVec.xor_zero⟩

theorem dealer_allReduce : AllReduceSpec (dealer : Functionality w) :=
  fun _ _ _ => ⟨_, _, rfl, rfl, rfl, fun _ _ => ⟨rfl, rfl⟩⟩

/-- The dealer answers every invocation. -/
theorem dealer_serves : (dealer : Functionality w).Serves := by
  rintro (_ | _ | ⟨_, ⟨m, k, n⟩, _ | _⟩ | ⟨_, ⟨bs, m, k, n⟩, _ | _⟩ | _ | _ | _ | _ | _ | _ | _) r' h <;>
    cases r' <;> first | rfl | cases h

end Dealer

/-- A Beaver triple's three share buffers. -/
structure Beaver (w : Nat) where
  a : Nat → BitVec w
  b : Nat → BitVec w
  c : Nat → BitVec w

/-- The two parties' triples are correlated: `c = a * b` after reconstruction. -/
def Beaver.Correlated (t0 t1 : Beaver w) : Prop :=
  ∀ i, t0.c i + t1.c i = (t0.a i + t1.a i) * (t0.b i + t1.b i)

/-- What a kernel reads through its `KernelEvalContext`: its rank
(`Communicator::getRank`), the OLE batch size and the next cached Beaver
triple of `CheetahMulState`, the process environment's
`SPU_BB_SET_IEQUAL_BITS`, and the content of a buffer it allocates and does
not write. -/
structure KernelEvalContext (w : Nat) where
  rank : Fin 2
  oleBatchSize : Nat
  cachedBeaver : Beaver w
  iequalBitsEnv : Option String
  fresh : Nat → BitVec w

/-- `NdArrayRef(eltype, shape)`: a new array whose buffer the kernel has not written. -/
def KernelEvalContext.alloc (ctx : KernelEvalContext w) (eltype : Ty) (shape : Shape) :
    NdArrayRef w :=
  ⟨eltype, shape, ctx.fresh⟩

/-- A context for worked instances: rank `r`, OLE batch size `batch`, a zero
Beaver triple, no environment override and zeroed new buffers. -/
def KernelEvalContext.ofRank (r : Fin 2) (batch : Nat) : KernelEvalContext w :=
  ⟨r, batch, ⟨0, 0, 0⟩, none, 0⟩

/-- The bit width of `MsbA2B` and `EqualAA`: `nbits_ == 0 ? SizeOf(field) * 8 : nbits_`. -/
def effNbits (w nbits_ : Nat) : Nat := if nbits_ = 0 then w else nbits_

/-- Rank 0's and rank 1's contexts in one two-party session: the public
configuration agrees. -/
structure Session (ctx0 ctx1 : KernelEvalContext w) : Prop where
  rank0 : ctx0.rank = 0
  rank1 : ctx1.rank = 1
  batch : ctx0.oleBatchSize = ctx1.oleBatchSize
  env : ctx0.iequalBitsEnv = ctx1.iequalBitsEnv

end Cheetah
