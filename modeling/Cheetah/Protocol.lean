import Cheetah.NdArray

/-! # Two-party runs of kernels over ideal sub-protocols

Each party runs the same kernel code under its own rank. The code is a
program of requests to two-party sub-protocols (oblivious transfer, OLE,
comparison, the communicator's all-reduce), each on one of two links. A joint
run matches the parties' requests step by step and lets a functionality
answer each matched pair.
-/

namespace Cheetah

/-- The links a kernel talks over: the communicator's `lctx()`, the duplicated
link `CheetahMulState::duplx()` carrying parallel cross terms, and the links of
the OT instances that `DispatchUnaryFunc` and `DispatchBinaryFunc` hand tiles to. -/
inductive Conn where
  | lctx
  | duplx
  | ot
  deriving DecidableEq, Repr

/-- `Shape3D`: the dimensions `(M, K, N)` of one matrix product. -/
abbrev Shape3D := Nat × Nat × Nat

/-- `Shape4D`: the dimensions `(B, M, K, N)` of a batch of products. -/
abbrev Shape4D := Nat × Nat × Nat × Nat

inductive SignType where
  | unknown
  | positive
  | negative
  deriving DecidableEq, Repr

/-- `TruncateProtocol::Meta`. -/
structure TruncateMeta where
  signedArith : Bool
  sign : SignType
  shiftBits : Nat
  useHeuristic : Bool
  deriving DecidableEq, Repr

/-- A request to a sub-protocol, with the data the issuing party supplies. -/
inductive Req (w : Nat) where
  | mulOLE (inp : NdArrayRef w) (evaluator : Bool)
  | mulShare (x y : NdArrayRef w) (evaluator : Bool)
  | dotOLE (inp : NdArrayRef w) (dim3 : Shape3D) (isLhs : Bool)
  | batchDotOLE (inp : NdArrayRef w) (dim4 : Shape4D) (isLhs : Bool)
  | multiplexer (a b : NdArrayRef w)
  | privateMulxSend (inp : NdArrayRef w)
  | privateMulxRecv (inp0 inp1 : NdArrayRef w)
  | compare (inp : NdArrayRef w) (greaterThan : Bool) (bitwidth : Nat)
  | equal (inp : NdArrayRef w) (nbits : Nat)
  | truncate (inp : NdArrayRef w) (meta : TruncateMeta)
  | allReduce (inp : NdArrayRef w)

namespace Req

variable {w : Nat}

/-- Two requests form one invocation: the same primitive on the same element
count or dimensions, with complementary roles where the primitive has roles. -/
def Complementary : Req w → Req w → Prop
  | .mulOLE a e, .mulOLE b e' => a.numel = b.numel ∧ e ≠ e'
  | .mulShare x _ e, .mulShare x' _ e' => x.numel = x'.numel ∧ e ≠ e'
  | .dotOLE _ d l, .dotOLE _ d' l' => d = d' ∧ l ≠ l'
  | .batchDotOLE _ d l, .batchDotOLE _ d' l' => d = d' ∧ l ≠ l'
  | .multiplexer a _, .multiplexer a' _ => a.numel = a'.numel
  | .privateMulxSend a, .privateMulxRecv a' _ => a.numel = a'.numel
  | .privateMulxRecv a _, .privateMulxSend a' => a.numel = a'.numel
  | .compare a g b, .compare a' g' b' => a.numel = a'.numel ∧ g = g' ∧ b = b'
  | .equal a n, .equal a' n' => a.numel = a'.numel ∧ n = n'
  | .truncate a m, .truncate a' m' => a.numel = a'.numel ∧ m = m'
  | .allReduce a, .allReduce a' => a.numel = a'.numel
  | _, _ => False

section Complementary

variable {a b a' b' : NdArrayRef w}

@[simp] theorem complementary_mulOLE {e e' : Bool} :
    (mulOLE a e).Complementary (mulOLE a' e') ↔ a.numel = a'.numel ∧ e ≠ e' := Iff.rfl
@[simp] theorem complementary_mulShare {e e' : Bool} :
    (mulShare a b e).Complementary (mulShare a' b' e') ↔ a.numel = a'.numel ∧ e ≠ e' := Iff.rfl
@[simp] theorem complementary_multiplexer :
    (multiplexer a b).Complementary (multiplexer a' b') ↔ a.numel = a'.numel := Iff.rfl
@[simp] theorem complementary_send_recv :
    (privateMulxSend a).Complementary (privateMulxRecv a' b') ↔ a.numel = a'.numel := Iff.rfl
@[simp] theorem complementary_recv_send :
    (privateMulxRecv a b).Complementary (privateMulxSend a') ↔ a.numel = a'.numel := Iff.rfl
@[simp] theorem complementary_allReduce :
    (allReduce a).Complementary (allReduce a') ↔ a.numel = a'.numel := Iff.rfl

end Complementary

end Req

/-- A party's kernel code: finished, aborted by an `SPU_ENFORCE`, or waiting
for the answer to a request on a link. -/
inductive Prog (w : Nat) (α : Type) where
  | ret (a : α)
  | fail (msg : String)
  | call (conn : Conn) (req : Req w) (k : NdArrayRef w → Prog w α)

namespace Prog

variable {w : Nat} {α β : Type}

def bind : Prog w α → (α → Prog w β) → Prog w β
  | .ret a, f => f a
  | .fail msg, _ => .fail msg
  | .call conn req k, f => .call conn req fun s => (k s).bind f

instance : Monad (Prog w) where
  pure := .ret
  bind := bind

/-- `SPU_ENFORCE(cond, msg)`. -/
def enforce (cond : Prop) [Decidable cond] (msg : String) : Prog w Unit :=
  if cond then .ret () else .fail msg

/-- Issue one request and return its answer. -/
def request (conn : Conn) (req : Req w) : Prog w (NdArrayRef w) := .call conn req .ret

@[simp] theorem pure_eq (a : α) : (pure a : Prog w α) = .ret a := rfl
@[simp] theorem bind_eq (x : Prog w α) (f : α → Prog w β) : x >>= f = x.bind f := rfl
@[simp] theorem ret_bind (a : α) (f : α → Prog w β) : (ret a).bind f = f a := rfl
@[simp] theorem fail_bind (msg : String) (f : α → Prog w β) :
    (fail msg : Prog w α).bind f = .fail msg := rfl
@[simp] theorem call_bind (conn : Conn) (req : Req w) (k : NdArrayRef w → Prog w α)
    (f : α → Prog w β) : (call conn req k).bind f = .call conn req fun s => (k s).bind f := rfl
@[simp] theorem request_bind (conn : Conn) (req : Req w) (f : NdArrayRef w → Prog w β) :
    (request conn req).bind f = .call conn req f := rfl
@[simp] theorem enforce_pos {cond : Prop} [Decidable cond] (h : cond) (msg : String) :
    (enforce cond msg : Prog w Unit) = .ret () := if_pos h
theorem enforce_neg {cond : Prop} [Decidable cond] (h : ¬cond) (msg : String) :
    (enforce cond msg : Prog w Unit) = .fail msg := if_neg h
@[simp] theorem ite_bind {c : Prop} [Decidable c] (p q : Prog w α) (f : α → Prog w β) :
    (if c then p else q).bind f = if c then p.bind f else q.bind f := by
  split <;> rfl
@[simp] theorem enforce_bind {cond : Prop} [Decidable cond] (msg : String) (f : Unit → Prog w β) :
    (enforce cond msg).bind f = if cond then f () else .fail msg := by
  unfold enforce; split <;> rfl

end Prog

/-- How a joint run ends: both parties returned, both aborted, or their
requests stopped forming invocations. -/
inductive Outcome (α : Type) where
  | done (out0 out1 : α)
  | aborted (msg : String)
  | stuck

/-- The run finished and its two outputs satisfy `P`. -/
def Outcome.Sat {α : Type} (P : α → α → Prop) : Outcome α → Prop
  | .done out0 out1 => P out0 out1
  | _ => False

instance Outcome.decidableSat {α : Type} (P : α → α → Prop) [∀ a b, Decidable (P a b)] :
    (o : Outcome α) → Decidable (o.Sat P)
  | .done a b => inferInstanceAs (Decidable (P a b))
  | .aborted _ => isFalse id
  | .stuck => isFalse id

@[simp] theorem Outcome.sat_done {α : Type} (P : α → α → Prop) (a b : α) :
    (Outcome.done a b).Sat P ↔ P a b := Iff.rfl

/-- An ideal sub-protocol: both parties' requests in, both answers out, and
`none` where the two requests are not an invocation it serves. -/
abbrev Functionality (w : Nat) := Req w → Req w → Option (NdArrayRef w × NdArrayRef w)

/-- `F` answers the invocation `r`, `r'` with answers satisfying `P`. -/
def Functionality.Yields {w : Nat} (F : Functionality w) (r r' : Req w)
    (P : NdArrayRef w → NdArrayRef w → Prop) : Prop :=
  ∃ s s', F r r' = some (s, s') ∧ P s s'

/-- `F` answers every invocation: every two complementary requests. -/
def Functionality.Serves {w : Nat} (F : Functionality w) : Prop :=
  ∀ r r' : Req w, r.Complementary r' → (F r r').isSome

/-- Whatever holds of every answer of `F` to `r`, `r'` holds of the answers it yields. -/
theorem Functionality.Yields.mono {w : Nat} {F : Functionality w} {r r' : Req w}
    {P Q : NdArrayRef w → NdArrayRef w → Prop} (h : F.Yields r r' P)
    (hQ : ∀ s s', F r r' = some (s, s') → Q s s') : F.Yields r r' Q :=
  let ⟨s, s', hs, _⟩ := h
  ⟨s, s', hs, hQ s s' hs⟩

section Exec

variable {w : Nat} {α : Type} (F : Functionality w)

/-- The joint run of rank 0's and rank 1's programs, in lock step. -/
def exec : Prog w α → Prog w α → Outcome α
  | .ret a, .ret b => .done a b
  | .fail msg, .fail _ => .aborted msg
  | .call conn r k, .call conn' r' k' =>
      if conn = conn' then
        match F r r' with
        | some (s, s') => exec (k s) (k' s')
        | none => .stuck
      else .stuck
  | _, _ => .stuck

@[simp] theorem exec_ret (a b : α) : exec F (.ret a) (.ret b) = .done a b := rfl

theorem exec_call {conn : Conn} {r r' : Req w} {k k' : NdArrayRef w → Prog w α}
    {s s' : NdArrayRef w} (h : F r r' = some (s, s')) :
    exec F (.call conn r k) (.call conn r' k') = exec F (k s) (k' s') := by
  simp [exec, h]

/-- The rule for one invocation: what its answers satisfy carries the rest of the run. -/
theorem exec_call_sat {conn : Conn} {r r' : Req w} {k k' : NdArrayRef w → Prog w α}
    {P : NdArrayRef w → NdArrayRef w → Prop} {Q : α → α → Prop} (h : F.Yields r r' P)
    (hk : ∀ s s', P s s' → (exec F (k s) (k' s')).Sat Q) :
    (exec F (.call conn r k) (.call conn r' k')).Sat Q := by
  obtain ⟨s, s', hF, hP⟩ := h
  rw [exec_call F hF]
  exact hk s s' hP

theorem exec_call_none {conn : Conn} {r r' : Req w} {k k' : NdArrayRef w → Prog w α}
    (h : F r r' = none) : exec F (.call conn r k) (.call conn r' k') = .stuck := by
  simp [exec, h]

theorem exec_call_ne {conn conn' : Conn} {r r' : Req w} {k k' : NdArrayRef w → Prog w α}
    (h : conn ≠ conn') : exec F (.call conn r k) (.call conn' r' k') = .stuck := by
  simp [exec, h]

/-- Sequential composition: a run that ends with `a`, `b` goes on as the run
of the continuations on `a`, `b`. -/
theorem exec_bind_of_done {β : Type} {p q : Prog w α} {f g : α → Prog w β} {a b : α}
    (h : exec F p q = .done a b) : exec F (p.bind f) (q.bind g) = exec F (f a) (g b) := by
  induction p generalizing q with
  | ret a' => cases q <;> simp_all [exec]
  | fail msg => cases q <;> simp [exec] at h
  | call c r k ih =>
    cases q with
    | ret => simp [exec] at h
    | fail => simp [exec] at h
    | call c' r' k' =>
      by_cases hc : c = c'
      · subst hc
        cases hF : F r r' with
        | none => rw [exec_call_none F hF] at h; cases h
        | some ss' =>
          rw [exec_call F hF] at h
          exact (exec_call F hF).trans (ih _ h)
      · rw [exec_call_ne F hc] at h; cases h

end Exec

/-- The two programs issue, step by step, complementary requests on the same
link and end together, whatever the sub-protocols answer. -/
inductive Paired {w : Nat} {α : Type} : Prog w α → Prog w α → Prop
  | ret (a b : α) : Paired (.ret a) (.ret b)
  | fail (msg msg' : String) : Paired (.fail msg) (.fail msg')
  | call {conn : Conn} {r r' : Req w} {k k' : NdArrayRef w → Prog w α} :
      r.Complementary r' → (∀ s s', Paired (k s) (k' s')) →
      Paired (.call conn r k) (.call conn r' k')

namespace Paired

variable {w : Nat} {α : Type}

/-- Both programs branch on the same condition. -/
theorem ite {c : Prop} [Decidable c] {p q p' q' : Prog w α} (ht : c → Paired p p')
    (he : ¬c → Paired q q') : Paired (if c then p else q) (if c then p' else q') := by
  split_ifs with h
  exacts [ht h, he h]

/-- A branch on whether the rank is the owner `o`: rank 0 takes it exactly
when rank 1 does not. -/
theorem owner_ite {o : Fin 2} {p q p' q' : Prog w α} (h0 : Paired p q') (h1 : Paired q p') :
    Paired (if (0 : Fin 2) = o then p else q) (if (1 : Fin 2) = o then p' else q') := by
  obtain rfl | rfl : o = 0 ∨ o = 1 := by omega
  · exact h0
  · exact h1

variable {F : Functionality w} {p q : Prog w α}

/-- A paired run never gets stuck under a functionality that serves every
invocation: it finishes, or both ranks abort. -/
theorem exec_ne_stuck (hF : F.Serves) (h : Paired p q) : exec F p q ≠ .stuck := by
  induction h with
  | ret a b => simp
  | fail msg msg' => simp [exec]
  | call hr _ ih =>
      obtain ⟨⟨s, s'⟩, hs⟩ := Option.isSome_iff_exists.mp (hF _ _ hr)
      rw [exec_call F hs]
      exact ih s s'

/-- Pairing together with what it gives a run. -/
theorem and_exec_ne_stuck (hF : F.Serves) (h : Paired p q) : Paired p q ∧ exec F p q ≠ .stuck :=
  ⟨h, h.exec_ne_stuck hF⟩

end Paired

end Cheetah
