import Cheetah.MatMul
import Mathlib.Order.GameAdd

/-! # Kernels that fork a subtask

`SquareA::proc`, `MulAA::mulDirectly`, `MatMulAA::proc` and
`BatchMatMulAA::proc` start one sub-protocol call with `std::async`, make the
other on the calling thread, and join at `future::get`. The two calls go over
different links, the duplicated link `duplx` and `lctx`. `SquareA` leaves the
launch policy to the library, so each rank's subtask runs on a thread of its
own or, deferred, inside `get()`; the others ask for `std::launch::async`.

A link carries an invocation between whichever threads of the two ranks wait
on it, so the four threads interleave freely. Each thread keeps to one link,
and both ranks give the subtask the same link. From these two facts alone,
every run matches each rank's subtask with the other's, never runs forever,
can always be finished whatever the launch policies, and ends with the values
that the lock-step run of the sequential model joins.
-/

namespace Cheetah

open NdArrayRef Prog Relation

variable {w : Nat}

/-! ## Threads between `std::async` and `future::get` -/

/-- A thread's program: every request goes over link `c`, and it never aborts. -/
inductive OnLink {α : Type} (c : Conn) : Prog w α → Prop
  | ret (a : α) : OnLink c (.ret a)
  | call {r : Req w} {k : NdArrayRef w → Prog w α} :
      (∀ s, OnLink c (k s)) → OnLink c (.call c r k)

theorem OnLink.conn_eq {α : Type} {c c' : Conn} {p : Prog w α} {r : Req w}
    {k : NdArrayRef w → Prog w α} (h : OnLink c p) (hp : p = .call c' r k) : c' = c := by
  subst hp; cases h; rfl

theorem OnLink.request (c : Conn) (r : Req w) : OnLink c (request c r) :=
  .call fun s => .ret s

/-- A request over `c` whose data depends on a branch keeps to `c`. -/
theorem OnLink.ite_request {p : Prop} [Decidable p] (c : Conn) (r r' : Req w) :
    OnLink c (if p then Prog.request c r else Prog.request c r') := by
  split <;> exact .request c _

/-- `q` is what `p` goes on with after an answer. -/
inductive Continues {α : Type} : Prog w α → Prog w α → Prop
  | answer {c : Conn} {r : Req w} {k : NdArrayRef w → Prog w α} (s : NdArrayRef w) :
      Continues (k s) (.call c r k)

/-- No program goes on answering forever. -/
theorem continues_wellFounded {α : Type} : WellFounded (@Continues w α) := by
  refine ⟨fun p => ?_⟩
  induction p with
  | ret a => exact ⟨_, fun _ h => nomatch h⟩
  | fail msg => exact ⟨_, fun _ h => nomatch h⟩
  | call c r k ih => exact ⟨_, fun _ h => by cases h; exact ih _⟩

/-- `std::launch`: the subtask runs on a thread of its own, or on the caller
inside `get()`. -/
inductive Launch where
  | async
  | deferred
  deriving DecidableEq, Repr

/-- One rank between `std::async` and `future::get`: what its subtask and its
calling thread still have to run. -/
structure Forked (w : Nat) (α β : Type) where
  task : Prog w α
  caller : Prog w β

namespace Forked

variable {α β γ : Type}

/-- The subtask can run: it has a thread of its own, or the caller has reached `get()`. -/
def TaskRuns (l : Launch) (f : Forked w α β) : Prop :=
  l = .async ∨ ∃ b, f.caller = .ret b

/-- A thread of the rank that can run waits on link `c` with request `r`; on
the answer `s` the rank becomes `g s`. -/
inductive Offers (l : Launch) (f : Forked w α β) :
    Conn → Req w → (NdArrayRef w → Forked w α β) → Prop
  | task {c : Conn} {r : Req w} {k : NdArrayRef w → Prog w α} :
      f.task = .call c r k → f.TaskRuns l → Offers l f c r fun s => { f with task := k s }
  | caller {c : Conn} {r : Req w} {k : NdArrayRef w → Prog w β} :
      f.caller = .call c r k → Offers l f c r fun s => { f with caller := k s }

/-- One invocation over a link `c` between a thread of rank 0 and a thread of
rank 1, under the ranks' launch policies `l0` and `l1`. -/
inductive Step (F : Functionality w) (l0 l1 : Launch) :
    Forked w α β × Forked w α β → Forked w α β × Forked w α β → Prop
  | fire {f0 f1 : Forked w α β} {c : Conn} {r r' : Req w}
      {g0 g1 : NdArrayRef w → Forked w α β} {s s' : NdArrayRef w} :
      f0.Offers l0 c r g0 → f1.Offers l1 c r' g1 → F r r' = some (s, s') →
      Step F l0 l1 (f0, f1) (g0 s, g1 s')

section Fire

variable {F : Functionality w} {l0 l1 : Launch} {f0 f1 : Forked w α β} {c : Conn} {r r' : Req w}
  {s s' : NdArrayRef w}

/-- The two subtasks, waiting on one link, exchange an invocation. -/
theorem Step.tasks {k k' : NdArrayRef w → Prog w α} (h0 : f0.task = .call c r k)
    (h1 : f1.task = .call c r' k') (hl0 : f0.TaskRuns l0) (hl1 : f1.TaskRuns l1)
    (hF : F r r' = some (s, s')) :
    Step F l0 l1 (f0, f1) (⟨k s, f0.caller⟩, ⟨k' s', f1.caller⟩) :=
  .fire (.task h0 hl0) (.task h1 hl1) hF

/-- The two calling threads, waiting on one link, exchange an invocation. -/
theorem Step.callers {k k' : NdArrayRef w → Prog w β} (h0 : f0.caller = .call c r k)
    (h1 : f1.caller = .call c r' k') (hF : F r r' = some (s, s')) :
    Step F l0 l1 (f0, f1) (⟨f0.task, k s⟩, ⟨f1.task, k' s'⟩) :=
  .fire (.caller h0) (.caller h1) hF

end Fire

/-- Both threads of the rank have returned. -/
def Done (f : Forked w α β) : Prop := (∃ a, f.task = .ret a) ∧ ∃ b, f.caller = .ret b

/-- The rank's code on one thread, as the sequential model runs it: the
subtask, then the caller, then `join`. -/
def seq (f : Forked w α β) (join : α → β → Prog w γ) : Prog w γ :=
  f.task.bind fun a => f.caller.bind fun b => join a b

variable (F : Functionality w) (l0 l1 : Launch)

/-- Every step answers one thread of rank 0, so no run goes on forever. -/
theorem step_wellFounded :
    WellFounded (fun b a : Forked w α β × Forked w α β => Step F l0 l1 a b) := by
  refine Subrelation.wf (fun {b a} h => ?_) (InvImage.wf (fun cfg => (cfg.1.task, cfg.1.caller))
    (continues_wellFounded.prod_gameAdd continues_wellFounded))
  obtain ⟨h0, -, -⟩ := h
  cases h0 with
  | task ht _ => dsimp only [InvImage]; rw [ht]; exact .fst (.answer _)
  | caller hc => dsimp only [InvImage]; rw [hc]; exact .snd (.answer _)

/-! ## The invariant of a run -/

/-- The subtasks, or the callers, of the two ranks: both keep to link `c`,
and their lock-step run ends in `o`. -/
structure PairOn {δ : Type} (c : Conn) (o : Outcome δ) (p q : Prog w δ) : Prop where
  onLink0 : OnLink c p
  onLink1 : OnLink c q
  exec_eq : exec F p q = o

/-- What every configuration reachable from the fork keeps: subtasks on
`cT`, callers on `cC`, and each pair's lock-step outcome the one at the fork. -/
structure Inv (cT cC : Conn) (oT : Outcome α) (oC : Outcome β)
    (cfg : Forked w α β × Forked w α β) : Prop where
  task : PairOn F cT oT cfg.1.task cfg.2.task
  caller : PairOn F cC oC cfg.1.caller cfg.2.caller

variable {F} {δ : Type} {c cT cC : Conn} {o : Outcome δ} {oT : Outcome α} {oC : Outcome β}

/-- One invocation between the pair leaves its lock-step outcome as it was. -/
theorem PairOn.fire {c0 c1 : Conn} {r r' : Req w} {k k' : NdArrayRef w → Prog w δ}
    {s s' : NdArrayRef w} (h : PairOn F c o (.call c0 r k) (.call c1 r' k'))
    (hF : F r r' = some (s, s')) : PairOn F c o (k s) (k' s') := by
  obtain ⟨h0, h1, he⟩ := h
  cases h0 with
  | call h0 => cases h1 with
    | call h1 => exact ⟨h0 s, h1 s', (exec_call F hF).symm.trans he⟩

/-- A pair whose lock-step run is not stuck has returned, or waits on one
invocation that `F` answers. -/
theorem PairOn.cases {p q : Prog w δ} (h : PairOn F c o p q) (ho : o ≠ .stuck) :
    (∃ a b, p = .ret a ∧ q = .ret b) ∨
      ∃ r r' k k' s s', p = .call c r k ∧ q = .call c r' k' ∧ F r r' = some (s, s') := by
  obtain ⟨h0, h1, rfl⟩ := h
  cases h0 with
  | ret a => cases h1 with
    | ret b => exact .inl ⟨a, b, rfl, rfl⟩
    | call => exact absurd rfl ho
  | @call r k _ => cases h1 with
    | ret b => exact absurd rfl ho
    | @call r' k' _ =>
      cases hF : F r r' with
      | none => exact absurd (exec_call_none F hF) ho
      | some ss' => exact .inr ⟨r, r', k, k', ss'.1, ss'.2, rfl, rfl, hF⟩

/-- The step lemma: an invocation fires between two subtasks or two callers,
never across, since the two kinds keep to different links. -/
theorem Inv.step {cfg cfg' : Forked w α β × Forked w α β} (hne : cT ≠ cC)
    (hi : Inv F cT cC oT oC cfg) (h : Step F l0 l1 cfg cfg') : Inv F cT cC oT oC cfg' := by
  obtain ⟨ht, hc⟩ := hi
  obtain ⟨h0, h1, hF⟩ := h
  cases h0 with
  | task ht0 _ => cases h1 with
    | task ht1 _ =>
      rw [ht0, ht1] at ht
      exact ⟨ht.fire hF, hc⟩
    | caller hc1 => exact absurd ((ht.onLink0.conn_eq ht0).symm.trans (hc.onLink1.conn_eq hc1)) hne
  | caller hc0 => cases h1 with
    | task ht1 _ => exact absurd ((ht.onLink1.conn_eq ht1).symm.trans (hc.onLink0.conn_eq hc0)) hne
    | caller hc1 =>
      rw [hc0, hc1] at hc
      exact ⟨ht, hc.fire hF⟩

/-- The run lemma. -/
theorem Inv.run {cfg cfg' : Forked w α β × Forked w α β} (hne : cT ≠ cC)
    (hi : Inv F cT cC oT oC cfg) (h : ReflTransGen (Step F l0 l1) cfg cfg') :
    Inv F cT cC oT oC cfg' := by
  induction h with
  | refl => exact hi
  | tail _ hstep ih => exact ih.step l0 l1 hne hstep

/-- Progress: where neither pair's lock-step run gets stuck, a configuration
has finished or can go on, whatever the launch policies. A deferred subtask
waits for its caller, and the callers always run. -/
theorem Inv.progress {cfg : Forked w α β × Forked w α β} (hT : oT ≠ .stuck) (hC : oC ≠ .stuck)
    (hi : Inv F cT cC oT oC cfg) : (cfg.1.Done ∧ cfg.2.Done) ∨ ∃ cfg', Step F l0 l1 cfg cfg' := by
  rcases hi.caller.cases hC with ⟨b0, b1, hb0, hb1⟩ | ⟨_, _, _, _, _, _, hc0, hc1, hF⟩
  · rcases hi.task.cases hT with ⟨a0, a1, ha0, ha1⟩ | ⟨_, _, _, _, _, _, ht0, ht1, hF⟩
    · exact .inl ⟨⟨⟨a0, ha0⟩, b0, hb0⟩, ⟨a1, ha1⟩, b1, hb1⟩
    · exact .inr ⟨_, .fire (.task ht0 (.inr ⟨b0, hb0⟩)) (.task ht1 (.inr ⟨b1, hb1⟩)) hF⟩
  · exact .inr ⟨_, .fire (.caller hc0) (.caller hc1) hF⟩

/-- From every configuration some run finishes all four threads. -/
theorem Inv.finishes {cfg : Forked w α β × Forked w α β} (hne : cT ≠ cC) (hT : oT ≠ .stuck)
    (hC : oC ≠ .stuck) (hi : Inv F cT cC oT oC cfg) :
    ∃ cfg', ReflTransGen (Step F l0 l1) cfg cfg' ∧ cfg'.1.Done ∧ cfg'.2.Done := by
  induction cfg using (step_wellFounded F l0 l1).induction with
  | _ cfg ih =>
    rcases hi.progress l0 l1 hT hC with hd | ⟨cfg', hstep⟩
    · exact ⟨cfg, .refl, hd⟩
    · obtain ⟨cfg'', hrun, hd⟩ := ih cfg' hstep (hi.step l0 l1 hne hstep)
      exact ⟨cfg'', .head hstep hrun, hd⟩

/-- A fork whose subtasks keep to `cT` and callers to `cC ≠ cT`, and whose
pairs' lock-step runs do not get stuck: every configuration a run reaches can
still be finished, and wherever all four threads have returned, joining their
values gives what the sequential model's lock-step run gives. -/
theorem finishes_and_joins {f0 f1 : Forked w α β} {cfg : Forked w α β × Forked w α β}
    (hne : cT ≠ cC) (ht0 : OnLink cT f0.task) (ht1 : OnLink cT f1.task)
    (hc0 : OnLink cC f0.caller) (hc1 : OnLink cC f1.caller)
    (hT : exec F f0.task f1.task ≠ .stuck) (hC : exec F f0.caller f1.caller ≠ .stuck)
    (hrun : ReflTransGen (Step F l0 l1) (f0, f1) cfg) (j0 j1 : α → β → Prog w γ) :
    (∃ cfg', ReflTransGen (Step F l0 l1) cfg cfg' ∧ cfg'.1.Done ∧ cfg'.2.Done) ∧
      ∀ a0 b0 a1 b1, cfg = (⟨.ret a0, .ret b0⟩, ⟨.ret a1, .ret b1⟩) →
        exec F (f0.seq j0) (f1.seq j1) = exec F (j0 a0 b0) (j1 a1 b1) := by
  have hi := Inv.run l0 l1 hne ⟨⟨ht0, ht1, rfl⟩, ⟨hc0, hc1, rfl⟩⟩ hrun
  refine ⟨hi.finishes l0 l1 hne hT hC, ?_⟩
  rintro a0 b0 a1 b1 rfl
  exact (exec_bind_of_done F hi.task.exec_eq.symm).trans
    (exec_bind_of_done F hi.caller.exec_eq.symm)

end Forked

/-- A single invocation that `F` serves: its lock-step run finishes. -/
theorem exec_call_ret_ne_stuck {α : Type} {F : Functionality w} {c : Conn} {r r' : Req w}
    {P : NdArrayRef w → NdArrayRef w → Prop} {f g : NdArrayRef w → α} (h : F.Yields r r' P) :
    exec F (.call c r fun s => .ret (f s)) (.call c r' fun s => .ret (g s)) ≠ .stuck := by
  obtain ⟨s, s', hs, -⟩ := h
  rw [exec_call F hs]
  exact fun h => nomatch h

/-! ## The threads of `SquareA` and `mulDirectly` -/

/-- `nhalf` of `SquareA::proc`: the cross term of the first `nhalf` elements
goes to the subtask, the rest to the calling thread. -/
def SquareA.nhalf (numel : Nat) : Nat := if numel ≤ 8192 then numel else numel / 2

/-- The subtask `SquareA::proc` hands to `std::async`: `MulOLE` on the first
`nhalf` elements over `lctx`, rank 0 evaluating. -/
def SquareA.subtask (ctx : KernelEvalContext w) (x : NdArrayRef w) : Prog w (NdArrayRef w) :=
  let numel := x.numel
  let nhalf := SquareA.nhalf numel
  request .lctx (.mulOLE ((x.reshape [numel]).slice 0 nhalf) (ctx.rank = 0))

/-- The calling thread of `SquareA::proc` up to `subtask.get()`: `MulOLE` on
the rest over `duplx` when the input was split. `none` stands for `mul1`
left as constructed, which the code after the join does not read. -/
def SquareA.mul1 (ctx : KernelEvalContext w) (x : NdArrayRef w) :
    Prog w (Option (NdArrayRef w)) :=
  let numel := x.numel
  let nhalf := SquareA.nhalf numel
  if nhalf < numel then do
    let mul1 ← request .duplx (.mulOLE ((x.reshape [numel]).slice nhalf numel) (ctx.rank = 1))
    pure (some mul1)
  else pure none

/-- `SquareA::proc` after `subtask.get()`: the cross terms copied into place,
doubled, plus `x * x`. -/
def SquareA.join (ctx : KernelEvalContext w) (x mul0 : NdArrayRef w)
    (mul1 : Option (NdArrayRef w)) : NdArrayRef w :=
  let numel := x.numel
  let nhalf := SquareA.nhalf numel
  let x0x1 := ctx.alloc x.eltype [numel]
  let x0x1 := { x0x1 with buf := memcpy x0x1.buf 0 nhalf mul0.buf }
  let x0x1 := match mul1 with
    | some mul1 => { x0x1 with buf := memcpy x0x1.buf nhalf mul1.numel mul1.buf }
    | none => x0x1
  let x0x1 := (ringAdd x0x1 x0x1).reshape x.shape
  (ringAdd x0x1 (ringMul x x)).as x.eltype

/-- `SquareA::proc` at `std::async`. -/
def SquareA.fork (ctx : KernelEvalContext w) (x : NdArrayRef w) :
    Forked w (NdArrayRef w) (Option (NdArrayRef w)) :=
  ⟨SquareA.subtask ctx x, SquareA.mul1 ctx x⟩

/-- The sequential model of `SquareA` runs the subtask, then the caller, then the join. -/
theorem SquareA.proc_eq_seq (ctx : KernelEvalContext w) (x : NdArrayRef w)
    (hn : x.shape.numel ≠ 0) :
    SquareA.proc ctx x = (SquareA.fork ctx x).seq fun mul0 mul1 => .ret (SquareA.join ctx x mul0 mul1) := by
  simp only [SquareA.proc, numel_eq, hn, if_false, Forked.seq, SquareA.fork, SquareA.subtask,
    SquareA.mul1, SquareA.join, SquareA.nhalf, bind_eq, pure_eq, request_bind, ret_bind]
  split_ifs <;> rfl

theorem SquareA.fork_onLink (ctx : KernelEvalContext w) (x : NdArrayRef w) :
    OnLink .lctx (SquareA.fork ctx x).task ∧ OnLink .duplx (SquareA.fork ctx x).caller := by
  refine ⟨.request _ _, ?_⟩
  simp only [SquareA.fork, SquareA.mul1]
  split
  exacts [.call fun s => .ret (some s), .ret none]

/-- The subtask `MulAA::mulDirectly` starts with `std::launch::async`:
`MulShare` on `[n/2, n)` over `duplx`, rank 0 evaluating. -/
def MulAA.task (ctx : KernelEvalContext w) (x y : NdArrayRef w) : Prog w (NdArrayRef w) :=
  let fx := x.reshape [x.numel]
  let fy := y.reshape [y.numel]
  let n := fx.numel
  let nhalf := n / 2
  request .duplx (.mulShare (fx.slice nhalf n) (fy.slice nhalf n) (ctx.rank = 0))

/-- `out_slices[0]` of `MulAA::mulDirectly`, on the calling thread: `MulShare`
on `[0, n/2)` over `lctx`, rank 1 evaluating. -/
def MulAA.outSlice0 (ctx : KernelEvalContext w) (x y : NdArrayRef w) : Prog w (NdArrayRef w) :=
  let fx := x.reshape [x.numel]
  let fy := y.reshape [y.numel]
  let n := fx.numel
  let nhalf := n / 2
  request .lctx (.mulShare (fx.slice 0 nhalf) (fy.slice 0 nhalf) (ctx.rank ≠ 0))

/-- `MulAA::mulDirectly` after `task.get()`: the slices copied in order into a
new array of `x`'s shape. -/
def MulAA.copyOutSlices (ctx : KernelEvalContext w) (x : NdArrayRef w)
    (outSlices : List (NdArrayRef w)) : NdArrayRef w :=
  (outSlices.foldl
    (fun (acc : NdArrayRef w × Nat) s =>
      ({ acc.1 with buf := memcpy acc.1.buf acc.2 s.numel s.buf }, acc.2 + s.numel))
    (ctx.alloc x.eltype x.shape, 0)).1

/-- `MulAA::mulDirectly` at `std::async`. -/
def MulAA.mulDirectlyFork (ctx : KernelEvalContext w) (x y : NdArrayRef w) :
    Forked w (NdArrayRef w) (NdArrayRef w) :=
  ⟨MulAA.task ctx x y, MulAA.outSlice0 ctx x y⟩

/-- The sequential model of `mulDirectly` runs the subtask, then the caller, then the copy. -/
theorem MulAA.mulDirectly_eq_seq (ctx : KernelEvalContext w) (x y : NdArrayRef w) :
    MulAA.mulDirectly ctx x y = (MulAA.mulDirectlyFork ctx x y).seq
      fun task slice0 => .ret (MulAA.copyOutSlices ctx x [slice0, task]) := rfl

/-- The subtask `MatMulAA::proc` starts with `std::launch::async`: the cross
term `x0 * y1` by `DotOLE` over `duplx`, rank 0 sending `x` and rank 1 `y`. -/
def MatMulAA.task (ctx : KernelEvalContext w) (x y : NdArrayRef w) : Prog w (NdArrayRef w) :=
  let dim3 : Shape3D := (x.shape.getD 0 0, x.shape.getD 1 0, y.shape.getD 1 0)
  if ctx.rank = 0 then request .duplx (.dotOLE x dim3 true)
  else request .duplx (.dotOLE y dim3 false)

/-- `x1y0` of `MatMulAA::proc`, on the calling thread: the cross term
`x1 * y0` by `DotOLE` over `lctx`. -/
def MatMulAA.x1y0 (ctx : KernelEvalContext w) (x y : NdArrayRef w) : Prog w (NdArrayRef w) :=
  let dim3 : Shape3D := (x.shape.getD 0 0, x.shape.getD 1 0, y.shape.getD 1 0)
  if ctx.rank = 0 then request .lctx (.dotOLE y dim3 false)
  else request .lctx (.dotOLE x dim3 true)

/-- `MatMulAA::proc` after `task.get()`: the local product plus both cross terms. -/
def MatMulAA.join (x y task x1y0 : NdArrayRef w) : NdArrayRef w :=
  (ringAdd (ringAdd (ringMmul x y) x1y0) task).as x.eltype

/-- `MatMulAA::proc` at `std::async`. -/
def MatMulAA.fork (ctx : KernelEvalContext w) (x y : NdArrayRef w) :
    Forked w (NdArrayRef w) (NdArrayRef w) :=
  ⟨MatMulAA.task ctx x y, MatMulAA.x1y0 ctx x y⟩

theorem MatMulAA.proc_eq_seq (ctx : KernelEvalContext w) (x y : NdArrayRef w)
    (hn : ¬(x.shape.numel = 0 ∨ y.shape.numel = 0)) :
    MatMulAA.proc ctx x y = (MatMulAA.fork ctx x y).seq
      fun task x1y0 => .ret (MatMulAA.join x y task x1y0) := by
  simp only [MatMulAA.proc, numel_eq, hn, if_false, Forked.seq, MatMulAA.fork, MatMulAA.task,
    MatMulAA.x1y0, bind_eq, pure_eq, ret_bind, ite_bind]
  split_ifs <;> rfl

/-- The subtask `BatchMatMulAA::proc` starts with `std::launch::async`: the
cross terms `x0[b] * y1[b]` by `BatchDotOLE` over `duplx`. -/
def BatchMatMulAA.task (ctx : KernelEvalContext w) (x y : NdArrayRef w) :
    Prog w (NdArrayRef w) :=
  let dim4 : Shape4D := (x.shape.getD 0 0, x.shape.getD 1 0, x.shape.getD 2 0, y.shape.getD 2 0)
  if ctx.rank = 0 then request .duplx (.batchDotOLE x dim4 true)
  else request .duplx (.batchDotOLE y dim4 false)

/-- `x1y0` of `BatchMatMulAA::proc`, on the calling thread: the cross terms
`x1[b] * y0[b]` by `BatchDotOLE` over `lctx`. -/
def BatchMatMulAA.x1y0 (ctx : KernelEvalContext w) (x y : NdArrayRef w) :
    Prog w (NdArrayRef w) :=
  let dim4 : Shape4D := (x.shape.getD 0 0, x.shape.getD 1 0, x.shape.getD 2 0, y.shape.getD 2 0)
  if ctx.rank = 0 then request .lctx (.batchDotOLE y dim4 false)
  else request .lctx (.batchDotOLE x dim4 true)

/-- `BatchMatMulAA::proc` after `task.get()`: the local products written slice
by slice, plus both cross terms. -/
def BatchMatMulAA.join (ctx : KernelEvalContext w) (x y task x1y0 : NdArrayRef w) :
    NdArrayRef w :=
  let (bs, m, k, n) := (x.shape.getD 0 0, x.shape.getD 1 0, x.shape.getD 2 0, y.shape.getD 2 0)
  let out := (List.range bs).foldl (fun out b =>
    let lhs := (x.slice b (b + 1)).reshape [m, k]
    let rhs := (y.slice b (b + 1)).reshape [k, n]
    out.setSlice (ringMmul lhs rhs) b) (ctx.alloc x.eltype [bs, m, n])
  (ringAdd (ringAdd out x1y0) task).as x.eltype

/-- `BatchMatMulAA::proc` at `std::async`. -/
def BatchMatMulAA.fork (ctx : KernelEvalContext w) (x y : NdArrayRef w) :
    Forked w (NdArrayRef w) (NdArrayRef w) :=
  ⟨BatchMatMulAA.task ctx x y, BatchMatMulAA.x1y0 ctx x y⟩

theorem BatchMatMulAA.proc_eq_seq (ctx : KernelEvalContext w) (x y : NdArrayRef w)
    (hn : ¬(x.shape.numel = 0 ∨ y.shape.numel = 0))
    (hchk : (x.shape.length = 3 ∧ y.shape.length = 3) ∧ x.shape.getD 0 0 = y.shape.getD 0 0 ∧
      x.shape.getD 2 0 = y.shape.getD 1 0) :
    BatchMatMulAA.proc ctx x y = (BatchMatMulAA.fork ctx x y).seq
      fun task x1y0 => .ret (BatchMatMulAA.join ctx x y task x1y0) := by
  simp only [BatchMatMulAA.proc, batchProcChecks, numel_eq, hn, if_false, bind_eq,
    enforce_pos hchk.1, enforce_pos hchk.2.1, enforce_pos hchk.2.2, Forked.seq, BatchMatMulAA.fork,
    BatchMatMulAA.task, BatchMatMulAA.x1y0, pure_eq, ret_bind, ite_bind]
  split_ifs <;> rfl

section Claims

variable (F : Functionality w) (ctx0 ctx1 : KernelEvalContext w)

/-- Under either launch policy on either rank, every configuration that an
interleaving of `SquareA`'s four threads reaches can still be finished, and
wherever all four have returned, the joined results are the outputs of the
sequential model's lock-step run. -/
theorem squareA_threads_join_as_model (hF : MulOLESpec F) (hs : Session ctx0 ctx1)
    (l0 l1 : Launch) (x0 x1 : NdArrayRef w) (hx : x1.shape = x0.shape)
    (hn : x0.shape.numel ≠ 0)
    {cfg : Forked w (NdArrayRef w) (Option (NdArrayRef w)) ×
      Forked w (NdArrayRef w) (Option (NdArrayRef w))}
    (hrun : ReflTransGen (Forked.Step F l0 l1) (SquareA.fork ctx0 x0, SquareA.fork ctx1 x1) cfg) :
    (∃ cfg', ReflTransGen (Forked.Step F l0 l1) cfg cfg' ∧ cfg'.1.Done ∧ cfg'.2.Done) ∧
      ∀ mul0 mul1 mul0' mul1', cfg = (⟨.ret mul0, .ret mul1⟩, ⟨.ret mul0', .ret mul1'⟩) →
        exec F (SquareA.proc ctx0 x0) (SquareA.proc ctx1 x1) =
          .done (SquareA.join ctx0 x0 mul0 mul1) (SquareA.join ctx1 x1 mul0' mul1') := by
  rw [SquareA.proc_eq_seq ctx0 x0 hn, SquareA.proc_eq_seq ctx1 x1 (hx ▸ hn)]
  refine Forked.finishes_and_joins l0 l1 (by decide) (SquareA.fork_onLink ctx0 x0).1
    (SquareA.fork_onLink ctx1 x1).1 (SquareA.fork_onLink ctx0 x0).2
    (SquareA.fork_onLink ctx1 x1).2 ?_ ?_ hrun _ _
  · simp only [SquareA.fork, SquareA.subtask, numel_eq, hx, hs.rank0, hs.rank1]
    exact exec_call_ret_ne_stuck (hF _ _ true (by simp [hx]))
  · simp only [SquareA.fork, SquareA.mul1, numel_eq, hx, hs.rank0, hs.rank1, bind_eq,
      request_bind, pure_eq]
    split_ifs
    · exact exec_call_ret_ne_stuck (hF _ _ false (by simp [hx]))
    · exact fun h => nomatch h

/-- `8194` elements, past the threshold, rank 1's subtask deferred: the calling
threads exchange the second half over `duplx`, and only then can the subtasks
exchange the first half over `lctx`. The run ends with all four threads
returned, and their join is the lock-step outcome. -/
theorem squareA_threads_join_as_model_instance :
    ReflTransGen (Forked.Step (dealer : Functionality 8) .async .deferred)
        (SquareA.fork (.ofRank 0 1) ⟨.ashr, [8194], fun _ => 3⟩,
          SquareA.fork (.ofRank 1 1) ⟨.ashr, [8194], fun _ => 4⟩)
        (⟨.ret ⟨.ring, [4097], fun _ => 3 * 4⟩, .ret (some ⟨.ring, [4097], fun _ => 3 * 4⟩)⟩,
          ⟨.ret ⟨.ring, [4097], 0⟩, .ret (some ⟨.ring, [4097], 0⟩)⟩) ∧
      exec (dealer : Functionality 8) (SquareA.proc (.ofRank 0 1) ⟨.ashr, [8194], fun _ => 3⟩)
          (SquareA.proc (.ofRank 1 1) ⟨.ashr, [8194], fun _ => 4⟩) =
        .done
          (SquareA.join (.ofRank 0 1) ⟨.ashr, [8194], fun _ => 3⟩ ⟨.ring, [4097], fun _ => 3 * 4⟩
            (some ⟨.ring, [4097], fun _ => 3 * 4⟩))
          (SquareA.join (.ofRank 1 1) ⟨.ashr, [8194], fun _ => 4⟩ ⟨.ring, [4097], 0⟩
            (some ⟨.ring, [4097], 0⟩)) := by
  refine ⟨?run, (squareA_threads_join_as_model dealer (.ofRank 0 1) (.ofRank 1 1) dealer_mulOLE
    ⟨rfl, rfl, rfl, rfl⟩ .async .deferred ⟨.ashr, [8194], fun _ => 3⟩ ⟨.ashr, [8194], fun _ => 4⟩ rfl
    (by decide) ?run).2 _ _ _ _ rfl⟩
  exact .head (Forked.Step.callers rfl rfl rfl)
    (.single (Forked.Step.tasks rfl rfl (.inl rfl) (.inr ⟨_, rfl⟩) rfl))

/-- With the subtask on a thread of its own on both ranks, as
`std::launch::async` asks, every configuration that an interleaving of
`mulDirectly`'s threads reaches can still be finished, and wherever all four
have returned, the copied slices are the outputs of the sequential model's
lock-step run. -/
theorem mulDirectly_threads_join_as_model (hF : MulShareSpec F) (hs : Session ctx0 ctx1)
    (x0 x1 y0 y1 : NdArrayRef w) (hx : x1.shape = x0.shape) (hy0 : y0.shape = x0.shape)
    (hy1 : y1.shape = x0.shape)
    {cfg : Forked w (NdArrayRef w) (NdArrayRef w) × Forked w (NdArrayRef w) (NdArrayRef w)}
    (hrun : ReflTransGen (Forked.Step F .async .async)
      (MulAA.mulDirectlyFork ctx0 x0 y0, MulAA.mulDirectlyFork ctx1 x1 y1) cfg) :
    (∃ cfg', ReflTransGen (Forked.Step F .async .async) cfg cfg' ∧ cfg'.1.Done ∧ cfg'.2.Done) ∧
      ∀ task slice0 task' slice0', cfg = (⟨.ret task, .ret slice0⟩, ⟨.ret task', .ret slice0'⟩) →
        exec F (MulAA.mulDirectly ctx0 x0 y0) (MulAA.mulDirectly ctx1 x1 y1) =
          .done (MulAA.copyOutSlices ctx0 x0 [slice0, task])
            (MulAA.copyOutSlices ctx1 x1 [slice0', task']) := by
  rw [MulAA.mulDirectly_eq_seq, MulAA.mulDirectly_eq_seq]
  refine Forked.finishes_and_joins .async .async (by decide : Conn.duplx ≠ .lctx)
    (.request _ _) (.request _ _) (.request _ _) (.request _ _) ?_ ?_ hrun _ _
  · simp only [MulAA.mulDirectlyFork, MulAA.task, numel_eq, hx, hy0, hy1, hs.rank0, hs.rank1]
    exact exec_call_ret_ne_stuck (hF _ _ _ _ true (by simp) (by simp) (by simp))
  · simp only [MulAA.mulDirectlyFork, MulAA.outSlice0, numel_eq, hx, hy0, hy1, hs.rank0, hs.rank1]
    exact exec_call_ret_ne_stuck (hF _ _ _ _ false (by simp) (by simp) (by simp))

/-- Two elements: the subtasks exchange element 1 over `duplx`, then the
calling threads element 0 over `lctx`. -/
theorem mulDirectly_threads_join_as_model_instance :
    ReflTransGen (Forked.Step (dealer : Functionality 8) .async .async)
        (MulAA.mulDirectlyFork (.ofRank 0 1) ⟨.ashr, [2], fun _ => 3⟩ ⟨.ashr, [2], fun _ => 5⟩,
          MulAA.mulDirectlyFork (.ofRank 1 1) ⟨.ashr, [2], fun _ => 4⟩ ⟨.ashr, [2], fun _ => 6⟩)
        (⟨.ret ⟨.ring, [1], fun _ => (3 + 4) * (5 + 6)⟩, .ret ⟨.ring, [1], fun _ => (3 + 4) * (5 + 6)⟩⟩,
          ⟨.ret ⟨.ring, [1], 0⟩, .ret ⟨.ring, [1], 0⟩⟩) ∧
      exec (dealer : Functionality 8)
          (MulAA.mulDirectly (.ofRank 0 1) ⟨.ashr, [2], fun _ => 3⟩ ⟨.ashr, [2], fun _ => 5⟩)
          (MulAA.mulDirectly (.ofRank 1 1) ⟨.ashr, [2], fun _ => 4⟩ ⟨.ashr, [2], fun _ => 6⟩) =
        .done
          (MulAA.copyOutSlices (.ofRank 0 1) ⟨.ashr, [2], fun _ => 3⟩
            [⟨.ring, [1], fun _ => (3 + 4) * (5 + 6)⟩, ⟨.ring, [1], fun _ => (3 + 4) * (5 + 6)⟩])
          (MulAA.copyOutSlices (.ofRank 1 1) ⟨.ashr, [2], fun _ => 4⟩
            [⟨.ring, [1], 0⟩, ⟨.ring, [1], 0⟩]) := by
  refine ⟨?run, (mulDirectly_threads_join_as_model dealer (.ofRank 0 1) (.ofRank 1 1) dealer_mulShare
    ⟨rfl, rfl, rfl, rfl⟩ ⟨.ashr, [2], fun _ => 3⟩ ⟨.ashr, [2], fun _ => 4⟩ ⟨.ashr, [2], fun _ => 5⟩
    ⟨.ashr, [2], fun _ => 6⟩ rfl rfl rfl ?run).2 _ _ _ _ rfl⟩
  exact .head (Forked.Step.tasks rfl rfl (.inl rfl) (.inl rfl) rfl)
    (.single (Forked.Step.callers rfl rfl rfl))

/-- `MatMulAA::proc` on `(M, K)` and `(K, N)` operands: its subtask computes the
cross term `x0 * y1` over `duplx` while the calling thread computes `x1 * y0`
over `lctx`. Every configuration that an interleaving of the four threads
reaches can still be finished, and wherever all four have returned, the joined
results are the outputs of the sequential model's lock-step run. -/
theorem matMulAA_threads_join_as_model (hF : DotOLESpec F) (hs : Session ctx0 ctx1)
    {m k n : Nat} (hm : 0 < m) (hk : 0 < k) (hn : 0 < n) (x0 x1 y0 y1 : NdArrayRef w)
    (hx0 : x0.shape = [m, k]) (hx1 : x1.shape = [m, k]) (hy0 : y0.shape = [k, n])
    (hy1 : y1.shape = [k, n])
    {cfg : Forked w (NdArrayRef w) (NdArrayRef w) × Forked w (NdArrayRef w) (NdArrayRef w)}
    (hrun : ReflTransGen (Forked.Step F .async .async)
      (MatMulAA.fork ctx0 x0 y0, MatMulAA.fork ctx1 x1 y1) cfg) :
    (∃ cfg', ReflTransGen (Forked.Step F .async .async) cfg cfg' ∧ cfg'.1.Done ∧ cfg'.2.Done) ∧
      ∀ task x1y0 task' x1y0', cfg = (⟨.ret task, .ret x1y0⟩, ⟨.ret task', .ret x1y0'⟩) →
        exec F (MatMulAA.proc ctx0 x0 y0) (MatMulAA.proc ctx1 x1 y1) =
          .done (MatMulAA.join x0 y0 task x1y0) (MatMulAA.join x1 y1 task' x1y0') := by
  have hne : ∀ {x y : NdArrayRef w}, x.shape = [m, k] → y.shape = [k, n] →
      ¬(x.shape.numel = 0 ∨ y.shape.numel = 0) := fun hx hy => by
    simp only [hx, hy, Shape.numel_cons, Shape.numel_nil, mul_one, mul_eq_zero]; omega
  rw [MatMulAA.proc_eq_seq ctx0 x0 y0 (hne hx0 hy0), MatMulAA.proc_eq_seq ctx1 x1 y1 (hne hx1 hy1)]
  refine Forked.finishes_and_joins .async .async (by decide : Conn.duplx ≠ .lctx)
    (.ite_request _ _ _) (.ite_request _ _ _) (.ite_request _ _ _) (.ite_request _ _ _) ?_ ?_ hrun
    _ _ <;>
  simp only [MatMulAA.fork, MatMulAA.task, MatMulAA.x1y0, hs.rank0, hs.rank1, if_true,
    show (1 : Fin 2) ≠ 0 by decide, if_false, hx0, hx1, hy0, hy1, List.getD_cons_zero,
    List.getD_cons_succ]
  · exact exec_call_ret_ne_stuck (hF _ _ m k n hx0 hy1).1
  · exact exec_call_ret_ne_stuck (hF _ _ m k n hx1 hy0).2

/-- `(1, 1)` operands: the calling threads exchange `x1 * y0` over `lctx`, then
the subtasks `x0 * y1` over `duplx`. -/
theorem matMulAA_threads_join_as_model_instance :
    ReflTransGen (Forked.Step (dealer : Functionality 8) .async .async)
        (MatMulAA.fork (.ofRank 0 1) ⟨.ashr, [1, 1], fun _ => 2⟩ ⟨.ashr, [1, 1], fun _ => 5⟩,
          MatMulAA.fork (.ofRank 1 1) ⟨.ashr, [1, 1], fun _ => 3⟩ ⟨.ashr, [1, 1], fun _ => 7⟩)
        (⟨.ret ⟨.ring, [1, 1], mmulBuf 1 1 (fun _ => 2) fun _ => 7⟩,
            .ret ⟨.ring, [1, 1], mmulBuf 1 1 (fun _ => 3) fun _ => 5⟩⟩,
          ⟨.ret ⟨.ring, [1, 1], 0⟩, .ret ⟨.ring, [1, 1], 0⟩⟩) ∧
      exec (dealer : Functionality 8)
          (MatMulAA.proc (.ofRank 0 1) ⟨.ashr, [1, 1], fun _ => 2⟩ ⟨.ashr, [1, 1], fun _ => 5⟩)
          (MatMulAA.proc (.ofRank 1 1) ⟨.ashr, [1, 1], fun _ => 3⟩ ⟨.ashr, [1, 1], fun _ => 7⟩) =
        .done
          (MatMulAA.join ⟨.ashr, [1, 1], fun _ => 2⟩ ⟨.ashr, [1, 1], fun _ => 5⟩
            ⟨.ring, [1, 1], mmulBuf 1 1 (fun _ => 2) fun _ => 7⟩
            ⟨.ring, [1, 1], mmulBuf 1 1 (fun _ => 3) fun _ => 5⟩)
          (MatMulAA.join ⟨.ashr, [1, 1], fun _ => 3⟩ ⟨.ashr, [1, 1], fun _ => 7⟩ ⟨.ring, [1, 1], 0⟩
            ⟨.ring, [1, 1], 0⟩) := by
  refine ⟨?run, (matMulAA_threads_join_as_model dealer (.ofRank 0 1) (.ofRank 1 1) dealer_dotOLE
    ⟨rfl, rfl, rfl, rfl⟩ (by decide) (by decide) (by decide) ⟨.ashr, [1, 1], fun _ => 2⟩
    ⟨.ashr, [1, 1], fun _ => 3⟩ ⟨.ashr, [1, 1], fun _ => 5⟩ ⟨.ashr, [1, 1], fun _ => 7⟩ rfl rfl rfl
    rfl ?run).2 _ _ _ _ rfl⟩
  exact .head (Forked.Step.callers rfl rfl rfl)
    (.single (Forked.Step.tasks rfl rfl (.inl rfl) (.inl rfl) rfl))

/-- `BatchMatMulAA::proc` on `(B, M, K)` and `(B, K, N)` operands, which pass
its shape checks: as for `MatMulAA`, with `BatchDotOLE` on both threads. -/
theorem batchMatMulAA_threads_join_as_model (hF : BatchDotOLESpec F) (hs : Session ctx0 ctx1)
    {bs m k n : Nat} (hb : 0 < bs) (hm : 0 < m) (hk : 0 < k) (hn : 0 < n)
    (x0 x1 y0 y1 : NdArrayRef w) (hx0 : x0.shape = [bs, m, k]) (hx1 : x1.shape = [bs, m, k])
    (hy0 : y0.shape = [bs, k, n]) (hy1 : y1.shape = [bs, k, n])
    {cfg : Forked w (NdArrayRef w) (NdArrayRef w) × Forked w (NdArrayRef w) (NdArrayRef w)}
    (hrun : ReflTransGen (Forked.Step F .async .async)
      (BatchMatMulAA.fork ctx0 x0 y0, BatchMatMulAA.fork ctx1 x1 y1) cfg) :
    (∃ cfg', ReflTransGen (Forked.Step F .async .async) cfg cfg' ∧ cfg'.1.Done ∧ cfg'.2.Done) ∧
      ∀ task x1y0 task' x1y0', cfg = (⟨.ret task, .ret x1y0⟩, ⟨.ret task', .ret x1y0'⟩) →
        exec F (BatchMatMulAA.proc ctx0 x0 y0) (BatchMatMulAA.proc ctx1 x1 y1) =
          .done (BatchMatMulAA.join ctx0 x0 y0 task x1y0)
            (BatchMatMulAA.join ctx1 x1 y1 task' x1y0') := by
  have hne : ∀ {x y : NdArrayRef w}, x.shape = [bs, m, k] → y.shape = [bs, k, n] →
      ¬(x.shape.numel = 0 ∨ y.shape.numel = 0) := fun hx hy => by
    simp only [hx, hy, Shape.numel_cons, Shape.numel_nil, mul_one, mul_eq_zero]; omega
  have hchk : ∀ {x y : NdArrayRef w}, x.shape = [bs, m, k] → y.shape = [bs, k, n] →
      (x.shape.length = 3 ∧ y.shape.length = 3) ∧ x.shape.getD 0 0 = y.shape.getD 0 0 ∧
        x.shape.getD 2 0 = y.shape.getD 1 0 := fun hx hy => by simp [hx, hy]
  rw [BatchMatMulAA.proc_eq_seq ctx0 x0 y0 (hne hx0 hy0) (hchk hx0 hy0),
    BatchMatMulAA.proc_eq_seq ctx1 x1 y1 (hne hx1 hy1) (hchk hx1 hy1)]
  refine Forked.finishes_and_joins .async .async (by decide : Conn.duplx ≠ .lctx)
    (.ite_request _ _ _) (.ite_request _ _ _) (.ite_request _ _ _) (.ite_request _ _ _) ?_ ?_ hrun
    _ _ <;>
  simp only [BatchMatMulAA.fork, BatchMatMulAA.task, BatchMatMulAA.x1y0, hs.rank0, hs.rank1,
    if_true, show (1 : Fin 2) ≠ 0 by decide, if_false, hx0, hx1, hy0, hy1, List.getD_cons_zero,
    List.getD_cons_succ]
  · exact exec_call_ret_ne_stuck (hF _ _ bs m k n hx0 hy1).1
  · exact exec_call_ret_ne_stuck (hF _ _ bs m k n hx1 hy0).2

/-- `(1, 1, 1)` operands: the subtasks exchange `x0[0] * y1[0]` over `duplx`,
then the calling threads `x1[0] * y0[0]` over `lctx`. -/
theorem batchMatMulAA_threads_join_as_model_instance :
    ReflTransGen (Forked.Step (dealer : Functionality 8) .async .async)
        (BatchMatMulAA.fork (.ofRank 0 1) ⟨.ashr, [1, 1, 1], fun _ => 2⟩ ⟨.ashr, [1, 1, 1], fun _ => 5⟩,
          BatchMatMulAA.fork (.ofRank 1 1) ⟨.ashr, [1, 1, 1], fun _ => 3⟩
            ⟨.ashr, [1, 1, 1], fun _ => 7⟩)
        (⟨.ret ⟨.ring, [1, 1, 1], bmmulBuf 1 1 1 (fun _ => 2) fun _ => 7⟩,
            .ret ⟨.ring, [1, 1, 1], bmmulBuf 1 1 1 (fun _ => 3) fun _ => 5⟩⟩,
          ⟨.ret ⟨.ring, [1, 1, 1], 0⟩, .ret ⟨.ring, [1, 1, 1], 0⟩⟩) ∧
      exec (dealer : Functionality 8)
          (BatchMatMulAA.proc (.ofRank 0 1) ⟨.ashr, [1, 1, 1], fun _ => 2⟩
            ⟨.ashr, [1, 1, 1], fun _ => 5⟩)
          (BatchMatMulAA.proc (.ofRank 1 1) ⟨.ashr, [1, 1, 1], fun _ => 3⟩
            ⟨.ashr, [1, 1, 1], fun _ => 7⟩) =
        .done
          (BatchMatMulAA.join (.ofRank 0 1) ⟨.ashr, [1, 1, 1], fun _ => 2⟩
            ⟨.ashr, [1, 1, 1], fun _ => 5⟩ ⟨.ring, [1, 1, 1], bmmulBuf 1 1 1 (fun _ => 2) fun _ => 7⟩
            ⟨.ring, [1, 1, 1], bmmulBuf 1 1 1 (fun _ => 3) fun _ => 5⟩)
          (BatchMatMulAA.join (.ofRank 1 1) ⟨.ashr, [1, 1, 1], fun _ => 3⟩
            ⟨.ashr, [1, 1, 1], fun _ => 7⟩ ⟨.ring, [1, 1, 1], 0⟩ ⟨.ring, [1, 1, 1], 0⟩) := by
  refine ⟨?run, (batchMatMulAA_threads_join_as_model dealer (.ofRank 0 1) (.ofRank 1 1)
    dealer_batchDotOLE ⟨rfl, rfl, rfl, rfl⟩ (by decide) (by decide) (by decide) (by decide)
    ⟨.ashr, [1, 1, 1], fun _ => 2⟩ ⟨.ashr, [1, 1, 1], fun _ => 3⟩ ⟨.ashr, [1, 1, 1], fun _ => 5⟩
    ⟨.ashr, [1, 1, 1], fun _ => 7⟩ rfl rfl rfl rfl ?run).2 _ _ _ _ rfl⟩
  exact .head (Forked.Step.tasks rfl rfl (.inl rfl) (.inl rfl) rfl)
    (.single (Forked.Step.callers rfl rfl rfl))

end Claims

end Cheetah
