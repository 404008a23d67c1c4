import AgentOperator.Proofs.Action

/-!
# Clusters that record their calls

Any cluster can be made to record each call with its answer.  A computation over
the recorded cluster does to the state what it does over the cluster itself, and
beside it leaves the calls that it made, in order.  Which calls these are is said
by a relation between the result and the calls, with one rule for each way of
putting computations together.
-/

namespace AgentOperator

/-- A call to a cluster with its answer. -/
inductive Call
  | get (kind : Kind) (space : Option String) (name : String)
    (answer : Except Failure (Option Object))
  | list (kind : Kind) (space selector : String) (answer : Except Failure (List Object))
  | create (kind : Kind) (object : Object) (answer : Except Failure Object)
  | replace (kind : Kind) (object : Object) (answer : Except Failure Object)
  | delete (kind : Kind) (space : Option String) (name : String)
    (answer : Except Failure Unit)
  | patchStatus (agent : Agent) (status : Status) (answer : Except Failure Unit)
  | publish (agent : Agent) (event : Event) (answer : Except Failure Unit)

namespace Call

def isDelete : Call → Bool
  | delete .. => true
  | _ => false

def isPatch : Call → Bool
  | patchStatus .. => true
  | _ => false

/-- The call submits a warning. -/
def isWarning : Call → Bool
  | publish _ event _ => event.severity == .warning
  | _ => false

/-- The call says something about an agent; all others read or write objects. -/
def isReport : Call → Bool
  | patchStatus .. | publish .. => true
  | _ => false

theorem isPatch_of_isReport {call : Call} (hreport : call.isReport = false) :
    call.isPatch = false := by
  cases call <;> simp_all [isReport, isPatch]

theorem isWarning_of_isReport {call : Call} (hreport : call.isReport = false) :
    call.isWarning = false := by
  cases call <;> simp_all [isReport, isWarning]

end Call

variable {σ α β : Type}

/-- A call that is recorded with its answer. -/
def Action.noted (note : Except Failure α → Call) (action : Action σ α) :
    Action (σ × List Call) α := fun (state, calls) =>
  let (result, state) := action.run state
  (result, state, calls ++ [note result])

/-- The cluster with a record of its calls. -/
def Cluster.recorded (cluster : Cluster σ) : Cluster (σ × List Call) :=
  { get := fun kind space name =>
      (cluster.get kind space name).noted (.get kind space name)
    list := fun kind space selector =>
      (cluster.list kind space selector).noted (.list kind space selector)
    create := fun kind object => (cluster.create kind object).noted (.create kind object)
    replace := fun kind object => (cluster.replace kind object).noted (.replace kind object)
    delete := fun kind space name =>
      (cluster.delete kind space name).noted (.delete kind space name)
    patchStatus := fun agent status =>
      (cluster.patchStatus agent status).noted (.patchStatus agent status)
    publish := fun agent event => (cluster.publish agent event).noted (.publish agent event) }

namespace Action

theorem run_noted (note : Except Failure α → Call) (action : Action σ α) (s : σ)
    (before : List Call) :
    Action.run (action.noted note) (s, before) =
      ((Action.run action s).1, (Action.run action s).2,
        before ++ [note (Action.run action s).1]) := rfl

/-- The first computation does what the second one does, and the calls that it
records are related to its result. -/
def Logs (recorded : Action (σ × List Call) α) (plain : Action σ α)
    (R : Except Failure α → List Call → Prop) : Prop :=
  ∀ s before, ∃ calls,
    Action.run recorded (s, before) =
      ((Action.run plain s).1, (Action.run plain s).2, before ++ calls) ∧
    R (Action.run plain s).1 calls

variable {m : Action (σ × List Call) α} {m' : Action σ α} {k : α → Action (σ × List Call) β}
  {k' : α → Action σ β} {R : Except Failure α → List Call → Prop}
  {S : Except Failure β → List Call → Prop}

theorem logs_pure {a : α} (ha : R (.ok a) []) :
    Logs (pure a : Action (σ × List Call) α) (pure a) R := fun s before =>
  ⟨[], by simp, ha⟩

theorem logs_throw {failure : Failure} (hfailure : R (.error failure) []) :
    Logs (throw failure : Action (σ × List Call) α) (throw failure) R := fun s before =>
  ⟨[], by simp, hfailure⟩

theorem logs_mk_pure {result : Except Failure α} (hresult : R result []) :
    Logs (ExceptT.mk (pure result) : Action (σ × List Call) α) (ExceptT.mk (pure result)) R :=
  fun s before => ⟨[], by simp, hresult⟩

theorem logs_noted {note : Except Failure α → Call} {action : Action σ α}
    (hnote : ∀ result, R result [note result]) : Logs (action.noted note) action R :=
  fun s before => ⟨_, run_noted note action s before, hnote _⟩

theorem Logs.mono {Q : Except Failure α → List Call → Prop} (hm : Logs m m' R)
    (himp : ∀ result calls, R result calls → Q result calls) : Logs m m' Q := by
  intro s before
  obtain ⟨calls, hrun, hcalls⟩ := hm s before
  exact ⟨calls, hrun, himp _ _ hcalls⟩

/-- The calls of a sequence are those of its first part and then those of its
second, which is not begun when the first one fails. -/
theorem Logs.bind (hm : Logs m m' R)
    (hfail : ∀ failure calls, R (.error failure) calls → S (.error failure) calls)
    (hk : ∀ a first, R (.ok a) first →
      Logs (k a) (k' a) fun result rest => S result (first ++ rest)) :
    Logs (m >>= k) (m' >>= k') S := by
  intro s before
  obtain ⟨first, hrun, hfirst⟩ := hm s before
  rcases hplain : Action.run m' s with ⟨result, t⟩
  rw [hplain] at hrun hfirst
  cases result with
  | error failure =>
      rw [run_bind_of_error hrun, run_bind_of_error hplain]
      exact ⟨first, rfl, hfail failure first hfirst⟩
  | ok a =>
      rw [run_bind_of_ok hrun, run_bind_of_ok hplain]
      obtain ⟨rest, hrest, hcalls⟩ := hk a first hfirst t (before ++ first)
      exact ⟨first ++ rest, by rw [hrest, List.append_assoc], hcalls⟩

theorem Logs.attempt {S : Except Failure (Except Failure α) → List Call → Prop}
    (hm : Logs m m' R) (hS : ∀ result calls, R result calls → S (.ok result) calls) :
    Logs m.attempt m'.attempt S := by
  intro s before
  obtain ⟨calls, hrun, hcalls⟩ := hm s before
  refine ⟨calls, ?_, ?_⟩
  · rw [run_attempt, run_attempt, hrun]
  · rw [run_attempt]
    exact hS _ calls hcalls

/-- The first predicate holds of the state, and the second one of all recorded calls. -/
def Recorded (P : σ → Prop) (C : Call → Prop) (state : σ × List Call) : Prop :=
  P state.1 ∧ ∀ call ∈ state.2, C call

theorem keeps_noted {P : σ → Prop} {C : Call → Prop} {note : Except Failure α → Call}
    {action : Action σ α} (hkeeps : Keeps P action) (hnote : ∀ result, C (note result)) :
    Keeps (Recorded P C) (action.noted note) := by
  rintro ⟨s, before⟩ ⟨hs, hbefore⟩
  rw [run_noted]
  exact ⟨hkeeps s hs, List.forall_mem_append.mpr ⟨hbefore, by simpa using hnote _⟩⟩

/-- Some attempts that ended in a conflict, and a last one that gives the result. -/
inductive Repeated (R : Except Failure α → List Call → Prop) :
    Except Failure α → List Call → Prop
  | last {result : Except Failure α} {calls : List Call} (hlast : R result calls) :
    Repeated R result calls
  | again {failure : Failure} {result : Except Failure α} {first rest : List Call}
    (hfirst : R (.error failure) first) (hconflict : failure.isConflict = true)
    (hrest : Repeated R result rest) : Repeated R result (first ++ rest)

theorem Logs.retryMore (hm : Logs m m' R) (more : Nat) :
    Logs (m.retryMore more) (m'.retryMore more) (Repeated R) := by
  induction more with
  | zero => exact hm.mono fun _ _ => .last
  | succ more ih =>
      intro s before
      obtain ⟨first, hrun, hfirst⟩ := hm s before
      rw [run_retryMore_succ, run_retryMore_succ]
      rcases hplain : Action.run m' s with ⟨result, t⟩
      rw [hplain] at hrun hfirst
      rw [hrun]
      cases result with
      | ok a => exact ⟨first, rfl, .last hfirst⟩
      | error failure =>
          by_cases hconflict : failure.isConflict = true
          · simp only [if_pos hconflict]
            obtain ⟨rest, hrest, hcalls⟩ := ih t (before ++ first)
            rw [List.append_assoc] at hrest
            exact ⟨first ++ rest, hrest, .again hfirst hconflict hcalls⟩
          · simp only [if_neg hconflict]
            exact ⟨first, rfl, .last hfirst⟩

theorem Logs.retryOnConflict (hm : Logs m m' R) (maxAttempts : Nat) :
    Logs (m.retryOnConflict maxAttempts) (m'.retryOnConflict maxAttempts) (Repeated R) :=
  hm.retryMore _

/-- A relation that holds of a fold over nothing, and of a fold over a list when it
holds of the fold over the tail, holds of every fold. -/
theorem Logs.foldlM {step : β → α → Action (σ × List Call) β} {step' : β → α → Action σ β}
    {F : β → List α → Except Failure β → List Call → Prop} (hnil : ∀ b, F b [] (.ok b) [])
    (hcons : ∀ b x xs, Logs (step b x) (step' b x) fun result first =>
      match result with
      | .error failure => F b (x :: xs) (.error failure) first
      | .ok b' => ∀ result rest, F b' xs result rest → F b (x :: xs) result (first ++ rest))
    (xs : List α) (b : β) : Logs (xs.foldlM step b) (xs.foldlM step' b) (F b xs) := by
  induction xs generalizing b with
  | nil => exact logs_pure (hnil b)
  | cons x xs ih =>
      rw [List.foldlM_cons, List.foldlM_cons]
      refine (hcons b x xs).bind (fun _ _ hfirst => hfirst) fun b' first hfirst => ?_
      exact (ih b').mono fun result rest hrest => hfirst result rest hrest

end Action

end AgentOperator
