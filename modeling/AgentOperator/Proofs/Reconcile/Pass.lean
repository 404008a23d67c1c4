import AgentOperator.Proofs.Reconcile.Apply
import AgentOperator.Proofs.Reconcile.Garbage
import AgentOperator.Reconcile.Pass

/-!
# What a pass does to a store

A pass that succeeds is a run of its phases: the spec is valid, no object failed
to be applied, garbage was collected, and what is reported is read off the store
that is left.  Each phase has a lemma for when it succeeds, and together they say
what the run of a whole pass is.
-/

namespace AgentOperator

open Store (Sound SameFaults)

variable {settings : PassSettings} {agent : Agent} {s t u v : Store} {d : Desired}
  {ds : List Desired} {outcomes : List Outcome} {key : StoreKey} {object : Object}
  {report : PassReport} {status : Status}

/-! ## Phases -/

/-- What the objects of an agent are built from in a pass. -/
def PassSettings.context (settings : PassSettings) (agent : Agent) : Context :=
  .ofAgent agent settings.config settings.families

/-- The status that is read off a store. -/
def statusOn (c : Context) (s : Store) : Status :=
  match c.mode.workloadKind? with
  | none => Status.withoutWorkload c
  | some kind => Status.ofWorkload c kind (s.get? (.of kind c.namespaceName c.name))

theorem run_computeStatus (c : Context) (s : Store) :
    Action.run (computeStatus Store.cluster c) s = (.ok (statusOn c s), s) := by
  unfold computeStatus statusOn
  cases c.mode.workloadKind? with
  | none => rfl
  | some kind => rfl

theorem statusOn_congr (c : Context) (hget : ∀ key, t.get? key = s.get? key) :
    statusOn c t = statusOn c s := by
  unfold statusOn
  cases c.mode.workloadKind? with
  | none => rfl
  | some kind => simp only [hget]

/-- The store after the status of an agent was reported. -/
def withStatus (agent : Agent) (status : Status) (s : Store) : Store :=
  if agent.status = some status then s
  else { s with writes := s.writes + 1, statuses := s.statuses ++ [status] }

/-- The store after what a pass did was announced. -/
def withReport (report : PassReport) (s : Store) : Store :=
  if report.changedAnything then
    { s with events := s.events ++ [⟨.normal, "Reconciled", report.text⟩] }
  else s

theorem run_reportStatus (agent : Agent) (status : Status) (s : Store) :
    Action.run (reportStatus Store.cluster agent status) s =
      (.ok (decide (agent.status ≠ some status)), withStatus agent status s) := by
  unfold reportStatus withStatus
  by_cases hsame : agent.status = some status
  · simp [hsame]
  · simp [hsame]
    rfl

/-- A pass that succeeded, with what its phases did. -/
structure Passed (settings : PassSettings) (agent : Agent) (s : Store) (report : PassReport)
    (s' : Store) (applied : ApplyReport) (s₁ : Store) (pruned : Nat) (s₂ : Store) :
    Prop where
  valid : agent.spec.isValid = true
  apply : Action.run (applyAll Store.cluster agent.ownerReference settings.maxAttempts
    (settings.context agent).desired) s = (.ok applied, s₁)
  failures : applied.failures = []
  collect : Action.run (collectGarbage Store.cluster agent applied.reconciled) s₁ =
    (.ok pruned, s₂)
  report_eq : report = .ofApply applied pruned
    (decide (agent.status ≠ some (statusOn (settings.context agent) s₂)))
  store_eq : s' =
    withReport report (withStatus agent (statusOn (settings.context agent) s₂) s₂)

theorem run_failWith {α : Type} (agent : Agent) (reason message : String)
    (failure : Failure) (s : Store) :
    ∃ t, Action.run (failWith Store.cluster agent reason message failure : Action Store α) s =
      (.error failure, t) := ⟨_, rfl⟩

theorem run_applyPhase_of_ok {c : Context} {maxAttempts : Nat} {applied : ApplyReport}
    (hrun : Action.run (applyAll Store.cluster c.agent.ownerReference maxAttempts c.desired)
      s = (.ok applied, t)) (hnone : applied.failures = []) :
    Action.run (applyPhase Store.cluster c maxAttempts) s = (.ok applied, t) := by
  unfold applyPhase
  rw [Action.run_bind_of_ok hrun, hnone]
  rfl

theorem run_applyPhase_of_error {σ : Type} {cluster : Cluster σ} {c : Context}
    {maxAttempts : Nat} {applied : ApplyReport} {failure : Failure} {s t : σ}
    (hrun : Action.run (applyAll cluster c.agent.ownerReference maxAttempts c.desired) s =
      (.ok applied, t)) (hgather : Failure.gather applied.failures = .error failure) :
    Action.run (applyPhase cluster c maxAttempts) s =
      Action.run (failWith cluster c.agent "ReconcileFailed" failure.message failure) t := by
  unfold applyPhase
  rw [Action.run_bind_of_ok hrun]
  simp only [hgather]

theorem applyPhase_ok {c : Context} {maxAttempts : Nat} {applied : ApplyReport}
    (hrun : Action.run (applyPhase Store.cluster c maxAttempts) s = (.ok applied, t)) :
    Action.run (applyAll Store.cluster c.agent.ownerReference maxAttempts c.desired) s =
      (.ok applied, t) ∧ applied.failures = [] := by
  unfold applyPhase at hrun
  obtain ⟨result, u, happly, hrest⟩ := Action.ok_of_run_bind hrun
  cases hgather : Failure.gather result.failures with
  | ok _ =>
      simp only [hgather, Action.run_pure] at hrest
      obtain ⟨hresult, rfl⟩ := Prod.mk.inj hrest
      obtain rfl := Except.ok.inj hresult
      exact ⟨happly, Failure.gather_eq_ok_iff.mp hgather⟩
  | error failure =>
      obtain ⟨w, hfail⟩ := run_failWith c.agent "ReconcileFailed" failure.message failure u
        (α := ApplyReport)
      simp only [hgather] at hrest
      rw [hfail] at hrest
      simp at hrest

theorem run_prunePhase_of_ok {applied : ApplyReport} {pruned : Nat}
    (hrun : Action.run (collectGarbage Store.cluster agent applied.reconciled) s =
      (.ok pruned, t)) :
    Action.run (prunePhase Store.cluster agent applied) s = (.ok pruned, t) := by
  unfold prunePhase
  rw [Action.run_bind, Action.run_attempt, hrun]
  rfl

theorem prunePhase_ok {applied : ApplyReport} {pruned : Nat}
    (hrun : Action.run (prunePhase Store.cluster agent applied) s = (.ok pruned, t)) :
    Action.run (collectGarbage Store.cluster agent applied.reconciled) s =
      (.ok pruned, t) := by
  unfold prunePhase at hrun
  rw [Action.run_bind, Action.run_attempt] at hrun
  rcases hcollect : Action.run (collectGarbage Store.cluster agent applied.reconciled) s with
    ⟨result, u⟩
  rw [hcollect] at hrun
  cases result with
  | ok n => exact hrun
  | error failure =>
      obtain ⟨w, hfail⟩ := run_failWith agent "GarbageCollectionFailed" failure.message
        failure u (α := Nat)
      simp only [hfail] at hrun
      simp at hrun

/-- The reports at the end of a pass. -/
def reportPhase (c : Context) (agent : Agent) (applied : ApplyReport) (pruned : Nat) :
    Action Store PassReport := do
  let status ← computeStatus Store.cluster c
  let statusPatched ← reportStatus Store.cluster agent status
  let report := PassReport.ofApply applied pruned statusPatched
  if report.changedAnything then
    announce Store.cluster agent ⟨.normal, "Reconciled", report.text⟩
  return report

theorem run_reportPhase (c : Context) (agent : Agent) (applied : ApplyReport)
    (pruned : Nat) (s : Store) :
    Action.run (reportPhase c agent applied pruned) s =
      (.ok (.ofApply applied pruned (decide (agent.status ≠ some (statusOn c s)))),
        withReport
          (.ofApply applied pruned (decide (agent.status ≠ some (statusOn c s))))
          (withStatus agent (statusOn c s) s)) := by
  unfold reportPhase
  rw [Action.run_bind_of_ok (run_computeStatus c s),
    Action.run_bind_of_ok (run_reportStatus agent (statusOn c s) s)]
  generalize PassReport.ofApply applied pruned
    (decide (agent.status ≠ some (statusOn c s))) = report
  unfold withReport
  by_cases hchanged : report.changedAnything = true
  · simp only [hchanged, if_true]
    rfl
  · simp only [hchanged]
    rfl

theorem reconcile_eq (settings : PassSettings) (agent : Agent)
    (hvalid : agent.spec.isValid = true) :
    reconcile Store.cluster settings agent = (do
      let applied ← applyPhase Store.cluster (settings.context agent) settings.maxAttempts
      let pruned ← prunePhase Store.cluster agent applied
      reportPhase (settings.context agent) agent applied pruned) := by
  unfold reconcile
  rw [hvalid]
  rfl

theorem reconcile_of_invalid (settings : PassSettings) (agent : Agent)
    (hvalid : agent.spec.isValid = false) :
    ∃ message, reconcile Store.cluster settings agent =
      failWith Store.cluster agent "InvalidSpec" message (.validation message) := by
  refine ⟨String.intercalate "; " (agent.spec.objections.map Objection.text), ?_⟩
  unfold reconcile
  rw [hvalid]
  rfl

/-- A pass succeeds just when its phases do. -/
theorem run_reconcile_iff :
    Action.run (reconcile Store.cluster settings agent) s = (.ok report, t) ↔
      ∃ applied s₁ pruned s₂, Passed settings agent s report t applied s₁ pruned s₂ := by
  constructor
  · intro hrun
    have hvalid : agent.spec.isValid = true := by
      cases hvalid : agent.spec.isValid with
      | true => rfl
      | false =>
          obtain ⟨message, hreconcile⟩ := reconcile_of_invalid settings agent hvalid
          obtain ⟨w, hfail⟩ := run_failWith agent "InvalidSpec" message
            (.validation message) s (α := PassReport)
          rw [hreconcile, hfail] at hrun
          simp at hrun
    rw [reconcile_eq settings agent hvalid] at hrun
    obtain ⟨applied, s₁, happly, hrest⟩ := Action.ok_of_run_bind hrun
    obtain ⟨pruned, s₂, hprune, hreport⟩ := Action.ok_of_run_bind hrest
    obtain ⟨happly, hfailures⟩ := applyPhase_ok happly
    rw [run_reportPhase] at hreport
    obtain ⟨hreport, hstore⟩ := Prod.mk.inj hreport
    have hreport := Except.ok.inj hreport
    refine ⟨applied, s₁, pruned, s₂, hvalid, happly, hfailures, prunePhase_ok hprune,
      hreport.symm, ?_⟩
    rw [← hstore, ← hreport]
  · rintro ⟨applied, s₁, pruned, s₂, hpassed⟩
    have happly := run_applyPhase_of_ok (c := settings.context agent) hpassed.apply
      hpassed.failures
    rw [reconcile_eq settings agent hpassed.valid, Action.run_bind_of_ok happly,
      Action.run_bind_of_ok (run_prunePhase_of_ok hpassed.collect), run_reportPhase,
      hpassed.store_eq, hpassed.report_eq]

end AgentOperator
