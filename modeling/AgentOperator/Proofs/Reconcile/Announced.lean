import AgentOperator.Proofs.Failure
import AgentOperator.Proofs.Reconcile.Endings
import AgentOperator.Proofs.Reconcile.FailClosed

/-!
# What is said of the objects that failed

A pass over any cluster brings the objects of an agent to their target state one after the
other, and if some of them fail it says so in one event.  The failures are gathered with
the keys of the objects, so the event names each object that failed and says why.
-/

namespace AgentOperator

open Text (Contains)

variable {σ : Type} {cluster : Cluster σ} {settings : PassSettings} {agent : Agent}
  {maxAttempts : Nat} {ds : List Desired} {d : Desired} {failure gathered : Failure}
  {s : σ}

/-! ## Objects in turn -/

/-- How each object ends when they are brought to their target state one after the other,
and the state that they leave. -/
def endingsOf (cluster : Cluster σ) (maxAttempts : Nat) :
    List Desired → σ → List (Desired × Ending) × σ
  | [], s => ([], s)
  | d :: ds, s =>
    let (ending, t) := Action.run ((applyOne cluster d).retryOnConflict maxAttempts) s
    let (endings, u) := endingsOf cluster maxAttempts ds t
    ((d, ending) :: endings, u)

theorem run_applyRecorded_endingsOf (cluster : Cluster σ) (maxAttempts : Nat)
    (ds : List Desired) (report : ApplyReport) (s : σ) :
    Action.run (ds.foldlM (fun report d => applyRecorded cluster maxAttempts d report)
      report) s =
        (.ok ⟨report.outcomes ++ (reportOf (endingsOf cluster maxAttempts ds s).1).outcomes,
            report.failures ++ (reportOf (endingsOf cluster maxAttempts ds s).1).failures⟩,
          (endingsOf cluster maxAttempts ds s).2) := by
  induction ds generalizing s report with
  | nil => simp [endingsOf, reportOf]
  | cons d ds ih =>
      rcases hrun : Action.run ((applyOne cluster d).retryOnConflict maxAttempts) s with
        ⟨ending, t⟩
      rw [List.foldlM_cons,
        Action.run_bind_of_ok (run_applyRecorded_ending cluster maxAttempts d report hrun), ih]
      simp only [endingsOf, hrun, reportOf_cons, List.append_assoc]

/-- An attempt that succeeds makes some change. -/
theorem Attempt.ne_failed {change : Change} {uid : Option String} {calls : List Call}
    (hattempt : Attempt d (.ok (change, uid)) calls) : change ≠ .failed := by
  generalize hresult : Except.ok (change, uid) = result at hattempt
  cases hattempt with
  | unread => simp at hresult
  | unchanged => simp_all
  | created answer | deleted answer | updated answer =>
      cases answer <;> simp_all [Except.map]

theorem ne_failed_of_retryOnConflict {change : Change} {uid : Option String} {s t : σ}
    (hrun : Action.run ((applyOne cluster d).retryOnConflict maxAttempts) s =
      (.ok (change, uid), t)) : change ≠ .failed := by
  obtain ⟨calls, -, hcalls⟩ := (applyOne_logs cluster d).retryOnConflict maxAttempts s []
  rw [hrun] at hcalls
  dsimp only at hcalls
  -- The result is that of the last attempt, and only the last one is looked at.
  generalize hresult : Except.ok (change, uid) = result at hcalls
  induction hcalls with
  | last hlast => exact (hresult ▸ hlast).ne_failed
  | again _ _ _ ih => exact ih hresult

/-- An object is recorded as failed only if it ended in a failure. -/
theorem exists_failure_of_mem_endingsOf {ending : Ending}
    (hmem : (d, ending) ∈ (endingsOf cluster maxAttempts ds s).1)
    (hfailed : (d.outcomeOf ending).change = .failed) :
    ∃ failure, ending = .error failure := by
  induction ds generalizing s with
  | nil => simp [endingsOf] at hmem
  | cons first ds ih =>
      rcases hrun : Action.run ((applyOne cluster first).retryOnConflict maxAttempts) s with
        ⟨result, t⟩
      simp only [endingsOf, hrun, List.mem_cons, Prod.mk.injEq] at hmem
      rcases hmem with ⟨rfl, rfl⟩ | hrest
      · cases ending with
        | ok done => exact absurd hfailed (ne_failed_of_retryOnConflict hrun)
        | error failure => exact ⟨failure, rfl⟩
      · exact ih hrest

/-- Applying objects reports how each of them ends with its owner. -/
theorem run_applyAll_endingsOf (cluster : Cluster σ) (owner : OwnerReference)
    (maxAttempts : Nat) (ds : List Desired) (s : σ) :
    Action.run (applyAll cluster owner maxAttempts ds) s =
      (.ok (reportOf (endingsOf cluster maxAttempts (ds.map fun d => d.ownedBy owner) s).1),
        (endingsOf cluster maxAttempts (ds.map fun d => d.ownedBy owner) s).2) := by
  rw [applyAll_eq, run_applyRecorded_endingsOf]
  rfl

theorem mem_failures_reportOf {endings : List (Desired × Ending)}
    (hmem : (d, .error failure) ∈ endings) :
    failure.forObject d.key ∈ (reportOf endings).failures :=
  List.mem_filterMap.mpr ⟨(d, .error failure), hmem, rfl⟩

/-- What is gathered from the failures of several objects names each of the objects, with
its failure. -/
theorem contains_of_gather_reportOf {endings : List (Desired × Ending)}
    (hgather : Failure.gather (reportOf endings).failures = .error gathered)
    (hmem : (d, .error failure) ∈ endings) :
    Contains gathered.message (d.key ++ ": " ++ failure.message) := by
  have htext := Failure.contains_message_of_gather hgather (mem_failures_reportOf hmem)
  rwa [Failure.forObject, Failure.message_object] at htext

/-! ## Passes -/

/-- How the objects of an agent end in a pass. -/
def PassSettings.endings (settings : PassSettings) (agent : Agent) (cluster : Cluster σ)
    (s : σ) : List (Desired × Ending) :=
  (endingsOf cluster settings.maxAttempts (settings.context agent).owned s).1

/-- A pass in which objects failed ends with the event for them, and says nothing before. -/
theorem run_reconcile_of_gather (hvalid : agent.spec.isValid = true)
    (hgather : Failure.gather (reportOf (settings.endings agent cluster s)).failures =
      .error gathered) :
    ∃ t applying answer,
      Action.run (reconcile cluster.recorded settings agent) (s, []) =
        (.error gathered, t, applying ++
          [.publish agent ⟨.warning, "ReconcileFailed", gathered.message⟩ answer]) ∧
      ∀ call ∈ applying, call.isReport = false := by
  obtain ⟨applying, hrun, applied, hresult, happlied⟩ :=
    applyAll_logs cluster agent.ownerReference settings.maxAttempts
      (settings.context agent).desired s []
  rw [run_applyAll_endingsOf cluster] at hrun hresult
  obtain rfl := Except.ok.inj hresult
  obtain ⟨_, hfail, hgathered, answer, rfl⟩ :=
    failWith_logs (α := ApplyReport) cluster agent "ReconcileFailed" gathered.message gathered
      (endingsOf cluster settings.maxAttempts (settings.context agent).owned s).2 applying
  rw [hgathered] at hfail
  generalize (Action.run (failWith cluster agent _ _ _ : Action σ ApplyReport) _).2 = t at hfail
  have hphase := run_applyPhase_of_error (c := settings.context agent) hrun hgather
  refine ⟨t, applying, answer, ?_, happlied.isReport⟩
  unfold reconcile
  rw [hvalid]
  exact Action.run_bind_of_error (hphase.trans hfail)

/-- Of the events of a pass with an invalid spec none is about objects. -/
theorem reason_ne_of_invalid {result : Except Failure PassReport} {calls : List Call}
    (hinvalid : agent.spec.isValid = false) (hpass : PassCalls settings agent result calls)
    {other : Agent} {event : Event} {answer : Except Failure Unit}
    (hmem : .publish other event answer ∈ calls) : event.reason ≠ "ReconcileFailed" := by
  cases hpass with
  | invalid =>
      simp only [List.mem_singleton, Call.publish.injEq] at hmem
      obtain ⟨-, rfl, -⟩ := hmem
      simp
  | _ => simp_all

/-- The event about failed objects among the calls of a pass names each of them, with what it
failed of; and there is such an event if the spec is valid and some object failed. -/
structure AnnouncesFailed (agent : Agent) (endings : List (Desired × Ending))
    (calls : List Call) : Prop where
  announced : agent.spec.isValid = true →
    (∃ ending ∈ endings, (ending.1.outcomeOf ending.2).change = .failed) →
      ∃ message answer, .publish agent ⟨.warning, "ReconcileFailed", message⟩ answer ∈ calls
  complete : ∀ other event answer, .publish other event answer ∈ calls →
    event.reason = "ReconcileFailed" →
      ∀ ending ∈ endings, (ending.1.outcomeOf ending.2).change = .failed →
        ∃ failure, ending.2 = .error failure ∧
          Contains event.message (ending.1.key ++ ": " ++ failure.message)

theorem reconcile_announces (cluster : Cluster σ) (settings : PassSettings) (agent : Agent)
    (s : σ) :
    ∃ result t calls,
      Action.run (reconcile cluster.recorded settings agent) (s, []) = (result, t, calls) ∧
      AnnouncesFailed agent (settings.endings agent cluster s) calls := by
  -- An invalid spec has an event of its own; otherwise what is gathered from the objects
  -- decides whether there is one about them.
  cases hvalid : agent.spec.isValid with
  | false =>
      obtain ⟨calls, hrun, hpass⟩ := reconcile_logs cluster settings agent s []
      refine ⟨_, _, calls, hrun, ⟨by simp [hvalid], ?_⟩⟩
      intro other event answer hmem hreason
      exact absurd hreason (reason_ne_of_invalid hvalid hpass hmem)
  | true =>
      cases hgather : Failure.gather (reportOf (settings.endings agent cluster s)).failures with
      | ok _ =>
          have hnone := Failure.gather_eq_ok_iff.mp hgather
          have hdone : ∀ ending ∈ settings.endings agent cluster s,
              (ending.1.outcomeOf ending.2).change ≠ .failed := by
            rintro ⟨d, ending⟩ hmem hfailed
            obtain ⟨failure, rfl⟩ := exists_failure_of_mem_endingsOf hmem hfailed
            have hfailure := mem_failures_reportOf hmem
            rw [hnone] at hfailure
            simp at hfailure
          obtain ⟨calls, hrun, -⟩ := reconcile_logs cluster settings agent s []
          refine ⟨_, _, calls, hrun, ⟨?_, ?_⟩⟩
          · rintro - ⟨ending, hmem, hfailed⟩
            exact absurd hfailed (hdone ending hmem)
          · intro other event answer _ _ ending hmem hfailed
            exact absurd hfailed (hdone ending hmem)
      | error gathered =>
          obtain ⟨t, applying, answer, hrun, hsilent⟩ := run_reconcile_of_gather hvalid hgather
          refine ⟨_, _, _, hrun, ⟨?_, ?_⟩⟩
          · intro _ _
            exact ⟨gathered.message, answer, List.mem_concat_self⟩
          · rintro other event given hmem - ⟨d, ending⟩ hending hfailed
            obtain ⟨failure, rfl⟩ := exists_failure_of_mem_endingsOf hending hfailed
            refine ⟨failure, rfl, ?_⟩
            rcases List.mem_append.mp hmem with hearlier | hlast
            · have hreport := hsilent _ hearlier
              simp [Call.isReport] at hreport
            · simp only [List.mem_singleton, Call.publish.injEq] at hlast
              obtain ⟨-, rfl, -⟩ := hlast
              exact contains_of_gather_reportOf hgather hending

/-- Nothing that went wrong is lost in a failure put together from others: its leaves
decide whether it is worth trying again, its message has those of its parts and the keys
of its objects, and so the event of a pass in which objects failed names each of them with
what it failed of. -/
theorem failures_are_reported (cluster : Cluster σ) (settings : PassSettings)
    (agent : Agent) (s : σ) (failure : Failure) (failures : List Failure) :
    (failure.isRetriable = true ↔
      ∃ leaf : Failure,
        leaf.Within failure ∧ leaf.isLeaf = true ∧ leaf.isRetriable = true) ∧
    (failure.isConflict = true → failure.isRetriable = true) ∧
    (∀ key, (failure.forObject key).isRetriable = failure.isRetriable ∧
      (failure.forObject key).isConflict = failure.isConflict ∧
      (failure.forObject key).isNotFound = failure.isNotFound) ∧
    (∀ part : Failure, part.Within failure → Contains failure.message part.message) ∧
    (∀ key source, (Failure.object key source).Within failure →
      Contains failure.message key) ∧
    (Failure.gather failures = .ok () ↔ failures = []) ∧
    (∀ gathered, Failure.gather failures = .error gathered →
      (gathered.isRetriable = true ↔ ∃ listed ∈ failures, listed.isRetriable = true)) ∧
    (∃ t, Action.run (applyAll cluster agent.ownerReference settings.maxAttempts
        (settings.context agent).desired) s =
      (.ok (reportOf (settings.endings agent cluster s)), t)) ∧
    ∃ result t calls,
      Action.run (reconcile cluster.recorded settings agent) (s, []) = (result, t, calls) ∧
      AnnouncesFailed agent (settings.endings agent cluster s) calls := by
  refine ⟨Failure.isRetriable_iff_exists_leaf, Failure.isRetriable_of_isConflict,
    fun key => ⟨rfl, rfl, rfl⟩, fun part => Failure.contains_message_of_within,
    fun key source => Failure.contains_key_of_within, Failure.gather_eq_ok_iff,
    fun gathered => Failure.isRetriable_of_gather, ?_, ?_⟩
  · exact ⟨_, run_applyAll_endingsOf cluster _ _ _ s⟩
  · exact reconcile_announces cluster settings agent s

end AgentOperator
