import AgentOperator.Proofs.Reconcile.FailClosed
import AgentOperator.Proofs.Reconcile.History
import AgentOperator.Store.Faults

/-!
# Failed passes and their warnings

A pass that fails should say so in a warning.  It does when the spec is invalid, when
an object could not be applied, and when garbage could not be collected.  A failure of
what comes after that, the read of the workload for the status and the write of the
status, is returned without a word.
-/

namespace AgentOperator

variable {σ : Type} {settings : PassSettings} {agent : Agent} {failure : Failure}
  {calls : List Call}

/-- The calls end with the failed read of the workload for the status, or with the
failed write of the status. -/
inductive EndsInReport (settings : PassSettings) (agent : Agent) (failure : Failure) :
    List Call → Prop
  | unread {applied : ApplyReport} {pruned : Nat} {kind : Kind} {before : List Call}
    (hbefore : CollectedCalls settings agent applied pruned before)
    (hkind : (settings.context agent).mode.workloadKind? = some kind) :
    EndsInReport settings agent failure
      (before ++ [.get kind agent.namespaceName agent.name (.error failure)])
  | unreported {applied : ApplyReport} {pruned : Nat} {status : Status} {before : List Call}
    (hbefore : ReadCalls settings agent applied pruned status before)
    (hdiffers : agent.status ≠ some status) :
    EndsInReport settings agent failure
      (before ++ [.patchStatus agent status (.error failure)])

theorem EndsInReport.isWarning (hends : EndsInReport settings agent failure calls) :
    ∀ call ∈ calls, call.isWarning = false := by
  have hsilent : ∀ {calls : List Call}, (∀ call ∈ calls, call.isReport = false) →
      ∀ call ∈ calls, call.isWarning = false := fun hcalls call hmem =>
    Call.isWarning_of_isReport (hcalls call hmem)
  cases hends with
  | unread hbefore =>
      exact List.forall_mem_append.mpr ⟨hsilent hbefore.isReport, by simp [Call.isWarning]⟩
  | unreported hbefore =>
      exact List.forall_mem_append.mpr ⟨hsilent hbefore.isReport, by simp [Call.isWarning]⟩

/-- A pass that fails warns, or it fails in what it does for the status. -/
theorem PassCalls.warned_or_endsInReport
    (hpass : PassCalls settings agent (.error failure) calls) :
    (∃ call ∈ calls, call.isWarning = true) ∨ EndsInReport settings agent failure calls := by
  cases hpass with
  | invalid => exact .inl ⟨_, List.mem_singleton_self _, rfl⟩
  | unapplied | unlisted | undeleted => exact .inl ⟨_, List.mem_concat_self, rfl⟩
  | unread _ hcollected hread =>
      generalize hresult : Except.error failure = result at hread
      cases hread with
      | unneeded => simp at hresult
      | read answer hkind =>
          cases answer with
          | ok live => simp [Except.map] at hresult
          | error other =>
              obtain rfl := Except.error.inj hresult
              exact .inr (.unread hcollected hkind)
  | unreported _ hread hpatched =>
      generalize hresult : Except.error failure = result at hpatched
      cases hpatched with
      | unneeded => simp at hresult
      | patched answer hdiffers =>
          cases answer with
          | ok _ => simp [Except.map] at hresult
          | error other =>
              obtain rfl := Except.error.inj hresult
              exact .inr (.unreported hread hdiffers)

/-- A pass over any cluster that fails submits a warning, unless it fails in reading the
workload for the status or in writing the status: then it submits none. -/
theorem reconcile_warns_iff (cluster : Cluster σ) (settings : PassSettings) (agent : Agent)
    (s : σ) (hfails : (Action.run (reconcile cluster settings agent) s).1 = .error failure) :
    ∃ calls,
      Action.run (reconcile cluster.recorded settings agent) (s, []) =
        (.error failure, (Action.run (reconcile cluster settings agent) s).2, calls) ∧
      ((∃ call ∈ calls, call.isWarning = true) ↔
        ¬ EndsInReport settings agent failure calls) := by
  obtain ⟨calls, hrun, hpass⟩ := reconcile_logs cluster settings agent s []
  rw [hfails] at hrun hpass
  refine ⟨calls, by simpa using hrun, ?_⟩
  constructor
  · rintro ⟨call, hmem, hwarning⟩ hends
    rw [hends.isWarning call hmem] at hwarning
    simp at hwarning
  · intro hnot
    exact hpass.warned_or_endsInReport.resolve_right hnot

/-! ## A workload that cannot be read a second time -/

/-- A store in which the deployment can be read once, to be applied, and not again. -/
def FaultyStore.unreadable : FaultyStore :=
  { reads := [⟨.deployment, "a", 1, 500⟩] }

/-- The pass of the agent with a deployment over that store, with its calls. -/
def unreadablePass : Except Failure PassReport × FaultyStore × List Call :=
  Action.run (reconcile FaultyStore.cluster.recorded {} (Agent.deployed false))
    (FaultyStore.unreadable, [])

set_option maxRecDepth 100000 in
theorem unreadablePass_results :
    (Action.run (reconcile FaultyStore.cluster {} (Agent.deployed false))
        FaultyStore.unreadable).1.toOption.isNone = true ∧
      unreadablePass.2.2.any Call.isWarning = false := by
  decide +kernel

theorem exists_unreadable_failure :
    ∃ failure, (Action.run (reconcile FaultyStore.cluster {} (Agent.deployed false))
      FaultyStore.unreadable).1 = .error failure := by
  have hnone := unreadablePass_results.1
  cases hresult : (Action.run (reconcile FaultyStore.cluster {} (Agent.deployed false))
      FaultyStore.unreadable).1 with
  | ok report => simp [hresult, Except.toOption] at hnone
  | error failure => exact ⟨failure, rfl⟩

theorem reconcile_warns_iff_unreadable :
    ∃ failure,
      (Action.run (reconcile FaultyStore.cluster {} (Agent.deployed false))
        FaultyStore.unreadable).1 = .error failure ∧
      EndsInReport {} (Agent.deployed false) failure unreadablePass.2.2 := by
  obtain ⟨failure, hfails⟩ := exists_unreadable_failure
  obtain ⟨calls, hrun, hiff⟩ :=
    reconcile_warns_iff FaultyStore.cluster {} (Agent.deployed false)
      FaultyStore.unreadable hfails
  have hcalls : unreadablePass.2.2 = calls := congrArg (fun run => run.2.2) hrun
  refine ⟨failure, hfails, ?_⟩
  rw [hcalls]
  refine Classical.byContradiction fun hnot => ?_
  obtain ⟨call, hmem, hwarning⟩ := hiff.mpr hnot
  have hnone := unreadablePass_results.2
  rw [hcalls, List.any_eq_false] at hnone
  exact hnone call hmem hwarning

/-- A pass whose read of the workload for the status fails returns the failure and warns
of nothing. -/
theorem unread_workload_is_silent :
    ∃ failure t calls,
      Action.run (reconcile FaultyStore.cluster.recorded {} (Agent.deployed false))
        (FaultyStore.unreadable, []) = (.error failure, t, calls) ∧
      ∀ call ∈ calls, call.isWarning = false := by
  obtain ⟨failure, hfails⟩ := exists_unreadable_failure
  obtain ⟨calls, hrun, -⟩ := reconcile_logs FaultyStore.cluster {} (Agent.deployed false)
    FaultyStore.unreadable []
  rw [hfails] at hrun
  have hcalls : unreadablePass.2.2 = calls := congrArg (fun run => run.2.2) hrun
  have hnone := unreadablePass_results.2
  rw [hcalls, List.any_eq_false] at hnone
  exact ⟨failure, _, calls, hrun, fun call hmem => by simpa using hnone call hmem⟩

end AgentOperator
