import AgentOperator.Proofs.Manifest.Desired
import AgentOperator.Proofs.Reconcile.Pass

/-!
# What a pass keeps

A pass is made of calls.  What the calls of a cluster keep, and what bringing one
desired object to its target state keeps, the whole pass keeps, however it ends.
-/

namespace AgentOperator

open AgentOperator.Action (Keeps)

variable {σ : Type} {cluster : Cluster σ} {P : σ → Prop} {settings : PassSettings}
  {agent : Agent}

/-- The calls that a pass makes beside those for its desired objects keep a predicate. -/
structure CallsKeep (P : σ → Prop) (cluster : Cluster σ) : Prop where
  get : ∀ kind space name, Keeps P (cluster.get kind space name)
  list : ∀ kind space selector, Keeps P (cluster.list kind space selector)
  delete : ∀ kind space name, Keeps P (cluster.delete kind space name)
  patchStatus : ∀ agent status, Keeps P (cluster.patchStatus agent status)
  publish : ∀ agent event, Keeps P (cluster.publish agent event)

theorem applyRecorded_keeps {d : Desired} (hone : Keeps P (applyOne cluster d))
    (maxAttempts : Nat) (applied : ApplyReport) :
    Keeps P (applyRecorded cluster maxAttempts d applied) := by
  refine (hone.retryOnConflict maxAttempts).attempt.bind fun result => ?_
  cases result with
  | ok done => exact Action.keeps_pure _
  | error failure => exact Action.keeps_pure _

theorem applyAll_keeps
    (hone : ∀ d ∈ (settings.context agent).owned, Keeps P (applyOne cluster d)) :
    Keeps P (applyAll cluster agent.ownerReference settings.maxAttempts
      (settings.context agent).desired) := by
  rw [applyAll_eq]
  exact Keeps.foldlM (fun applied d hd => applyRecorded_keeps (hone d hd) _ applied) _

namespace CallsKeep

theorem pruneOne (hcalls : CallsKeep P cluster) (done : Nat × List Failure) (o : Owned) :
    Keeps P (pruneOne cluster done o) := by
  refine (hcalls.delete _ _ _).attempt.bind fun result => ?_
  cases result with
  | ok _ => exact Action.keeps_pure _
  | error failure => exact Action.keeps_pure _

theorem collectGarbage (hcalls : CallsKeep P cluster) (agent : Agent)
    (reconciled : List String) : Keeps P (collectGarbage cluster agent reconciled) := by
  have hlist : Keeps P (listOwned cluster agent) :=
    Keeps.foldlM (fun index kind _ => (hcalls.list _ _ _).bind fun _ => Action.keeps_pure _) _
  refine hlist.bind fun index => ?_
  refine Keeps.bind (Keeps.foldlM (fun done o _ => hcalls.pruneOne done o) _) fun done => ?_
  exact (Action.keeps_mk_pure _).bind fun _ => Action.keeps_pure _

theorem announce (hcalls : CallsKeep P cluster) (agent : Agent) (event : Event) :
    Keeps P (announce cluster agent event) :=
  (hcalls.publish _ _).attempt.bind fun _ => Action.keeps_pure _

theorem failWith {α : Type} (hcalls : CallsKeep P cluster) (agent : Agent)
    (reason message : String) (failure : Failure) :
    Keeps P (failWith cluster agent reason message failure : Action σ α) :=
  (hcalls.announce agent _).bind fun _ => Action.keeps_throw failure

theorem prunePhase (hcalls : CallsKeep P cluster) (agent : Agent) (applied : ApplyReport) :
    Keeps P (prunePhase cluster agent applied) := by
  refine (hcalls.collectGarbage agent _).attempt.bind fun result => ?_
  cases result with
  | ok pruned => exact Action.keeps_pure _
  | error failure => exact hcalls.failWith _ _ _ failure

theorem computeStatus (hcalls : CallsKeep P cluster) (c : Context) :
    Keeps P (computeStatus cluster c) := by
  unfold AgentOperator.computeStatus
  split
  · exact Action.keeps_pure _
  · exact (hcalls.get _ _ _).bind fun _ => Action.keeps_pure _

theorem reportStatus (hcalls : CallsKeep P cluster) (agent : Agent) (status : Status) :
    Keeps P (reportStatus cluster agent status) := by
  unfold AgentOperator.reportStatus
  split
  · exact Action.keeps_pure _
  · exact (hcalls.patchStatus _ _).bind fun _ => Action.keeps_pure _

theorem reconcile (hcalls : CallsKeep P cluster)
    (hone : ∀ d ∈ (settings.context agent).owned, Keeps P (applyOne cluster d)) :
    Keeps P (reconcile cluster settings agent) := by
  unfold AgentOperator.reconcile
  cases agent.spec.isValid with
  | false => exact hcalls.failWith _ _ _ _
  | true =>
      refine Keeps.bind ?_ fun applied => (hcalls.prunePhase agent applied).bind fun pruned => ?_
      · refine (applyAll_keeps hone).bind fun applied => ?_
        cases Failure.gather applied.failures with
        | ok _ => exact Action.keeps_pure _
        | error failure => exact hcalls.failWith _ _ _ failure
      · refine (hcalls.computeStatus _).bind fun status =>
          (hcalls.reportStatus agent status).bind fun patched => ?_
        dsimp only
        split
        · exact (hcalls.announce agent _).bind fun _ => Action.keeps_pure _
        · exact Action.keeps_pure _

end CallsKeep

end AgentOperator
