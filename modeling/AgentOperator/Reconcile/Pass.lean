import AgentOperator.Agent.Validation
import AgentOperator.Manifest.Basic
import AgentOperator.Reconcile.Apply
import AgentOperator.Reconcile.Prune
import AgentOperator.Reconcile.Report

/-!
# A pass over an agent

A pass checks the spec, applies the desired objects, removes what is no longer
wanted, and only then reports the status. A pass that fails before that leaves
the status as it was and publishes a warning.
-/

namespace AgentOperator

structure PassReport where
  created : Nat
  updated : Nat
  unchanged : Nat
  recreated : Nat
  pruned : Nat
  statusPatched : Bool
deriving DecidableEq, Repr, Inhabited

namespace PassReport

def changes (r : PassReport) : Nat := r.created + r.updated + r.recreated + r.pruned

def changedAnything (r : PassReport) : Bool := 0 < r.changes

def text (r : PassReport) : String :=
  "created " ++ toString r.created ++ ", updated " ++ toString r.updated ++
    ", recreated " ++ toString r.recreated ++ ", pruned " ++ toString r.pruned

def ofApply (applied : ApplyReport) (pruned : Nat) (statusPatched : Bool) : PassReport :=
  { created := applied.count .created
    updated := applied.count .updated
    unchanged := applied.count .unchanged
    recreated := applied.count .immutableConflict
    pruned
    statusPatched }

end PassReport

/-- How a pass is made: the configuration, the table of families, and the
attempts that each object is given. -/
structure PassSettings where
  config : OperatorConfig := {}
  families : List Family := Family.table
  maxAttempts : Nat := defaultAttempts
deriving Inhabited

section

variable {σ : Type} (cluster : Cluster σ)

/-- Publish an event; that it cannot be published does not matter. -/
def announce (agent : Agent) (event : Event) : Action σ Unit := do
  let _ ← (cluster.publish agent event).attempt

def failWith {α : Type} (agent : Agent) (reason message : String) (failure : Failure) :
    Action σ α := do
  announce cluster agent ⟨.warning, reason, message⟩
  throw failure

def prunePhase (agent : Agent) (applied : ApplyReport) : Action σ Nat := do
  match ← (collectGarbage cluster agent applied.reconciled).attempt with
  | .ok pruned => return pruned
  | .error failure =>
    failWith cluster agent "GarbageCollectionFailed" failure.message failure

/-- Apply the desired objects; failures among them are a failure of the pass. -/
def applyPhase (c : Context) (maxAttempts : Nat) : Action σ ApplyReport := do
  let applied ← applyAll cluster c.agent.ownerReference maxAttempts c.desired
  match Failure.gather applied.failures with
  | .ok () => return applied
  | .error failure => failWith cluster c.agent "ReconcileFailed" failure.message failure

def reconcile (settings : PassSettings) (agent : Agent) : Action σ PassReport := do
  if !agent.spec.isValid then
    let message := String.intercalate "; " (agent.spec.objections.map Objection.text)
    failWith cluster agent "InvalidSpec" message (.validation message)
  else
    let c := Context.ofAgent agent settings.config settings.families
    let applied ← applyPhase cluster c settings.maxAttempts
    let pruned ← prunePhase cluster agent applied
    let status ← computeStatus cluster c
    let statusPatched ← reportStatus cluster agent status
    let report := PassReport.ofApply applied pruned statusPatched
    if report.changedAnything then
      announce cluster agent ⟨.normal, "Reconciled", report.text⟩
    return report

end

end AgentOperator
