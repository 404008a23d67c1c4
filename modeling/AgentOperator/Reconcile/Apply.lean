import AgentOperator.Reconcile.Merge
import AgentOperator.Retry

/-!
# Applying desired objects

Each desired object is brought to its target state in turn: made if it is
missing, deleted if a field that cannot change differs, left alone if it already
holds what is desired, and replaced otherwise. A failure of one object is
recorded and the others go on.
-/

namespace AgentOperator

inductive Change
  | created
  | updated
  | unchanged
  /-- The live object was deleted, to be made again by the next pass. -/
  | immutableConflict
  | failed
deriving DecidableEq, Repr, Inhabited

namespace Change

/-- Every change, in the order in which they are counted. -/
def all : List Change := [created, updated, unchanged, immutableConflict, failed]

def name : Change → String
  | created => "Created"
  | updated => "Updated"
  | unchanged => "Unchanged"
  | immutableConflict => "ImmutableConflict"
  | failed => "Failed"

def isReconciled : Change → Bool
  | created | updated | unchanged => true
  | immutableConflict | failed => false

def isWrite : Change → Bool
  | created | updated | immutableConflict => true
  | unchanged | failed => false

end Change

/-- What became of a desired object, and the identity that it has. -/
structure Outcome where
  key : String
  change : Change
  uid : Option String
deriving DecidableEq, Inhabited

/-- What became of all desired objects, in order, and the failures among them. -/
structure ApplyReport where
  outcomes : List Outcome := []
  failures : List Failure := []
deriving Inhabited

namespace ApplyReport

def reconciled (r : ApplyReport) : List String :=
  (r.outcomes.filter fun o => o.change.isReconciled).filterMap Outcome.uid

def count (r : ApplyReport) (change : Change) : Nat :=
  r.outcomes.countP fun o => o.change == change

def writes (r : ApplyReport) : Nat := r.outcomes.countP fun o => o.change.isWrite

def isSuccess (r : ApplyReport) : Bool := r.failures.isEmpty

end ApplyReport

section

variable {σ : Type} (cluster : Cluster σ)

def applyOver (desired : Desired) (live : Object) : Action σ (Change × Option String) := do
  match mergeImmutable desired.kind live desired.object with
  | (some _, _) =>
    cluster.delete desired.kind desired.namespaceName desired.object.name
    return (.immutableConflict, none)
  | (none, target) =>
    if isUnchanged live target then return (.unchanged, live.metadata.uid)
    else
      let written ← cluster.replace desired.kind (updatedObject live target)
      return (.updated, written.metadata.uid)

/-- One attempt at bringing a desired object to its target state, from a fresh
read. -/
def applyOne (desired : Desired) : Action σ (Change × Option String) := do
  match ← cluster.get desired.kind desired.namespaceName desired.object.name with
  | none =>
    let made ← cluster.create desired.kind desired.object
    return (.created, made.metadata.uid)
  | some live => applyOver cluster desired live

/-- The desired object with its owner, if it lives in a namespace. -/
def Desired.ownedBy (desired : Desired) (owner : OwnerReference) : Desired :=
  if desired.kind.isNamespaced then
    { desired with
      object.metadata.ownerReferences := some [owner] }
  else desired

/-- Bring one object to its target state, trying again after conflicts, and
record what became of it. -/
def applyRecorded (maxAttempts : Nat) (desired : Desired) (report : ApplyReport) :
    Action σ ApplyReport := do
  match ← ((applyOne cluster desired).retryOnConflict maxAttempts).attempt with
  | .ok (change, uid) =>
    return { report with outcomes := report.outcomes ++ [⟨desired.key, change, uid⟩] }
  | .error failure =>
    return {
      outcomes := report.outcomes ++ [⟨desired.key, .failed, none⟩]
      failures := report.failures ++ [failure.forObject desired.key] }

/-- Bring every desired object to its target state, in order. -/
def applyAll (owner : OwnerReference) (maxAttempts : Nat) (desired : List Desired) :
    Action σ ApplyReport :=
  desired.foldlM
    (fun report d => applyRecorded cluster maxAttempts (d.ownedBy owner) report) {}

end

end AgentOperator
