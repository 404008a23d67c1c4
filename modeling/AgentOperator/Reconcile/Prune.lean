import AgentOperator.Cluster
import AgentOperator.Manifest.Labels

/-!
# Removing what is no longer wanted

Everything that carries the labels of an agent is listed by identity, and what a
pass did not reconcile is deleted. If a kind cannot be listed nothing is deleted,
since what was not seen cannot be told from what is not wanted.
-/

namespace AgentOperator

/-- An object that belongs to an agent, with its kind. -/
structure Owned where
  kind : Kind
  object : Object
deriving Inhabited

/-- The key under which the object is reported: kind, namespace and name. -/
def Owned.key (o : Owned) : String :=
  o.kind.name ++ "/" ++ o.object.metadata.namespaceName.getD "-" ++ "/" ++
    o.object.metadata.anyName

/-- The objects that belong to an agent, by identity. -/
abbrev OwnedIndex := Dict Owned

namespace OwnedIndex

/-- Add an object; one without an identity is passed over. -/
def add (index : OwnedIndex) (kind : Kind) (object : Object) : OwnedIndex :=
  match object.metadata.uid with
  | some uid => index.insert uid ⟨kind, object⟩
  | none => index

/-- The objects that were not reconciled, in the order of their identities. -/
def orphans (index : OwnedIndex) (reconciled : List String) : List Owned :=
  (index.entries.filter fun entry => !reconciled.contains entry.1).map Prod.snd

end OwnedIndex

/-- Whether an object is the service account that an agent names as its own. -/
def isNamedAccount (agent : Agent) (kind : Kind) (object : Object) : Bool :=
  kind == .serviceAccount && agent.spec.serviceAccount.isSome &&
    agent.spec.serviceAccount == object.metadata.name

section

variable {σ : Type} (cluster : Cluster σ)

def indexKind (agent : Agent) (index : OwnedIndex) (kind : Kind) : Action σ OwnedIndex := do
  let objects ← cluster.list kind agent.home agent.ownershipSelector
  return (objects.filter fun object => !isNamedAccount agent kind object).foldl
    (fun index object => index.add kind object) index

/-- List everything that belongs to an agent, except the service account that its
spec names. -/
def listOwned (agent : Agent) : Action σ OwnedIndex :=
  Kind.namespaced.foldlM (indexKind cluster agent) ∅

/-- Delete one orphan and count it, or record the failure. -/
def pruneOne (done : Nat × List Failure) (orphan : Owned) : Action σ (Nat × List Failure) := do
  let metadata := orphan.object.metadata
  match ← (cluster.delete orphan.kind metadata.namespaceName metadata.anyName).attempt with
  | .ok () => return (done.1 + 1, done.2)
  | .error failure => return (done.1, done.2 ++ [failure.forObject orphan.key])

/-- Delete every object that was not reconciled and count them. A failure does
not stop the others; all are gathered. -/
def pruneOrphans (index : OwnedIndex) (reconciled : List String) : Action σ Nat := do
  let (deleted, failures) ← (index.orphans reconciled).foldlM (pruneOne cluster) (0, [])
  ExceptT.mk (pure (Failure.gather failures))
  return deleted

def collectGarbage (agent : Agent) (reconciled : List String) : Action σ Nat := do
  let index ← listOwned cluster agent
  pruneOrphans cluster index reconciled

end

end AgentOperator
