import AgentOperator.Json.Patch
import AgentOperator.Reconcile.Pass
import AgentOperator.Store.Faults

/-!
# Scenarios

An agent and a store, and the steps that may happen to them: passes and parts of
passes, changes that others make, and faults.
-/

namespace AgentOperator

/-- An agent and the store in which it is looked after. -/
structure Scenario where
  agent : Agent
  settings : PassSettings
  cluster : FaultyStore := {}
deriving Inhabited

/-- A change to the store that happens outside a pass. -/
inductive Setup
  | seed (kind : Kind) (object : Object)
  | omitEmpty
  | conflictOn (name : String) (times : Nat)
  | failOn (name : String)
  | failList (kind : Kind)
deriving Inhabited

inductive Step
  | pass
  | patchAgent (patch : Json)
  | observeStatus
  | setup (setup : Setup)
  | edit (key : StoreKey) (patch : Json)
  | failGet (fault : ReadFault)
  | clearGet
  | failStatus (code : Option Nat)
  | failEvent (code : Option Nat)
  | listOwned
  | collectGarbage (reconciled : List String)
  | prune (index : List (Kind × Object)) (reconciled : List String)
  | apply (objects : List Desired)
  | computeStatus
  | reportStatus (status : Status)
  | get (key : StoreKey)
  | dump
deriving Inhabited

/-- What a step gives. -/
inductive StepResult
  | nothing
  | flag (value : Bool)
  | uid (value : String)
  | status (value : Option Status)
  | object (value : Option Object)
  | objects (values : List (StoreKey × Object))
  | pass (result : Except Failure PassReport)
  | owned (result : Except Failure OwnedIndex)
  | count (result : Except Failure Nat)
  | pruned (index : OwnedIndex) (orphans : List Owned) (result : Except Failure Nat)
  | applied (result : Except Failure ApplyReport)
  | computed (result : Except Failure Status)
  | reported (result : Except Failure Bool)
  /-- A patched agent was no agent and was put aside. -/
  | rejected

namespace Setup

/-- Change a store; a seeded object answers its new identity. -/
def perform (store : Store) : Setup → Option String × Store
  | seed kind object =>
    let (uid, store) := store.seed kind object
    (some uid, store)
  | omitEmpty => (none, store.omitEmpty)
  | conflictOn name times => (none, store.conflictOn name times)
  | failOn name => (none, store.failOn name)
  | failList kind => (none, store.failList kind)

end Setup

namespace Scenario

def run {α : Type} (s : Scenario) (action : Action FaultyStore α) :
    Except Failure α × Scenario :=
  let (result, cluster) := action.run s.cluster
  (result, { s with cluster })

def withStore (s : Scenario) (store : Store) : Scenario :=
  { s with cluster.store := store }

def context (s : Scenario) : Context :=
  .ofAgent s.agent s.settings.config s.settings.families

/-- Patch a stored object; none when the result is no object. -/
def editObject? (s : Scenario) (key : StoreKey) (patch : Json) : Option (Bool × Scenario) :=
  match s.cluster.store.get? key with
  | none => some (false, s)
  | some object => do
    let changed ← Object.ofJson? (object.toJson.patched patch)
    return (true, s.withStore (s.cluster.store.put key changed))

/-- Perform a step; none when an edited object is no object any more. -/
def perform? (s : Scenario) : Step → Option (StepResult × Scenario)
  | .pass =>
    let (result, s) := s.run (reconcile FaultyStore.cluster s.settings s.agent)
    some (.pass result, s)
  | .patchAgent patch =>
    match Agent.ofJson? (s.agent.toJson.patched patch) with
    | some agent => some (.nothing, { s with agent })
    | none => some (.rejected, s)
  | .observeStatus =>
    let status := s.cluster.store.statuses.getLast?
    some (.status status, { s with agent.status := status })
  | .setup change =>
    let (uid, store) := change.perform s.cluster.store
    some ((uid.map StepResult.uid).getD .nothing, s.withStore store)
  | .edit key patch =>
    (s.editObject? key patch).map fun (found, s) => (.flag found, s)
  | .failGet fault => some (.nothing, { s with cluster.reads := s.cluster.reads ++ [fault] })
  | .clearGet => some (.nothing, { s with cluster.reads := [] })
  | .failStatus code => some (.nothing, { s with cluster.status := code })
  | .failEvent code => some (.nothing, { s with cluster.events := code })
  | .listOwned =>
    let (result, s) := s.run (listOwned FaultyStore.cluster s.agent)
    some (.owned result, s)
  | .collectGarbage reconciled =>
    let (result, s) := s.run (collectGarbage FaultyStore.cluster s.agent reconciled)
    some (.count result, s)
  | .prune objects reconciled =>
    let index := objects.foldl (fun index entry => OwnedIndex.add index entry.1 entry.2) ∅
    let (result, s) := s.run (pruneOrphans FaultyStore.cluster index reconciled)
    some (.pruned index (index.orphans reconciled) result, s)
  | .apply objects =>
    let (result, s) := s.run
      (applyAll FaultyStore.cluster s.agent.ownerReference s.settings.maxAttempts objects)
    some (.applied result, s)
  | .computeStatus =>
    let (result, s) := s.run (computeStatus FaultyStore.cluster s.context)
    some (.computed result, s)
  | .reportStatus status =>
    let (result, s) := s.run (reportStatus FaultyStore.cluster s.agent status)
    some (.reported result, s)
  | .get key => some (.object (s.cluster.store.get? key), s)
  | .dump => some (.objects s.cluster.store.objects, s)

end Scenario

end AgentOperator
