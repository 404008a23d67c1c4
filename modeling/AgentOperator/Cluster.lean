import AgentOperator.Agent.Basic
import AgentOperator.Failure
import AgentOperator.Object.Basic

/-!
# Clusters

The few calls by which objects are read and written. An implementation is any
choice of these calls over a state of its own: each may succeed or fail and may
change the state, so what is proved about a pass for every implementation holds
however the API behaves.
-/

namespace AgentOperator

/-- A computation that may change a state and may fail; what it changed before
it failed stays changed. -/
abbrev Action (σ α : Type) : Type := ExceptT Failure (StateM σ) α

inductive Severity
  | normal
  | warning
deriving DecidableEq, Repr, Inhabited

def Severity.name : Severity → String
  | normal => "Normal"
  | warning => "Warning"

structure Event where
  severity : Severity
  reason : String
  message : String
deriving DecidableEq, Inhabited

structure Cluster (σ : Type) where
  /-- Read an object; none when there is no such object. -/
  get : Kind → Option String → String → Action σ (Option Object)
  /-- List the objects of a kind in a namespace that a selector matches. -/
  list : Kind → String → String → Action σ (List Object)
  /-- Make an object, and answer it as it was made. -/
  create : Kind → Object → Action σ Object
  /-- Replace an object that has not changed since it was read, and answer it as
  it is then. -/
  replace : Kind → Object → Action σ Object
  /-- Delete an object, if it is there. -/
  delete : Kind → Option String → String → Action σ Unit
  /-- Write the status of an agent. -/
  patchStatus : Agent → Status → Action σ Unit
  /-- Report something about an agent. -/
  publish : Agent → Event → Action σ Unit

/-- What a computation returns and the state it leaves. -/
def Action.run {σ α : Type} (action : Action σ α) (state : σ) : Except Failure α × σ :=
  (ExceptT.run action : StateM σ (Except Failure α)).run state

/-- The result of a computation as a value: a failure does not end what follows. -/
def Action.attempt {σ α : Type} (action : Action σ α) : Action σ (Except Failure α) :=
  fun state =>
    let (result, state) := action.run state
    (.ok result, state)

end AgentOperator
