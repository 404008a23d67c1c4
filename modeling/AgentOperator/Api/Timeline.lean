import AgentOperator.Api.Request
import AgentOperator.Reconcile.Pass
import AgentOperator.Store.Basic

/-!
# Passes over time

An agent is looked after pass by pass. Each pass says how many seconds later the
next one is due: soon after objects were deleted to be made again, after the
usual interval when all is well, and after a failure sooner or later, as it may
pass or not. An agent that is being deleted is left alone.
-/

namespace AgentOperator.Api

/-- A request that was made, and the second in which it was made. -/
structure TimedRequest where
  second : Nat
  method : String
  path : String
deriving DecidableEq, Inhabited

structure WatchedStore where
  store : Store
  second : Nat := 0
  requests : List TimedRequest := []
deriving Inhabited

namespace WatchedStore

/-- Note a request, unless it cannot be made, and let the store answer it. -/
def note {α : Type} (request : Except Failure Request) (action : Action Store α) :
    Action WatchedStore α := fun w =>
  match request with
  | .error failure => (.error failure, w)
  | .ok request =>
    let (result, store) := action.run w.store
    let timed := ⟨w.second, request.method, request.target.path⟩
    (result, { w with store, requests := w.requests ++ [timed] })

def cluster : Cluster WatchedStore :=
  { get := fun kind space name =>
      note (getRequest kind space name) (Store.cluster.get kind space name)
    list := fun kind space selector =>
      note (listRequest kind space selector) (Store.cluster.list kind space selector)
    create := fun kind object =>
      note (createRequest kind object) (Store.cluster.create kind object)
    replace := fun kind object =>
      note (replaceRequest kind object) (Store.cluster.replace kind object)
    delete := fun kind space name =>
      note (deleteRequest kind space name) (Store.cluster.delete kind space name)
    patchStatus := fun agent status =>
      note (statusRequest agent status) (Store.cluster.patchStatus agent status)
    publish := fun agent event =>
      note (eventRequest agent event) (Store.cluster.publish agent event) }

def objectWrites (w : WatchedStore) : Nat := w.store.writes - w.store.statuses.length

end WatchedStore

/-- The seconds between passes where nothing else is said. -/
def defaultResync : Nat := 300

def delayAfter (resync : Nat) : Except Failure PassReport → Nat
  | .ok report => if 0 < report.recreated then 1 else resync
  | .error failure => if failure.isRetriable then 15 else 60

/-- Make passes as they fall due, up to and with the last second. -/
def passesFrom (settings : PassSettings) (agent : Agent) (resync last : Nat) :
    Nat → WatchedStore → WatchedStore
  | 0, w => w
  | steps + 1, w =>
    if last < w.second then w
    else
      let (result, w) := (reconcile WatchedStore.cluster settings agent).run w
      passesFrom settings agent resync last steps
        { w with second := w.second + delayAfter resync result }

def watch (settings : PassSettings) (agent : Agent) (resync last : Nat) (store : Store) :
    WatchedStore :=
  if agent.metadata.deletionTimestamp.isSome then { store }
  else passesFrom settings agent resync last (last + 1) { store }

end AgentOperator.Api
