import AgentOperator.Api.Request
import AgentOperator.Api.Response

/-!
# The cluster behind the API

The calls of a cluster made by requests to the API. An object that the API does
not find is no failure of a read or a deletion, and a kind that it does not know
has no objects.
-/

namespace AgentOperator.Api

/-- A connection to the API: a request changes its state and is answered. -/
structure Connection (σ : Type) where
  send : Request → σ → Response × σ

section

variable {σ : Type} (connection : Connection σ)

/-- Make a request, unless it cannot be made, and read the answer. -/
def call {α : Type} (request : Except Failure Request) (read : Json → Option α) :
    Action σ α :=
  match request with
  | .error failure => throw failure
  | .ok request => fun s =>
    let (response, s) := connection.send request s
    (response.read read, s)

/-- A computation with another result in the place of some failures. -/
def excusing {α : Type} (action : Action σ α) (excuse : ApiError → Bool) (value : α) :
    Action σ α := do
  match ← action.attempt with
  | .ok result => return result
  | .error (.api e) => if excuse e then return value else throw (.api e)
  | .error failure => throw failure

def cluster : Cluster σ :=
  { get := fun kind space name =>
      excusing (some <$> call connection (getRequest kind space name) Object.ofJson?)
        (fun e => e.reason == "NotFound") none
    list := fun kind space selector =>
      excusing (call connection (listRequest kind space selector) objects?)
        (fun e => e.code == 404) []
    create := fun kind object => call connection (createRequest kind object) Object.ofJson?
    replace := fun kind object =>
      call connection (replaceRequest kind object) Object.ofJson?
    delete := fun kind space name =>
      excusing (call connection (deleteRequest kind space name) deletion?)
        (fun e => e.code == 404) ()
    patchStatus := fun agent status => do
      let _ ← call connection (statusRequest agent status) Agent.ofJson?
    publish := fun agent event => call connection (eventRequest agent event) event? }

/-- Look for agents before passes are made; a cluster that does not know them
cannot be looked after. -/
def probe : Action σ Unit := do
  let failure := Failure.config "AmazonCloudWatchAgent CRD not installed"
  match ← (call connection probeRequest some).attempt with
  | .ok _ => return ()
  | .error _ => throw failure

end

/-- A connection whose answers are given beforehand. -/
structure Script where
  responses : List Response
  /-- The requests that were made, in order. -/
  requests : List Request := []
deriving Inhabited

/-- Answer with the next response; past the last one the server is at fault. -/
def Script.connection : Connection Script :=
  { send := fun request s =>
      let requests := s.requests ++ [request]
      match s.responses with
      | [] => ({ status := 500 }, { s with requests })
      | response :: responses => (response, { responses, requests }) }

end AgentOperator.Api
