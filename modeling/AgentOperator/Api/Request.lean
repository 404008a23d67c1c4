import AgentOperator.Api.Target
import AgentOperator.Cluster
import AgentOperator.Config

/-!
# Requests to the API

The request of each call: its method, its target below the group and version of
a kind, and its body. A call that names no object, or whose names make no target,
fails before any request is made.
-/

namespace AgentOperator.Api

structure Request where
  method : String
  target : Target
  contentType : Option String := none
  body : Option Json := none
deriving Inhabited

/-- What is said of a call without the name of an object. -/
def nameRequired : Failure := .client "A non-empty name is required"

/-- The target that a text spells; a request to any other cannot be made. -/
def targetAt (text : String) : Except Failure Target :=
  match Target.read? text with
  | some target => .ok target
  | none => .error (.client "the target of the request is not well formed")

/-- The path of a group and version; the core group has a root of its own. -/
def rootPath (group version : String) : String :=
  if group = "" then "/api/" ++ version else "/apis/" ++ group ++ "/" ++ version

/-- The path of a collection, in a namespace if there is one. -/
def collectionPath (group version : String) (space : Option String) (plural : String) :
    String :=
  let base := rootPath group version
  match space with
  | some space => base ++ "/namespaces/" ++ space ++ "/" ++ plural
  | none => base ++ "/" ++ plural

/-- The path of the objects of a kind; only some kinds live in namespaces. -/
def kindPath (kind : Kind) (space : Option String) : String :=
  collectionPath kind.group kind.version (if kind.isNamespaced then space else none)
    kind.plural

def objectPath (kind : Kind) (space : Option String) (name : String) :
    Except Failure String :=
  if name = "" then .error nameRequired else .ok (kindPath kind space ++ "/" ++ name)

/-- The query of a write: the name of who writes. -/
def writerQuery : List (String × String) := [("fieldManager", managerName)]

def requestWithBody (method text : String) (body : Json)
    (contentType : String := "application/json") : Except Failure Request := do
  let target ← targetAt text
  return { method, target, contentType := some contentType, body := some body }

def getRequest (kind : Kind) (space : Option String) (name : String) :
    Except Failure Request := do
  return { method := "GET", target := ← targetAt (← objectPath kind space name) }

def listRequest (kind : Kind) (space selector : String) : Except Failure Request := do
  let text := Target.withFields (kindPath kind (some space)) [("labelSelector", selector)]
  return { method := "GET", target := ← targetAt text }

def createRequest (kind : Kind) (object : Object) : Except Failure Request :=
  let path := kindPath kind object.metadata.namespaceName
  requestWithBody "POST" (Target.withFields path writerQuery) object.toJson

/-- Replace an object, which has to have a name. -/
def replaceRequest (kind : Kind) (object : Object) : Except Failure Request :=
  match object.metadata.name with
  | none => .error (.validation "object has no name")
  | some name => do
    let path ← objectPath kind object.metadata.namespaceName name
    requestWithBody "PUT" (Target.withFields path writerQuery) object.toJson

/-- Delete an object, and in the background what it owns. -/
def deleteRequest (kind : Kind) (space : Option String) (name : String) :
    Except Failure Request := do
  let path ← objectPath kind space name
  requestWithBody "DELETE" (Target.withFields path [])
    (.mkObj [("propagationPolicy", .str "Background")])

def agentsPath (space : Option String) : String :=
  collectionPath Agent.group Agent.version space Agent.plural

def statusRequest (agent : Agent) (status : Status) : Except Failure Request :=
  if agent.name = "" then .error nameRequired
  else
    let path := agentsPath (some agent.home) ++ "/" ++ agent.name ++ "/status"
    requestWithBody "PATCH" (Target.withFields path writerQuery)
      (.mkObj [("status", status.toJson)]) "application/merge-patch+json"

/-- The event about an agent as it is written, without its times. -/
def eventJson (agent : Agent) (event : Event) : Json :=
  .mkObj [
    ("apiVersion", .str "v1"),
    ("count", .int 1),
    ("involvedObject", .ofPresent [
      ("apiVersion", some (.str Agent.apiVersion)),
      ("kind", some (.str Agent.kindName)),
      ("name", agent.metadata.name.map .str),
      ("namespace", agent.metadata.namespaceName.map .str),
      ("uid", agent.metadata.uid.map .str)]),
    ("kind", .str "Event"),
    ("message", .str event.message),
    ("metadata", .mkObj [("generateName", .str (agent.name ++ "-"))]),
    ("reason", .str event.reason),
    ("reportingComponent", .str managerName),
    ("type", .str event.severity.name)]

def eventRequest (agent : Agent) (event : Event) : Except Failure Request :=
  let path := collectionPath "" "v1" (some agent.home) "events"
  requestWithBody "POST" (Target.withFields path []) (eventJson agent event)

/-- Look for agents anywhere, to see whether the cluster knows them at all. -/
def probeRequest : Except Failure Request := do
  return { method := "GET", target := ← targetAt (agentsPath none) }

end AgentOperator.Api
