import AgentOperator.Object.Kind
import AgentOperator.Object.Metadata

/-!
# Objects

An object of any kind: its type, its metadata, and a body that holds every other
field. A desired object is an object together with the kind it is to have.
-/

namespace AgentOperator

/-- The type of an object as it is written in the object. -/
structure TypeName where
  apiVersion : String
  kind : String
deriving DecidableEq, Inhabited

/-- An object of any kind. -/
structure Object where
  types : Option TypeName
  metadata : Metadata
  /-- Every field but the type and the metadata. -/
  body : Json
deriving Inhabited

namespace Object

/-- Take the fields that name the type out of the fields of an object. Reading
stops at one that is no text or that is given again; what was taken is gone
either way. -/
def takeTypes (apiVersion kind : Option String) :
    List (String × Json) → Option TypeName × List (String × Json)
  | [] =>
    match apiVersion, kind with
    | some apiVersion, some kind => (some ⟨apiVersion, kind⟩, [])
    | _, _ => (none, [])
  | (key, value) :: rest =>
    if key = "apiVersion" then
      match value, apiVersion with
      | .str s, none => takeTypes (some s) kind rest
      | _, _ => (none, rest)
    else if key = "kind" then
      match value, kind with
      | .str s, none => takeTypes apiVersion (some s) rest
      | _, _ => (none, rest)
    else
      let (types, others) := takeTypes apiVersion kind rest
      (types, (key, value) :: others)

/-- Read an object. Every field but the metadata has to be readable, the type
included; the metadata pass over the fields that they do not know. -/
def ofJson? (json : Json) : Option Object := do
  let fields ← json.obj?
  let metadata ←
    match fields.filter fun entry => entry.1 == "metadata" with
    | [] => some {}
    | [entry] => Metadata.ofJson? entry.2
    | _ => none
  let others := fields.filter fun entry => entry.1 != "metadata"
  let _ ← (Json.obj others).canonical?
  let (types, body) := takeTypes none none others
  return ⟨types, metadata, ← (Json.obj body).canonical?⟩

/-- The fields of an object in the order in which they are written. -/
def wireFields (o : Object) : List (String × Json) :=
  (match o.types with
    | none => []
    | some types => [("apiVersion", .str types.apiVersion), ("kind", .str types.kind)]) ++
    ("metadata", o.metadata.toJson) :: o.body.fieldsOrNone

def toJson (o : Object) : Json := .mkObj o.wireFields

/-- The name, empty when there is none. -/
def name (o : Object) : String := o.metadata.name.getD ""

/-- The labels, none when there are no labels. -/
def labels (o : Object) : Dict String := o.metadata.labels.getD ∅

def withMetadata (o : Object) (m : Metadata) : Object := { o with metadata := m }

end Object

structure Desired where
  kind : Kind
  object : Object
deriving Inhabited

namespace Desired

/-- The namespace of the object, if it names one. -/
def namespaceName (d : Desired) : Option String := d.object.metadata.namespaceName

/-- The key under which an object is reported: kind, namespace and name. -/
def key (d : Desired) : String :=
  d.kind.name ++ "/" ++ d.namespaceName.getD "-" ++ "/" ++ d.object.name

end Desired

end AgentOperator
