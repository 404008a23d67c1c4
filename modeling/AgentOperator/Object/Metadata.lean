import AgentOperator.Json.Record
import AgentOperator.Object.Timestamp

/-!
# Metadata

What every object carries beside its body: its identity, its version in the
store, its labels and annotations, its owners, and the clients that wrote its
fields.
-/

namespace AgentOperator

/-- A reference from an object to one that owns it. -/
structure OwnerReference where
  apiVersion : String
  kind : String
  name : String
  uid : String
  controller : Option Bool
  blockOwnerDeletion : Option Bool
deriving DecidableEq, Inhabited

/-- A record of the fields of an object that one client wrote. -/
structure ManagedFields where
  manager : Option String
  operation : Option String
  apiVersion : Option String
  subresource : Option String
  time : Option Timestamp
  fieldsType : Option String
  /-- The set of fields, of any form. -/
  fieldsV1 : Option Json
deriving DecidableEq, Inhabited

structure Metadata where
  name : Option String := none
  generateName : Option String := none
  namespaceName : Option String := none
  uid : Option String := none
  selfLink : Option String := none
  resourceVersion : Option String := none
  generation : Option Int64 := none
  labels : Option (Dict String) := none
  annotations : Option (Dict String) := none
  ownerReferences : Option (List OwnerReference) := none
  finalizers : Option (List String) := none
  creationTimestamp : Option Timestamp := none
  deletionTimestamp : Option Timestamp := none
  deletionGracePeriodSeconds : Option Int64 := none
  managedFields : Option (List ManagedFields) := none
deriving DecidableEq, Inhabited

namespace OwnerReference

def toJson (r : OwnerReference) : Json :=
  .ofPresent [
    ("apiVersion", some (.str r.apiVersion)),
    ("blockOwnerDeletion", r.blockOwnerDeletion.map .bool),
    ("controller", r.controller.map .bool),
    ("kind", some (.str r.kind)),
    ("name", some (.str r.name)),
    ("uid", some (.str r.uid))]

def ofJson? (json : Json) : Option OwnerReference := do
  let r ← json.openRecord?
  return {
    apiVersion := ← r.filled? "apiVersion" "" Json.str?
    kind := ← r.filled? "kind" "" Json.str?
    name := ← r.filled? "name" "" Json.str?
    uid := ← r.filled? "uid" "" Json.str?
    controller := ← r.optional? "controller" Json.bool?
    blockOwnerDeletion := ← r.optional? "blockOwnerDeletion" Json.bool? }

end OwnerReference

namespace ManagedFields

def toJson (m : ManagedFields) : Json :=
  .ofPresent [
    ("apiVersion", m.apiVersion.map .str),
    ("fieldsType", m.fieldsType.map .str),
    ("fieldsV1", m.fieldsV1),
    ("manager", m.manager.map .str),
    ("operation", m.operation.map .str),
    ("subresource", m.subresource.map .str),
    ("time", m.time.map fun t => .str t.text)]

def ofJson? (json : Json) : Option ManagedFields := do
  let r ← json.openRecord?
  return {
    manager := ← r.optional? "manager" Json.str?
    operation := ← r.optional? "operation" Json.str?
    apiVersion := ← r.optional? "apiVersion" Json.str?
    subresource := ← r.optional? "subresource" Json.str?
    time := ← r.optional? "time" fun json => json.str?.bind Timestamp.read?
    fieldsType := ← r.optional? "fieldsType" Json.str?
    fieldsV1 := ← r.optional? "fieldsV1" Json.canonical? }

end ManagedFields

namespace Metadata

/-- The metadata as they are written: the fields that are present. -/
def toJson (m : Metadata) : Json :=
  .ofPresent [
    ("annotations", m.annotations.map (.ofDict .str)),
    ("creationTimestamp", m.creationTimestamp.map fun t => .str t.text),
    ("deletionGracePeriodSeconds", m.deletionGracePeriodSeconds.map fun n => .int n.toInt),
    ("deletionTimestamp", m.deletionTimestamp.map fun t => .str t.text),
    ("finalizers", m.finalizers.map (.ofList .str)),
    ("generateName", m.generateName.map .str),
    ("generation", m.generation.map fun n => .int n.toInt),
    ("labels", m.labels.map (.ofDict .str)),
    ("managedFields", m.managedFields.map (.ofList ManagedFields.toJson)),
    ("name", m.name.map .str),
    ("namespace", m.namespaceName.map .str),
    ("ownerReferences", m.ownerReferences.map (.ofList OwnerReference.toJson)),
    ("resourceVersion", m.resourceVersion.map .str),
    ("selfLink", m.selfLink.map .str),
    ("uid", m.uid.map .str)]

/-- Read metadata; fields of other names are passed over. -/
def ofJson? (json : Json) : Option Metadata := do
  let r ← json.openRecord?
  return {
    name := ← r.optional? "name" Json.str?
    generateName := ← r.optional? "generateName" Json.str?
    namespaceName := ← r.optional? "namespace" Json.str?
    uid := ← r.optional? "uid" Json.str?
    selfLink := ← r.optional? "selfLink" Json.str?
    resourceVersion := ← r.optional? "resourceVersion" Json.str?
    generation := ← r.optional? "generation" Json.int64?
    labels := ← r.optional? "labels" (Json.dict? Json.str?)
    annotations := ← r.optional? "annotations" (Json.dict? Json.str?)
    ownerReferences := ← r.optional? "ownerReferences" (Json.list? OwnerReference.ofJson?)
    finalizers := ← r.optional? "finalizers" (Json.list? Json.str?)
    creationTimestamp :=
      ← r.optional? "creationTimestamp" fun json => json.str?.bind Timestamp.read?
    deletionTimestamp :=
      ← r.optional? "deletionTimestamp" fun json => json.str?.bind Timestamp.read?
    deletionGracePeriodSeconds := ← r.optional? "deletionGracePeriodSeconds" Json.int64?
    managedFields := ← r.optional? "managedFields" (Json.list? ManagedFields.ofJson?) }

/-- The name, or the stem of a generated one. -/
def anyName (m : Metadata) : String :=
  (m.name <|> m.generateName).getD ""

end Metadata

end AgentOperator
