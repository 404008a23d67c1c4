import AgentOperator.Json.Record

/-!
# Container settings

The settings of an agent's container and pods that are handed through as they
are given: environment variables, resource demands and tolerations. Fields of
other names are dropped.
-/

namespace AgentOperator

structure KeySelector where
  key : String
  name : Option String := none
  isOptional : Option Bool := none
deriving DecidableEq, Inhabited

structure FieldSelector where
  apiVersion : Option String := none
  fieldPath : String
deriving DecidableEq, Inhabited

structure ResourceSelector where
  containerName : Option String := none
  divisor : Option String := none
  resource : String
deriving DecidableEq, Inhabited

/-- Where an environment variable takes its value from. -/
structure EnvSource where
  configMapKey : Option KeySelector := none
  field : Option FieldSelector := none
  resourceField : Option ResourceSelector := none
  secretKey : Option KeySelector := none
deriving DecidableEq, Inhabited

structure EnvVar where
  name : String
  value : Option String := none
  valueFrom : Option EnvSource := none
deriving DecidableEq, Inhabited

structure Resources where
  claims : Option (List String)
  limits : Option (Dict String)
  requests : Option (Dict String)
deriving DecidableEq, Inhabited

structure Toleration where
  effect : Option String
  key : Option String
  operator : Option String
  tolerationSeconds : Option Int64
  value : Option String
deriving DecidableEq, Inhabited

namespace KeySelector

def toJson (s : KeySelector) : Json :=
  .ofPresent [
    ("key", some (.str s.key)),
    ("name", s.name.map .str),
    ("optional", s.isOptional.map .bool)]

def ofJson? (json : Json) : Option KeySelector := do
  let r ← json.openRecord?
  return {
    key := ← r.filled? "key" "" Json.str?
    name := ← r.optional? "name" Json.str?
    isOptional := ← r.optional? "optional" Json.bool? }

end KeySelector

namespace FieldSelector

def toJson (s : FieldSelector) : Json :=
  .ofPresent [
    ("apiVersion", s.apiVersion.map .str),
    ("fieldPath", some (.str s.fieldPath))]

def ofJson? (json : Json) : Option FieldSelector := do
  let r ← json.openRecord?
  return {
    apiVersion := ← r.optional? "apiVersion" Json.str?
    fieldPath := ← r.filled? "fieldPath" "" Json.str? }

end FieldSelector

namespace ResourceSelector

def toJson (s : ResourceSelector) : Json :=
  .ofPresent [
    ("containerName", s.containerName.map .str),
    ("divisor", s.divisor.map .str),
    ("resource", some (.str s.resource))]

def ofJson? (json : Json) : Option ResourceSelector := do
  let r ← json.openRecord?
  return {
    containerName := ← r.optional? "containerName" Json.str?
    divisor := ← r.optional? "divisor" Json.str?
    resource := ← r.filled? "resource" "" Json.str? }

end ResourceSelector

namespace EnvSource

def toJson (s : EnvSource) : Json :=
  .ofPresent [
    ("configMapKeyRef", s.configMapKey.map KeySelector.toJson),
    ("fieldRef", s.field.map FieldSelector.toJson),
    ("resourceFieldRef", s.resourceField.map ResourceSelector.toJson),
    ("secretKeyRef", s.secretKey.map KeySelector.toJson)]

def ofJson? (json : Json) : Option EnvSource := do
  let r ← json.openRecord?
  return {
    configMapKey := ← r.optional? "configMapKeyRef" KeySelector.ofJson?
    field := ← r.optional? "fieldRef" FieldSelector.ofJson?
    resourceField := ← r.optional? "resourceFieldRef" ResourceSelector.ofJson?
    secretKey := ← r.optional? "secretKeyRef" KeySelector.ofJson? }

end EnvSource

namespace EnvVar

def toJson (v : EnvVar) : Json :=
  .ofPresent [
    ("name", some (.str v.name)),
    ("value", v.value.map .str),
    ("valueFrom", v.valueFrom.map EnvSource.toJson)]

def ofJson? (json : Json) : Option EnvVar := do
  let r ← json.openRecord?
  return {
    name := ← r.filled? "name" "" Json.str?
    value := ← r.optional? "value" Json.str?
    valueFrom := ← r.optional? "valueFrom" EnvSource.ofJson? }

def ofField (name path : String) : EnvVar :=
  { name, valueFrom := some { field := some { fieldPath := path } } }

end EnvVar

namespace Resources

/-- A resource claim is an object that holds its name. -/
def claimOfJson? (json : Json) : Option String := do
  let r ← json.openRecord?
  r.filled? "name" "" Json.str?

def toJson (r : Resources) : Json :=
  .ofPresent [
    ("claims", r.claims.map (.ofList fun name => .mkObj [("name", .str name)])),
    ("limits", r.limits.map (.ofDict .str)),
    ("requests", r.requests.map (.ofDict .str))]

def ofJson? (json : Json) : Option Resources := do
  let r ← json.openRecord?
  return {
    claims := ← r.optional? "claims" (Json.list? claimOfJson?)
    limits := ← r.optional? "limits" (Json.dict? Json.str?)
    requests := ← r.optional? "requests" (Json.dict? Json.str?) }

end Resources

namespace Toleration

def toJson (t : Toleration) : Json :=
  .ofPresent [
    ("effect", t.effect.map .str),
    ("key", t.key.map .str),
    ("operator", t.operator.map .str),
    ("tolerationSeconds", t.tolerationSeconds.map fun n => .int n.toInt),
    ("value", t.value.map .str)]

def ofJson? (json : Json) : Option Toleration := do
  let r ← json.openRecord?
  return {
    effect := ← r.optional? "effect" Json.str?
    key := ← r.optional? "key" Json.str?
    operator := ← r.optional? "operator" Json.str?
    tolerationSeconds := ← r.optional? "tolerationSeconds" Json.int64?
    value := ← r.optional? "value" Json.str? }

end Toleration

end AgentOperator
