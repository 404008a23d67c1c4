import AgentOperator.Agent.Choices
import AgentOperator.Agent.Container

/-!
# The spec and the status of an agent

What a user asks of an agent, and what the operator reports about it, each with
the form in which it is read and written. A setting without a value is left out
when it is written; the settings that always have one are always written.
-/

namespace AgentOperator

/-- A port that a user sets, in the place of one read from the configuration. -/
structure PortOverride where
  name : String
  port : Int32
  protocol : Protocol
  /-- The port of the container, where it differs. -/
  targetPort : Option Int32
deriving DecidableEq, Inhabited

structure Autoscaler where
  minReplicas : Option Int32
  maxReplicas : Int32
  targetCpu : Option Int32
  targetMemory : Option Int32
deriving DecidableEq, Inhabited

/-- A number of pods, or a text such as a percentage. -/
inductive PodCount
  | count (n : Int32)
  | text (s : String)
deriving DecidableEq, Inhabited

structure DisruptionBudget where
  minAvailable : Option PodCount
  maxUnavailable : Option PodCount
deriving DecidableEq, Inhabited

structure IngressSettings where
  exposure : Exposure
  hostname : Option String
  ruleType : RuleType
  className : Option String
  annotations : Dict String
  /-- The secret that holds the certificate of the host. -/
  tlsSecretName : Option String
deriving DecidableEq, Inhabited

structure Spec where
  mode : Mode := .deployment
  /-- The configuration of the agent, JSON text. -/
  config : String := ""
  /-- The configuration of its pipelines, YAML text. -/
  otelConfig : Option String := none
  ports : List PortOverride := []
  replicas : Int32 := 1
  image : Option String := none
  imagePullPolicy : Option String := none
  /-- The service account to run as, when it is not a generated one. -/
  serviceAccount : Option String := none
  env : List EnvVar := []
  resources : Option Resources := none
  nodeSelector : Dict String := ∅
  tolerations : List Toleration := []
  podAnnotations : Dict String := ∅
  hostNetwork : Bool := false
  priorityClassName : Option String := none
  autoscaler : Option Autoscaler := none
  podDisruptionBudget : Option DisruptionBudget := none
  ingress : Option IngressSettings := none
deriving DecidableEq, Inhabited

structure ScaleStatus where
  replicas : Int32 := 0
  /-- The ready replicas of all, as in `1/2`. -/
  statusReplicas : String := ""
  selector : String := ""
deriving DecidableEq, Inhabited

structure Status where
  version : String := ""
  image : String := ""
  scale : ScaleStatus := {}
deriving DecidableEq, Inhabited

def Json.ofInt32 (n : Int32) : Json := .int n.toInt

namespace PortOverride

def toJson (o : PortOverride) : Json :=
  .ofPresent [
    ("name", some (.str o.name)),
    ("port", some (.ofInt32 o.port)),
    ("protocol", some (.str o.protocol.name)),
    ("targetPort", o.targetPort.map .ofInt32)]

def ofJson? (json : Json) : Option PortOverride := do
  let r ← json.record? ["name", "port", "protocol", "targetPort"]
  return {
    name := ← r.required? "name" Json.str?
    port := ← r.required? "port" Json.int32?
    protocol := ← r.defaulted? "protocol" .tcp Protocol.ofJson?
    targetPort := ← r.optional? "targetPort" Json.int32? }

end PortOverride

namespace Autoscaler

def toJson (a : Autoscaler) : Json :=
  .ofPresent [
    ("minReplicas", a.minReplicas.map .ofInt32),
    ("maxReplicas", some (.ofInt32 a.maxReplicas)),
    ("targetCPUUtilization", a.targetCpu.map .ofInt32),
    ("targetMemoryUtilization", a.targetMemory.map .ofInt32)]

def ofJson? (json : Json) : Option Autoscaler := do
  let r ← json.record?
    ["minReplicas", "maxReplicas", "targetCPUUtilization", "targetMemoryUtilization"]
  return {
    minReplicas := ← r.optional? "minReplicas" Json.int32?
    maxReplicas := ← r.required? "maxReplicas" Json.int32?
    targetCpu := ← r.optional? "targetCPUUtilization" Json.int32?
    targetMemory := ← r.optional? "targetMemoryUtilization" Json.int32? }

end Autoscaler

namespace PodCount

def toJson : PodCount → Json
  | count n => .ofInt32 n
  | text s => .str s

def ofJson? : Json → Option PodCount
  | .str s => some (text s)
  | other => other.int32?.map count

end PodCount

namespace DisruptionBudget

def toJson (b : DisruptionBudget) : Json :=
  .ofPresent [
    ("minAvailable", b.minAvailable.map PodCount.toJson),
    ("maxUnavailable", b.maxUnavailable.map PodCount.toJson)]

def ofJson? (json : Json) : Option DisruptionBudget := do
  let r ← json.record? ["minAvailable", "maxUnavailable"]
  return {
    minAvailable := ← r.optional? "minAvailable" PodCount.ofJson?
    maxUnavailable := ← r.optional? "maxUnavailable" PodCount.ofJson? }

end DisruptionBudget

/-- A map that is written only when it has entries. -/
def Json.nonEmptyDict (d : Dict String) : Option Json :=
  if d.isEmpty then none else some (.ofDict .str d)

/-- A list that is written only when it has elements. -/
def Json.nonEmptyList {α : Type} (f : α → Json) (xs : List α) : Option Json :=
  if xs.isEmpty then none else some (.ofList f xs)

namespace IngressSettings

def toJson (s : IngressSettings) : Json :=
  .ofPresent [
    ("type", some (.str s.exposure.name)),
    ("hostname", s.hostname.map .str),
    ("ruleType", some (.str s.ruleType.name)),
    ("ingressClassName", s.className.map .str),
    ("annotations", Json.nonEmptyDict s.annotations),
    ("tlsSecretName", s.tlsSecretName.map .str)]

def ofJson? (json : Json) : Option IngressSettings := do
  let r ← json.record?
    ["type", "hostname", "ruleType", "ingressClassName", "annotations", "tlsSecretName"]
  return {
    exposure := ← r.defaulted? "type" .ingress Exposure.ofJson?
    hostname := ← r.optional? "hostname" Json.str?
    ruleType := ← r.defaulted? "ruleType" .path RuleType.ofJson?
    className := ← r.optional? "ingressClassName" Json.str?
    annotations := ← r.defaulted? "annotations" ∅ (Json.dict? Json.str?)
    tlsSecretName := ← r.optional? "tlsSecretName" Json.str? }

end IngressSettings

namespace Spec

/-- The names of the fields of a spec, in order. -/
def fieldNames : List String :=
  ["mode", "config", "otelConfig", "ports", "replicas", "image", "imagePullPolicy",
    "serviceAccount", "env", "resources", "nodeSelector", "tolerations", "podAnnotations",
    "hostNetwork", "priorityClassName", "autoscaler", "podDisruptionBudget", "ingress"]

def toJson (s : Spec) : Json :=
  .ofPresent [
    ("mode", some (.str s.mode.name)),
    ("config", some (.str s.config)),
    ("otelConfig", s.otelConfig.map .str),
    ("ports", Json.nonEmptyList PortOverride.toJson s.ports),
    ("replicas", some (.ofInt32 s.replicas)),
    ("image", s.image.map .str),
    ("imagePullPolicy", s.imagePullPolicy.map .str),
    ("serviceAccount", s.serviceAccount.map .str),
    ("env", Json.nonEmptyList EnvVar.toJson s.env),
    ("resources", s.resources.map Resources.toJson),
    ("nodeSelector", Json.nonEmptyDict s.nodeSelector),
    ("tolerations", Json.nonEmptyList Toleration.toJson s.tolerations),
    ("podAnnotations", Json.nonEmptyDict s.podAnnotations),
    ("hostNetwork", some (.bool s.hostNetwork)),
    ("priorityClassName", s.priorityClassName.map .str),
    ("autoscaler", s.autoscaler.map Autoscaler.toJson),
    ("podDisruptionBudget", s.podDisruptionBudget.map DisruptionBudget.toJson),
    ("ingress", s.ingress.map IngressSettings.toJson)]

def ofJson? (json : Json) : Option Spec := do
  let r ← json.record? fieldNames
  return {
    mode := ← r.defaulted? "mode" .deployment Mode.ofJson?
    config := ← r.defaulted? "config" "" Json.str?
    otelConfig := ← r.optional? "otelConfig" Json.str?
    ports := ← r.defaulted? "ports" [] (Json.list? PortOverride.ofJson?)
    replicas := ← r.defaulted? "replicas" 1 Json.int32?
    image := ← r.optional? "image" Json.str?
    imagePullPolicy := ← r.optional? "imagePullPolicy" Json.str?
    serviceAccount := ← r.optional? "serviceAccount" Json.str?
    env := ← r.defaulted? "env" [] (Json.list? EnvVar.ofJson?)
    resources := ← r.optional? "resources" Resources.ofJson?
    nodeSelector := ← r.defaulted? "nodeSelector" ∅ (Json.dict? Json.str?)
    tolerations := ← r.defaulted? "tolerations" [] (Json.list? Toleration.ofJson?)
    podAnnotations := ← r.defaulted? "podAnnotations" ∅ (Json.dict? Json.str?)
    hostNetwork := ← r.defaulted? "hostNetwork" false Json.bool?
    priorityClassName := ← r.optional? "priorityClassName" Json.str?
    autoscaler := ← r.optional? "autoscaler" Autoscaler.ofJson?
    podDisruptionBudget := ← r.optional? "podDisruptionBudget" DisruptionBudget.ofJson?
    ingress := ← r.optional? "ingress" IngressSettings.ofJson? }

end Spec

namespace ScaleStatus

def toJson (s : ScaleStatus) : Json :=
  .mkObj [
    ("replicas", .ofInt32 s.replicas),
    ("statusReplicas", .str s.statusReplicas),
    ("selector", .str s.selector)]

/-- Read a scale; all of its fields have to be given. -/
def ofJson? (json : Json) : Option ScaleStatus := do
  let r ← json.record? ["replicas", "statusReplicas", "selector"]
  return {
    replicas := ← r.required? "replicas" Json.int32?
    statusReplicas := ← r.required? "statusReplicas" Json.str?
    selector := ← r.required? "selector" Json.str? }

end ScaleStatus

namespace Status

def toJson (s : Status) : Json :=
  .mkObj [
    ("version", .str s.version),
    ("image", .str s.image),
    ("scale", s.scale.toJson)]

def ofJson? (json : Json) : Option Status := do
  let r ← json.record? ["version", "image", "scale"]
  return {
    version := ← r.defaulted? "version" "" Json.str?
    image := ← r.defaulted? "image" "" Json.str?
    scale := ← r.defaulted? "scale" {} ScaleStatus.ofJson? }

end Status

end AgentOperator
