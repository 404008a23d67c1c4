import AgentOperator.Agent.Validation
import AgentOperator.Manifest.Workload

/-!
# Scaling

The object that scales an agent with its load, and the one that limits how many
of its pods may be away.
-/

namespace AgentOperator

/-- A resource whose use an agent is scaled by, and the percentage aimed at. -/
structure UtilizationTarget where
  resource : String
  percentage : Int32
deriving DecidableEq, Inhabited

/-- The object that scales an agent with its load. -/
structure HorizontalAutoscaler where
  metadata : Metadata
  targetName : String
  minReplicas : Int32
  maxReplicas : Int32
  metrics : List UtilizationTarget
deriving DecidableEq, Inhabited

/-- The object that limits how many pods of an agent may be away. -/
structure PodBudget where
  metadata : Metadata
  selector : Dict String
  minAvailable : Option PodCount
  maxUnavailable : Option PodCount
deriving DecidableEq, Inhabited

/-- The percentage of processor use that is aimed at when no target is given. -/
def defaultCpuTarget : Int32 := 90

namespace UtilizationTarget

def toJson (t : UtilizationTarget) : Json :=
  .mkObj [
    ("resource", .mkObj [
      ("name", .str t.resource),
      ("target", .mkObj [
        ("averageUtilization", .ofInt32 t.percentage),
        ("type", .str "Utilization")])]),
    ("type", .str "Resource")]

end UtilizationTarget

namespace HorizontalAutoscaler

/-- The targets that an autoscaler names, or else the one for the processor. -/
def metricsOf (a : Autoscaler) : List UtilizationTarget :=
  let named :=
    (a.targetCpu.map (UtilizationTarget.mk "cpu")).toList ++
      (a.targetMemory.map (UtilizationTarget.mk "memory")).toList
  if named.isEmpty then [⟨"cpu", defaultCpuTarget⟩] else named

/-- The autoscaler of an agent, if it asks for one and its mode has replicas. -/
def ofContext? (c : Context) : Option HorizontalAutoscaler :=
  if c.mode = .deployment ∨ c.mode = .statefulSet then
    c.agent.spec.autoscaler.map fun a =>
      { metadata := c.metadata c.name agentComponent ∅
        targetName := c.name
        minReplicas := a.leastReplicas
        maxReplicas := a.maxReplicas
        metrics := metricsOf a }
  else none

def body (h : HorizontalAutoscaler) : Json :=
  .mkObj [("spec", .mkObj [
    ("maxReplicas", .ofInt32 h.maxReplicas),
    ("metrics", .ofList UtilizationTarget.toJson h.metrics),
    ("minReplicas", .ofInt32 h.minReplicas),
    ("scaleTargetRef", .mkObj [
      ("apiVersion", .str Agent.apiVersion),
      ("kind", .str Agent.kindName),
      ("name", .str h.targetName)])])]

end HorizontalAutoscaler

namespace PodBudget

/-- The bounds of a budget; one that names none allows one pod to be away. -/
def boundsOf (b : DisruptionBudget) : Option PodCount × Option PodCount :=
  match b.minAvailable, b.maxUnavailable with
  | none, none => (none, some (.count 1))
  | least, most => (least, most)

/-- The budget of an agent, if it asks for one and has pods of its own. -/
def ofContext? (c : Context) : Option PodBudget :=
  if c.mode = .sidecar then none
  else
    c.agent.spec.podDisruptionBudget.map fun b =>
      { metadata := c.metadata c.name agentComponent ∅
        selector := c.agent.selectorLabels
        minAvailable := (boundsOf b).1
        maxUnavailable := (boundsOf b).2 }

def body (b : PodBudget) : Json :=
  .mkObj [("spec", .ofPresent [
    ("maxUnavailable", b.maxUnavailable.map PodCount.toJson),
    ("minAvailable", b.minAvailable.map PodCount.toJson),
    ("selector", some (Workload.selectorJson b.selector))])]

end PodBudget

end AgentOperator
