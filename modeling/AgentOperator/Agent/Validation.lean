import AgentOperator.Agent.Spec

/-!
# Validation of a spec

A spec is valid when no rule objects to it. Every rule that objects is reported,
in the order of the rules.
-/

namespace AgentOperator

inductive Objection
  | negativeReplicas
  | autoscalerUnsupported (mode : Mode)
  | minReplicasTooSmall
  | maxReplicasTooSmall
  | cpuTargetOutOfRange
  | memoryTargetOutOfRange
  | budgetUnsupported
  | ingressUnsupported
  | hostnameMissing
  | portOutOfRange (index : Nat)
  | targetPortOutOfRange (index : Nat) (target : Int32)
deriving DecidableEq, Inhabited

namespace Objection

def field : Objection → String
  | negativeReplicas => "spec.replicas"
  | autoscalerUnsupported _ => "spec.autoscaler"
  | minReplicasTooSmall => "spec.autoscaler.minReplicas"
  | maxReplicasTooSmall => "spec.autoscaler.maxReplicas"
  | cpuTargetOutOfRange => "spec.autoscaler.targetCPUUtilization"
  | memoryTargetOutOfRange => "spec.autoscaler.targetMemoryUtilization"
  | budgetUnsupported => "spec.podDisruptionBudget"
  | ingressUnsupported => "spec.ingress"
  | hostnameMissing => "spec.ingress.hostname"
  | portOutOfRange i => "spec.ports[" ++ toString i ++ "].port"
  | targetPortOutOfRange i _ => "spec.ports[" ++ toString i ++ "].targetPort"

def message : Objection → String
  | negativeReplicas => "replicas must not be negative"
  | autoscalerUnsupported mode => "autoscaling is not supported in " ++ mode.name ++ " mode"
  | minReplicasTooSmall => "minReplicas must be at least 1"
  | maxReplicasTooSmall => "maxReplicas must be greater than or equal to minReplicas"
  | cpuTargetOutOfRange => "utilization target must be between 1 and 99"
  | memoryTargetOutOfRange => "utilization target must be between 1 and 99"
  | budgetUnsupported => "a disruption budget is not supported in Sidecar mode"
  | ingressUnsupported => "ingress is not supported in Sidecar mode"
  | hostnameMissing => "a hostname is required for Subdomain rules"
  | portOutOfRange _ => "port must be between 1 and 65535"
  | targetPortOutOfRange _ target =>
    "targetPort " ++ toString target.toInt ++ " must be between 1 and 65535"

def text (o : Objection) : String := o.field ++ ": " ++ o.message

end Objection

def isPortNumber (n : Int) : Bool := 1 ≤ n && n ≤ 65535

def isUtilization (n : Int) : Bool := 1 ≤ n && n ≤ 99

namespace Autoscaler

/-- The fewest replicas: one, when none are given. -/
def leastReplicas (a : Autoscaler) : Int32 := a.minReplicas.getD 1

def objections (a : Autoscaler) (mode : Mode) : List Objection :=
  (if mode = .daemonSet ∨ mode = .sidecar then [.autoscalerUnsupported mode] else []) ++
    (if a.leastReplicas < 1 then [.minReplicasTooSmall] else []) ++
    (if a.maxReplicas < a.leastReplicas then [.maxReplicasTooSmall] else []) ++
    (if a.targetCpu.all fun n => isUtilization n.toInt then [] else [.cpuTargetOutOfRange]) ++
    (if a.targetMemory.all fun n => isUtilization n.toInt then []
      else [.memoryTargetOutOfRange])

end Autoscaler

namespace IngressSettings

/-- The host, when one is given that is not empty. -/
def host? (s : IngressSettings) : Option String :=
  s.hostname.filter fun h => h ≠ ""

def objections (s : IngressSettings) (mode : Mode) : List Objection :=
  (if mode = .sidecar then [.ingressUnsupported] else []) ++
    (if s.ruleType = .subdomain ∧ s.host? = none then [.hostnameMissing] else [])

end IngressSettings

namespace PortOverride

def objections (o : PortOverride) (index : Nat) : List Objection :=
  (if isPortNumber o.port.toInt then [] else [.portOutOfRange index]) ++
    (match o.targetPort with
      | none => []
      | some target =>
        if isPortNumber target.toInt then [] else [.targetPortOutOfRange index target])

end PortOverride

namespace Spec

def objections (s : Spec) : List Objection :=
  (if s.replicas < 0 then [.negativeReplicas] else []) ++
    (match s.autoscaler with
      | none => []
      | some a => a.objections s.mode) ++
    (if s.podDisruptionBudget.isSome ∧ s.mode = .sidecar then [.budgetUnsupported] else []) ++
    (match s.ingress with
      | none => []
      | some i => i.objections s.mode) ++
    s.ports.zipIdx.flatMap fun entry => entry.1.objections entry.2

def isValid (s : Spec) : Bool := s.objections.isEmpty

end Spec

end AgentOperator
