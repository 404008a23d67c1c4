import AgentOperator.Json.Record

/-!
# Choices of an agent

The settings of an agent that are one of a few names: how it is deployed, the
transport of a port, and how its ports are reached from outside.
-/

namespace AgentOperator

inductive Mode
  /-- Replicas without identity behind a service. -/
  | deployment
  /-- Replicas with stable identities. -/
  | statefulSet
  /-- One agent on each node. -/
  | daemonSet
  /-- Injected into the pods of applications, without a workload of its own. -/
  | sidecar
deriving DecidableEq, Repr, Inhabited

namespace Mode

def name : Mode → String
  | deployment => "Deployment"
  | statefulSet => "StatefulSet"
  | daemonSet => "DaemonSet"
  | sidecar => "Sidecar"

def ofJson? : Json → Option Mode :=
  Json.choice? ([deployment, statefulSet, daemonSet, sidecar].map fun m => (m.name, m))

end Mode

/-- The transport of a port, in the order in which ports of one number are listed. -/
inductive Protocol
  | tcp
  | udp
  | sctp
deriving DecidableEq, Repr, Inhabited

namespace Protocol

def name : Protocol → String
  | tcp => "TCP"
  | udp => "UDP"
  | sctp => "SCTP"

/-- The position of a protocol in the order. -/
def index : Protocol → Nat
  | tcp => 0
  | udp => 1
  | sctp => 2

def ofJson? : Json → Option Protocol :=
  Json.choice? ([tcp, udp, sctp].map fun p => (p.name, p))

/-- Each position in the order is that of one value. -/
theorem index_injective {a b : Protocol} : a.index = b.index → a = b := by
  cases a <;> cases b <;> simp [index]

end Protocol

/-- The kind of object that carries traffic from outside. -/
inductive Exposure
  | ingress
  /-- One route for each port. -/
  | route
deriving DecidableEq, Repr, Inhabited

namespace Exposure

def name : Exposure → String
  | ingress => "Ingress"
  | route => "Route"

def ofJson? : Json → Option Exposure :=
  Json.choice? ([ingress, route].map fun e => (e.name, e))

end Exposure

inductive RuleType
  /-- By a path of one host. -/
  | path
  /-- By a host of its own below one host. -/
  | subdomain
deriving DecidableEq, Repr, Inhabited

namespace RuleType

def name : RuleType → String
  | path => "Path"
  | subdomain => "Subdomain"

def ofJson? : Json → Option RuleType :=
  Json.choice? ([path, subdomain].map fun t => (t.name, t))

end RuleType

end AgentOperator
