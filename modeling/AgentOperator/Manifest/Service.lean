import AgentOperator.Manifest.Labels

/-!
# Services

The service that exposes the receivers of an agent, its twin without an address
of its own, and the service for what the agent reports about itself.
-/

namespace AgentOperator

structure ServicePort where
  name : String
  port : Int
  protocol : Protocol
  targetPort : Int
deriving DecidableEq, Inhabited

structure Service where
  metadata : Metadata
  selector : Dict String
  ports : List ServicePort
  /-- Whether the service has no address of its own. -/
  headless : Bool := false
  trafficPolicy : Option String := none
deriving DecidableEq, Inhabited

namespace ServicePort

def ofPort (p : Port) : ServicePort :=
  { name := p.name, port := p.number, protocol := p.protocol, targetPort := p.containerPort }

def toJson (p : ServicePort) : Json :=
  .mkObj [
    ("name", .str p.name),
    ("port", .int p.port),
    ("protocol", .str p.protocol.name),
    ("targetPort", .int p.targetPort)]

end ServicePort

namespace Service

/-- The annotation that asks for a certificate of a service. -/
def servingCertKey : String := "service.beta.openshift.io/serving-cert-secret-name"

/-- The name of the port for what an agent reports about itself. -/
def monitoringPortName : String := "monitoring"

def portsOf (c : Context) : List ServicePort := c.ports.map ServicePort.ofPort

/-- Which pods traffic from inside the cluster goes to. -/
def trafficPolicyOf : Mode → String
  | .daemonSet => "Local"
  | _ => "Cluster"

/-- The service that exposes the receivers, if there are ports. -/
def receivers? (c : Context) : Option Service :=
  if c.ports.isEmpty then none
  else
    some {
      metadata := c.metadata c.name agentComponent ∅
      selector := c.agent.selectorLabels
      ports := portsOf c
      trafficPolicy := some (trafficPolicyOf c.mode) }

/-- The service without an address, by which each pod has a name of its own.
Replicas with identities need it even without ports. -/
def headless? (c : Context) : Option Service :=
  if c.ports.isEmpty ∧ c.mode ≠ .statefulSet then none
  else
    let name := c.childName "headless"
    some {
      metadata :=
        c.metadata name agentComponent (.ofList [(servingCertKey, name ++ "-tls")])
      selector := c.agent.selectorLabels
      ports := portsOf c
      headless := true }

/-- The service for what the agent reports about itself. -/
def monitoring (c : Context) : Service :=
  { metadata := c.metadata (c.childName "monitoring") monitoringComponent ∅
    selector := c.agent.selectorLabels
    ports := [{
      name := monitoringPortName
      port := c.monitoringPort
      protocol := .tcp
      targetPort := c.monitoringPort }] }

def body (s : Service) : Json :=
  .mkObj [("spec", .ofPresent [
    ("clusterIP", if s.headless then some (.str "None") else none),
    ("internalTrafficPolicy", s.trafficPolicy.map .str),
    ("ports", Json.nonEmptyList ServicePort.toJson s.ports),
    ("selector", some (.ofDict .str s.selector))])]

end Service

end AgentOperator
