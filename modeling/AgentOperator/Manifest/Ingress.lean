import AgentOperator.Agent.Validation
import AgentOperator.Manifest.Labels

/-!
# Ingresses and routes

How the ports of an agent are reached from outside: by one ingress with a rule
for each port, or by a route for each port. A port has a path below one host, or
a host of its own.
-/

namespace AgentOperator

/-- A path of an ingress and the port of the service that it leads to. -/
structure IngressPath where
  path : String
  service : String
  portName : String
deriving DecidableEq, Inhabited

structure IngressRule where
  host : Option String
  paths : List IngressPath
deriving DecidableEq, Inhabited

structure Ingress where
  metadata : Metadata
  className : Option String
  rules : List IngressRule
  tlsSecretName : Option String
deriving DecidableEq, Inhabited

structure Route where
  metadata : Metadata
  host : Option String
  path : String
  service : String
  portName : String
  encrypted : Bool
deriving DecidableEq, Inhabited

namespace Context

/-- The settings for reaching the ports from outside by a kind of object, if
there are ports. -/
def exposure? (c : Context) (exposure : Exposure) : Option IngressSettings :=
  c.agent.spec.ingress.filter fun s => s.exposure = exposure ∧ !c.ports.isEmpty

end Context

def subdomain (p : Port) (host : String) : String := p.name ++ "." ++ host

namespace IngressPath

def ofPort (c : Context) (path : String) (p : Port) : IngressPath :=
  { path, service := c.name, portName := p.name }

def toJson (p : IngressPath) : Json :=
  .mkObj [
    ("backend", .mkObj [("service", .mkObj [
      ("name", .str p.service),
      ("port", .mkObj [("name", .str p.portName)])])]),
    ("path", .str p.path),
    ("pathType", .str "Prefix")]

end IngressPath

namespace IngressRule

def toJson (r : IngressRule) : Json :=
  .ofPresent [
    ("host", r.host.map .str),
    ("http", some (.mkObj [("paths", .ofList IngressPath.toJson r.paths)]))]

end IngressRule

namespace Ingress

/-- The rules for the ports of an agent; hosts of their own need a host above. -/
def rules? (c : Context) (s : IngressSettings) : Option (List IngressRule) :=
  match s.ruleType with
  | .path =>
    some [{
      host := s.host?
      paths := c.ports.map fun p => .ofPort c ("/" ++ p.name) p }]
  | .subdomain =>
    s.host?.map fun host =>
      c.ports.map fun p => { host := some (subdomain p host), paths := [.ofPort c "/" p] }

/-- The ingress of an agent, if it asks for one and has ports. -/
def ofContext? (c : Context) : Option Ingress :=
  (c.exposure? .ingress).bind fun s =>
    (rules? c s).map fun rules =>
      { metadata := c.metadata (c.childName "ingress") agentComponent s.annotations
        className := s.className
        rules
        tlsSecretName := s.tlsSecretName }

/-- The encryption of an ingress as it is written: the hosts and the secret. -/
def tlsJson (i : Ingress) (secret : String) : Json :=
  .arr [.ofPresent [
    ("hosts", Json.nonEmptyList .str (i.rules.filterMap IngressRule.host)),
    ("secretName", some (.str secret))]]

def body (i : Ingress) : Json :=
  .mkObj [("spec", .ofPresent [
    ("ingressClassName", i.className.map .str),
    ("rules", some (.ofList IngressRule.toJson i.rules)),
    ("tls", i.tlsSecretName.map i.tlsJson)])]

end Ingress

namespace Route

def ofPort (c : Context) (s : IngressSettings) (p : Port) : Route :=
  let host := s.hostname.getD ""
  let (host, path) :=
    match s.ruleType with
    | .path => (host, "/" ++ p.name)
    | .subdomain => (subdomain p host, "/")
  { metadata := c.metadata (c.childName p.name) agentComponent s.annotations
    host := if host = "" then none else some host
    path
    service := c.name
    portName := p.name
    encrypted := s.tlsSecretName.isSome }

/-- The routes of an agent, one for each port, if it asks for routes. -/
def allOfContext (c : Context) : List Route :=
  match c.exposure? .route with
  | some s => c.ports.map (ofPort c s)
  | none => []

def tlsJson : Json :=
  .mkObj [
    ("insecureEdgeTerminationPolicy", .str "Redirect"),
    ("termination", .str "edge")]

def body (r : Route) : Json :=
  .mkObj [("spec", .ofPresent [
    ("host", r.host.map .str),
    ("path", some (.str r.path)),
    ("port", some (.mkObj [("targetPort", .str r.portName)])),
    ("tls", if r.encrypted then some tlsJson else none),
    ("to", some (.mkObj [("kind", .str "Service"), ("name", .str r.service)])),
    ("wildcardPolicy", some (.str "None"))])]

end Route

end AgentOperator
