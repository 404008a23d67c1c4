import AgentOperator.Json.Reader
import AgentOperator.Port.Address
import AgentOperator.Port.Basic

/-!
# Families of receivers

Each family of receivers owns a block of the agent's configuration. A block that
is present asks for the ports of its family; those of the usual families are at
the addresses that the block names, or else at the usual ones. The families are
read in the order of a table, so that the earlier of two that want one port gets
it.
-/

namespace AgentOperator

/-- A family of receivers: a row of the table. -/
structure Family where
  tag : String
  /-- Where the block of the family may stand; the first place that has one counts. -/
  paths : List (List String)
  /-- The groups of ports that a block asks for, given the tag of the family. -/
  parse : Json → String → List PortGroup
deriving Inhabited

namespace Family

/-- The block at a path of fields; null counts as absent. -/
def block? (document : Json) (path : List String) : Option Json :=
  (path.foldlM Json.field? document).filter fun block => !block.isNull

/-- The port of the address that a block names at a key, or a usual one. -/
def addressPort (block : Json) (key : String) (usual : Int) : Int :=
  match ((block.field? key).bind Json.str?).bind Port.ofAddress? with
  | some n => n
  | none => usual

def port (tag name : String) (number : Int) (protocol : Protocol) : Port :=
  { name, number, protocol, feature := tag }

/-! ## The groups of a block -/

/-- Application signals are received at fixed ports. -/
def applicationSignalsGroups (_ : Json) (tag : String) : List PortGroup :=
  [[port tag "appsig-grpc" 4315 .tcp, port tag "appsig-http" 4316 .tcp,
    port tag "appsig-xray" 2000 .tcp]]

def statsdGroups (block : Json) (tag : String) : List PortGroup :=
  [[port tag "statsd" (addressPort block "service_address" 8125) .udp]]

def collectdGroups (block : Json) (tag : String) : List PortGroup :=
  [[port tag "collectd" (addressPort block "service_address" 25826) .udp]]

def jmxGroups (_ : Json) (tag : String) : List PortGroup :=
  [[port tag "jmx-http" 4314 .tcp]]

/-- The open protocol takes one port for each of its two transports, on its own. -/
def otlpGroups (block : Json) (tag : String) : List PortGroup :=
  [[port tag "otlp-grpc" (addressPort block "grpc_endpoint" 4317) .tcp],
    [port tag "otlp-http" (addressPort block "http_endpoint" 4318) .tcp]]

def emfGroups (block : Json) (tag : String) : List PortGroup :=
  let number := addressPort block "service_address" 25888
  [[port tag "emf-tcp" number .tcp, port tag "emf-udp" number .udp]]

def xrayGroups (block : Json) (tag : String) : List PortGroup :=
  let proxy := (block.field? "tcp_proxy").getD .null
  [[port tag "aws-traces" (addressPort block "bind_address" 2000) .udp,
    port tag "aws-proxy" (addressPort proxy "bind_address" 2000) .tcp]]

/-! ## The usual families -/

def applicationSignals : Family :=
  { tag := "application_signals"
    paths := [
      ["logs", "metrics_collected", "application_signals"],
      ["traces", "traces_collected", "application_signals"]]
    parse := applicationSignalsGroups }

def statsd : Family :=
  { tag := "statsd"
    paths := [["metrics", "metrics_collected", "statsd"]]
    parse := statsdGroups }

def collectd : Family :=
  { tag := "collectd"
    paths := [["metrics", "metrics_collected", "collectd"]]
    parse := collectdGroups }

def jmx : Family :=
  { tag := "jmx"
    paths := [["metrics", "metrics_collected", "jmx"]]
    parse := jmxGroups }

def otlpMetrics : Family :=
  { tag := "otlp-metrics"
    paths := [["metrics", "metrics_collected", "otlp"]]
    parse := otlpGroups }

def emf : Family :=
  { tag := "emf"
    paths := [["logs", "metrics_collected", "emf"]]
    parse := emfGroups }

def otlpLogs : Family :=
  { tag := "otlp-logs"
    paths := [["logs", "metrics_collected", "otlp"]]
    parse := otlpGroups }

def xray : Family :=
  { tag := "xray"
    paths := [["traces", "traces_collected", "xray"]]
    parse := xrayGroups }

def otlpTraces : Family :=
  { tag := "otlp-traces"
    paths := [["traces", "traces_collected", "otlp"]]
    parse := otlpGroups }

/-- The usual families in the order in which they are read. -/
def table : List Family :=
  [applicationSignals, statsd, collectd, jmx, otlpMetrics, emf, otlpLogs, xray, otlpTraces]

def ofTag? (tag : String) : Option Family :=
  table.find? fun family => family.tag == tag

/-! ## The groups of a configuration -/

def groups (family : Family) (block : Json) : List PortGroup :=
  family.parse block family.tag

/-- The groups that a family takes from a document: none, if its block is absent. -/
def groupsIn (family : Family) (document : Json) : List PortGroup :=
  match family.paths.findSome? (block? document) with
  | some block => family.groups block
  | none => []

def groupsOf (families : List Family) (document : Json) : List PortGroup :=
  families.flatMap fun family => family.groupsIn document

/-- The groups that the text of a configuration asks for; a text that is not JSON
asks for none. -/
def groupsOfText (families : List Family) (config : String) : List PortGroup :=
  match Json.read? config with
  | some document => groupsOf families document
  | none => []

end Family

end AgentOperator
