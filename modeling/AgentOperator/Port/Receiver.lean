import AgentOperator.Port.Address
import AgentOperator.Port.Basic
import AgentOperator.Text.Blank
import AgentOperator.Yaml.Document

/-!
# Receivers of pipelines

A configuration of pipelines lists receivers by name; the type of a receiver is
the part of its name before a slash. Only receivers that some pipeline refers to
take ports, each of them on its own.
-/

namespace AgentOperator

namespace Receiver

open Yaml (Value)

def feature : String := "otel"

def singlePort : List (String × Int × Protocol) :=
  [("zipkin", 9411, .tcp), ("statsd", 8125, .udp), ("awsxray", 2000, .udp),
    ("fluentforward", 8006, .tcp), ("carbon", 2003, .tcp), ("collectd", 8081, .tcp)]

def perProtocol : List (String × String × Int × Protocol) :=
  [("otlp", "grpc", 4317, .tcp), ("otlp", "http", 4318, .tcp),
    ("jaeger", "grpc", 14250, .tcp), ("jaeger", "thrift_http", 14268, .tcp),
    ("jaeger", "thrift_compact", 6831, .udp), ("jaeger", "thrift_binary", 6832, .udp)]

def typeOf (name : String) : String :=
  String.ofList (name.toList.takeWhile fun c => c ≠ '/')

def replaceChar (old new : Char) (s : String) : String :=
  String.ofList (s.toList.map fun c => if c = old then new else c)

def endpointPort? (block : Value) : Option Int :=
  (((block.get? "endpoint").bind Value.str?).bind Port.ofAddress?).map fun n => (n : Int)

def port (name : String) (number : Int) (protocol : Protocol) : Port :=
  { name, number, protocol, feature }

/-- The ports that a receiver takes. One that is not known takes the port of its
endpoint, if it names one. -/
def ports (name : String) (config : Value) : List Port :=
  let kind := typeOf name
  let base := replaceChar '/' '-' name
  match perProtocol.filter fun row => row.1 == kind with
  | row :: rows =>
    match config.get? "protocols" with
    | none => []
    | some protocols =>
      (row :: rows).filterMap fun (_, protocol, usual, transport) =>
        (protocols.get? protocol).map fun block =>
          port (base ++ "-" ++ replaceChar '_' '-' protocol)
            ((endpointPort? block).getD usual) transport
  | [] =>
    match singlePort.find? fun row => row.1 == kind with
    | some (_, usual, transport) => [port base ((endpointPort? config).getD usual) transport]
    | none =>
      match endpointPort? config with
      | some number => [port base number .tcp]
      | none => []

def enabled (document : Value) : List String :=
  match (document.at? ["service", "pipelines"]).bind Value.map? with
  | none => []
  | some pipelines =>
    pipelines.flatMap fun entry =>
      (((entry.2.get? "receivers").bind Value.seq?).getD []).filterMap Value.str?

def groupsOf (document : Value) : List PortGroup :=
  match (document.get? "receivers").bind Value.map? with
  | none => []
  | some receivers =>
    let names := enabled document
    receivers.flatMap fun entry =>
      match entry.1.str? with
      | none => []
      | some name =>
        if names.contains name then (ports name entry.2).map fun p => [p] else []

/-- The groups of ports that a text of pipelines asks for; one that is not YAML
asks for none. -/
def groupsOfText (text : String) : List PortGroup :=
  match Yaml.read? text with
  | some document => groupsOf document
  | none => []

/-- The port at which an agent reports about itself where it names none. -/
def defaultMonitoringPort : Int := 8888

def monitoringPortOf? (document : Value) : Option Int :=
  (((document.at? ["service", "telemetry", "metrics", "address"]).bind Value.str?).bind
    Port.ofAddress?).map fun n => (n : Int)

/-- The port at which an agent reports about itself. -/
def monitoringPort (otel : Option String) : Int :=
  (((Text.given? otel).bind Yaml.read?).bind monitoringPortOf?).getD defaultMonitoringPort

end Receiver

end AgentOperator
