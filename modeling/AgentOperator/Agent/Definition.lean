import AgentOperator.Agent.Basic

/-!
# The definition of the custom resource

The definition under which a cluster serves agents, without the schema of their
fields.
-/

namespace AgentOperator.Agent

/-- A column that is shown when agents are listed. -/
def column (name type path : String) : Json :=
  .mkObj [("jsonPath", .str path), ("name", .str name), ("type", .str type)]

/-- The columns that are shown when agents are listed. -/
def columns : List Json := [
  column "Mode" "string" ".spec.mode",
  column "Version" "string" ".status.version",
  column "Ready" "string" ".status.scale.statusReplicas",
  column "Age" "date" ".metadata.creationTimestamp"]

/-- The parts of an agent that are served on their own: its scale and its status. -/
def subresources : Json :=
  .mkObj [
    ("scale", .mkObj [
      ("labelSelectorPath", .str ".status.scale.selector"),
      ("specReplicasPath", .str ".spec.replicas"),
      ("statusReplicasPath", .str ".status.scale.replicas")]),
    ("status", .empty)]

def definition : Json :=
  .mkObj [
    ("apiVersion", .str "apiextensions.k8s.io/v1"),
    ("kind", .str "CustomResourceDefinition"),
    ("metadata", .mkObj [("name", .str (plural ++ "." ++ group))]),
    ("spec", .mkObj [
      ("group", .str group),
      ("names", .mkObj [
        ("categories", .arr []),
        ("kind", .str kindName),
        ("plural", .str plural),
        ("shortNames", .arr [.str "cwagent"]),
        ("singular", .str "amazoncloudwatchagent")]),
      ("scope", .str "Namespaced"),
      ("versions", .arr [.mkObj [
        ("additionalPrinterColumns", .arr columns),
        ("name", .str version),
        ("served", .bool true),
        ("storage", .bool true),
        ("subresources", subresources)]])])]

end AgentOperator.Agent
