import AgentOperator.Agent.Spec
import AgentOperator.Object.Metadata

/-!
# Agents

The custom resource that asks for an agent: metadata, a spec, and the status
that was last reported.
-/

namespace AgentOperator

structure Agent where
  metadata : Metadata
  spec : Spec
  status : Option Status
deriving DecidableEq, Inhabited

namespace Agent

def group : String := "cloudwatch.aws.amazon.com"

def version : String := "v1alpha1"

def apiVersion : String := group ++ "/" ++ version

def kindName : String := "AmazonCloudWatchAgent"

def plural : String := "amazoncloudwatchagents"

def toJson (a : Agent) : Json :=
  .ofPresent [
    ("apiVersion", some (.str apiVersion)),
    ("kind", some (.str kindName)),
    ("metadata", some a.metadata.toJson),
    ("spec", some a.spec.toJson),
    ("status", a.status.map Status.toJson)]

/-- Read an agent; as an array it lists its status too, if only as null. -/
def ofJson? (json : Json) : Option Agent := do
  let r ← json.record? ["metadata", "spec", "status"] 3
  return {
    metadata := ← r.required? "metadata" Metadata.ofJson?
    spec := ← r.required? "spec" Spec.ofJson?
    status := ← r.optional? "status" Status.ofJson? }

/-- The name of an agent, or the stem of a generated one. -/
def name (a : Agent) : String := a.metadata.anyName

/-- The namespace of an agent, if it names one. -/
def namespaceName (a : Agent) : Option String := a.metadata.namespaceName

/-- The namespace that an agent is looked after in. -/
def home (a : Agent) : String := a.namespaceName.getD "default"

/-- The name that tells an agent from all others of the cluster. -/
def instanceName (a : Agent) : String := a.home ++ "." ++ a.name

end Agent

end AgentOperator
