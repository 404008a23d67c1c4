import AgentOperator.Manifest.Labels

/-!
# Config maps and service accounts

The config maps that hold the agent's configuration and that of its pipelines,
and the account that its pods run as.
-/

namespace AgentOperator

structure ConfigMap where
  metadata : Metadata
  data : Dict String
deriving DecidableEq, Inhabited

structure ServiceAccount where
  metadata : Metadata
deriving DecidableEq, Inhabited

def agentConfigKey : String := "cwagentconfig.json"

def otelConfigKey : String := "cwagentotelconfig.yaml"

namespace ConfigMap

def single (c : Context) (name key value : String) : ConfigMap :=
  { metadata := c.metadata name agentComponent ∅
    data := .ofList [(key, value)] }

def agent (c : Context) : ConfigMap := single c c.name agentConfigKey c.agent.spec.config

/-- The config map of the pipelines, when there are any. -/
def pipelines? (c : Context) : Option ConfigMap :=
  c.pipelines?.map fun text => single c (c.childName "otel") otelConfigKey text

def body (m : ConfigMap) : Json := .mkObj [("data", .ofDict .str m.data)]

end ConfigMap

namespace Context

/-- The service account that the agent names, if it names one. -/
def givenAccount? (c : Context) : Option String :=
  c.agent.spec.serviceAccount.filter fun name => name ≠ ""

def accountName (c : Context) : String := c.givenAccount?.getD c.name

end Context

namespace ServiceAccount

/-- The service account of the agent, unless it names one. -/
def generated? (c : Context) : Option ServiceAccount :=
  match c.givenAccount? with
  | some _ => none
  | none => some { metadata := c.metadata c.accountName agentComponent ∅ }

end ServiceAccount

end AgentOperator
