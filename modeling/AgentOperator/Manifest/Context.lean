import AgentOperator.Agent.Basic
import AgentOperator.Config
import AgentOperator.Port.Resolver

/-!
# What objects are built from

Every object of an agent is a function of the agent, the configuration of the
operator, and the ports that were resolved from the agent's configuration.
-/

namespace AgentOperator

structure Context where
  agent : Agent
  config : OperatorConfig
  ports : List Port
  monitoringPort : Int
deriving Inhabited

namespace Context

def ofAgent (agent : Agent) (config : OperatorConfig) (families : List Family) : Context :=
  let spec := agent.spec
  { agent
    config
    ports := Port.resolve families spec.config spec.otelConfig spec.ports
    monitoringPort := Receiver.monitoringPort spec.otelConfig }

def name (c : Context) : String := c.agent.name

/-- The namespace of the agent, if it names one. -/
def namespaceName (c : Context) : Option String := c.agent.namespaceName

def mode (c : Context) : Mode := c.agent.spec.mode

/-- The image of the agent, or the operator's when it names none. -/
def image (c : Context) : String :=
  (c.agent.spec.image.filter fun i => i ≠ "").getD c.config.image

def childName (c : Context) (suffix : String) : String := c.name ++ "-" ++ suffix

/-- The configuration of pipelines, when one is given that is not blank. -/
def pipelines? (c : Context) : Option String := Text.given? c.agent.spec.otelConfig

end Context

end AgentOperator
