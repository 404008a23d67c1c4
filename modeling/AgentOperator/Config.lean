import AgentOperator.Text.Glob

/-!
# Configuration of the operator

What holds for every agent: the image that is used where an agent names none,
and the filters for labels and annotations that are not handed on.
-/

namespace AgentOperator

/-- The image that is used where none is configured. -/
def defaultAgentImage : String :=
  "public.ecr.aws/cloudwatch-agent/cloudwatch-agent:1.300044.0"

def managerName : String := "cwagent-operator"

/-- The patterns of keys that are not handed on from an agent to its objects. -/
structure Filters where
  labels : List Text.Pattern := []
  annotations : List Text.Pattern := []
deriving DecidableEq, Inhabited

namespace Filters

def dropsLabel (f : Filters) (key : String) : Bool := Text.anyMatches f.labels key

def dropsAnnotation (f : Filters) (key : String) : Bool :=
  Text.anyMatches f.annotations key

end Filters

structure OperatorConfig where
  image : String := defaultAgentImage
  filters : Filters := {}
deriving DecidableEq, Inhabited

namespace OperatorConfig

/-- The configuration with an image and globs as they are given; an empty image
counts as none. -/
def ofSettings (image : Option String) (labels annotations : List String) :
    OperatorConfig :=
  { image := (image.filter fun i => i ≠ "").getD defaultAgentImage
    filters := {
      labels := Text.readGlobs labels
      annotations := Text.readGlobs annotations } }

end OperatorConfig

end AgentOperator
