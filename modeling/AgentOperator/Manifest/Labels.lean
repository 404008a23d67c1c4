import AgentOperator.Digest.Sha256
import AgentOperator.Manifest.Context

/-!
# Labels, annotations and owners

What every object of an agent carries in its metadata: the labels by which it is
found again, the labels and annotations that are handed on from the agent, and
the reference to the agent that owns it.
-/

namespace AgentOperator

def nameLabel : String := "app.kubernetes.io/name"

def instanceLabel : String := "app.kubernetes.io/instance"

def managedByLabel : String := "app.kubernetes.io/managed-by"

def partOfLabel : String := "app.kubernetes.io/part-of"

def componentLabel : String := "app.kubernetes.io/component"

def versionLabel : String := "app.kubernetes.io/version"

def productName : String := "amazon-cloudwatch-agent"

def agentComponent : String := "amazon-cloudwatch-agent"

def monitoringComponent : String := "amazon-cloudwatch-agent-monitoring"

def configHashKey : String := "cloudwatch-agent-operator-config/sha256"

/-- The text of a selector: each label with its value, in key order. -/
def selectorText (labels : Dict String) : String :=
  String.intercalate "," (labels.entries.map fun entry => entry.1 ++ "=" ++ entry.2)

/-- The version that an image reference names: its tag, without registry, path
and digest, or else `latest`. -/
def imageVersion (image : String) : String :=
  let reference := image.toList.takeWhile fun c => c ≠ '@'
  let name := (reference.reverse.takeWhile fun c => c ≠ '/').reverse
  match name.dropWhile fun c => c ≠ ':' with
  | _ :: c :: rest => String.ofList (c :: rest)
  | _ => "latest"

namespace Agent

def ownershipSelector (a : Agent) : String :=
  managedByLabel ++ "=" ++ managerName ++ "," ++ instanceLabel ++ "=" ++ a.instanceName

/-- The labels that select the pods of an agent. They never change, since a
selector cannot. -/
def selectorLabels (a : Agent) : Dict String :=
  .ofList [
    (managedByLabel, managerName),
    (instanceLabel, a.instanceName),
    (partOfLabel, productName),
    (componentLabel, agentComponent)]

/-- The labels of an object: those of the agent that are not filtered out, and
over them the operator's own. -/
def objectLabels (a : Agent) (filters : Filters) (name image component : String) :
    Dict String :=
  let own := (a.metadata.labels.getD ∅).filterKeys fun key => !filters.dropsLabel key
  (((own.merge a.selectorLabels).insert componentLabel component).insert nameLabel name).insert
    versionLabel (imageVersion image)

/-- The annotations of the agent that are not filtered out. -/
def handedAnnotations (a : Agent) (filters : Filters) : Dict String :=
  (a.metadata.annotations.getD ∅).filterKeys fun key => !filters.dropsAnnotation key

/-- The text of which the digest is taken: the configuration, and behind a mark
that of the pipelines. -/
def hashedText (a : Agent) : String :=
  match a.spec.otelConfig with
  | none => a.spec.config
  | some otel => a.spec.config ++ "\n---\n" ++ otel

def configHash (a : Agent) : String := Digest.sha256Text a.hashedText

def ownerReference (a : Agent) : OwnerReference :=
  { apiVersion
    kind := kindName
    name := a.name
    uid := a.metadata.uid.getD ""
    controller := some true
    blockOwnerDeletion := some true }

end Agent

namespace Context

def labels (c : Context) (name component : String) : Dict String :=
  c.agent.objectLabels c.config.filters name c.image component

def annotations (c : Context) : Dict String :=
  c.agent.handedAnnotations c.config.filters

/-- The metadata of an object of the agent, with annotations of its own over
those that are handed on. -/
def metadata (c : Context) (name component : String) (extra : Dict String) : Metadata :=
  let annotations := c.annotations.merge extra
  { name := some name
    namespaceName := c.namespaceName
    labels := some (c.labels name component)
    annotations := if annotations.isEmpty then none else some annotations }

end Context

end AgentOperator
