import AgentOperator.Manifest.ConfigMap
import AgentOperator.Object.Kind

/-!
# Workloads

The object that runs the pods of an agent. Its three forms share one pod
template and differ in what is wrapped around it.
-/

namespace AgentOperator

structure ContainerPort where
  name : String
  containerPort : Int
  protocol : Protocol
deriving DecidableEq, Inhabited

structure Container where
  image : String
  imagePullPolicy : Option String
  env : List EnvVar
  ports : List ContainerPort
  resources : Option Resources
deriving DecidableEq, Inhabited

/-- A key of a config map that pods see as a file. -/
structure ConfigFile where
  configMap : String
  key : String
deriving DecidableEq, Inhabited

structure PodTemplate where
  labels : Dict String
  annotations : Dict String
  accountName : String
  container : Container
  files : List ConfigFile
  hostNetwork : Bool
  nodeSelector : Dict String
  tolerations : List Toleration
  priorityClassName : Option String
deriving DecidableEq, Inhabited

/-- What is wrapped around the pods of a workload. -/
inductive WorkloadForm
  | deployment (replicas : Int32)
  | statefulSet (replicas : Int32) (serviceName : String)
  | daemonSet
deriving DecidableEq, Inhabited

structure Workload where
  metadata : Metadata
  form : WorkloadForm
  selector : Dict String
  template : PodTemplate
deriving DecidableEq, Inhabited

def containerName : String := "cloudwatch-agent"

def configVolume : String := "cwagentconfig"

def configMountPath : String := "/etc/cwagentconfig"

namespace ContainerPort

def ofPort (p : Port) : ContainerPort :=
  { name := p.name, containerPort := p.containerPort, protocol := p.protocol }

def toJson (p : ContainerPort) : Json :=
  .mkObj [
    ("containerPort", .int p.containerPort),
    ("name", .str p.name),
    ("protocol", .str p.protocol.name)]

end ContainerPort

namespace Container

/-- The variables that every agent has, by which it knows where it runs. -/
def standardEnv : List EnvVar :=
  [.ofField "K8S_NODE_NAME" "spec.nodeName", .ofField "HOST_IP" "status.hostIP",
    .ofField "HOST_NAME" "spec.nodeName", .ofField "K8S_NAMESPACE" "metadata.namespace"]

def ofContext (c : Context) : Container :=
  let spec := c.agent.spec
  { image := c.image
    imagePullPolicy := spec.imagePullPolicy
    env := standardEnv ++ spec.env
    ports := c.ports.map ContainerPort.ofPort
    resources := spec.resources }

def toJson (k : Container) : Json :=
  .ofPresent [
    ("env", some (.ofList EnvVar.toJson k.env)),
    ("image", some (.str k.image)),
    ("imagePullPolicy", k.imagePullPolicy.map .str),
    ("name", some (.str containerName)),
    ("ports", Json.nonEmptyList ContainerPort.toJson k.ports),
    ("resources", k.resources.map Resources.toJson),
    ("volumeMounts", some (.arr [.mkObj [
      ("mountPath", .str configMountPath), ("name", .str configVolume)]]))]

end Container

namespace ConfigFile

def toJson (f : ConfigFile) : Json :=
  .mkObj [("configMap", .mkObj [
    ("items", .arr [.mkObj [("key", .str f.key), ("path", .str f.key)]]),
    ("name", .str f.configMap)])]

end ConfigFile

namespace PodTemplate

/-- The annotations of pods: those that are handed on, those for pods, and over
them the digest of the configuration and where to read what the agent reports. -/
def annotationsOf (c : Context) : Dict String :=
  ((((c.annotations.merge c.agent.spec.podAnnotations).insert
    configHashKey c.agent.configHash).insert
    "prometheus.io/scrape" "true").insert
    "prometheus.io/port" (toString c.monitoringPort)).insert
    "prometheus.io/path" "/metrics"

def filesOf (c : Context) : List ConfigFile :=
  ⟨c.name, agentConfigKey⟩ ::
    match c.pipelines? with
    | some _ => [⟨c.childName "otel", otelConfigKey⟩]
    | none => []

def ofContext (c : Context) : PodTemplate :=
  let spec := c.agent.spec
  { labels := c.labels c.name agentComponent
    annotations := annotationsOf c
    accountName := c.accountName
    container := .ofContext c
    files := filesOf c
    hostNetwork := spec.hostNetwork
    nodeSelector := spec.nodeSelector
    tolerations := spec.tolerations
    priorityClassName := spec.priorityClassName }

def toJson (t : PodTemplate) : Json :=
  .mkObj [
    ("metadata", .mkObj [
      ("annotations", .ofDict .str t.annotations),
      ("labels", .ofDict .str t.labels)]),
    ("spec", .ofPresent [
      ("containers", some (.arr [t.container.toJson])),
      ("dnsPolicy", if t.hostNetwork then some (.str "ClusterFirstWithHostNet") else none),
      ("hostNetwork", if t.hostNetwork then some (.bool true) else none),
      ("nodeSelector", Json.nonEmptyDict t.nodeSelector),
      ("priorityClassName", t.priorityClassName.map .str),
      ("serviceAccountName", some (.str t.accountName)),
      ("tolerations", Json.nonEmptyList Toleration.toJson t.tolerations),
      ("volumes", some (.arr [.mkObj [
        ("name", .str configVolume),
        ("projected", .mkObj [("sources", .ofList ConfigFile.toJson t.files)])]]))])]

end PodTemplate

namespace WorkloadForm

def kind : WorkloadForm → Kind
  | deployment _ => .deployment
  | statefulSet .. => .statefulSet
  | daemonSet => .daemonSet

/-- The form of the workload of a mode, if it has one. -/
def ofMode? (c : Context) : Mode → Option WorkloadForm
  | .deployment => some (deployment c.agent.spec.replicas)
  | .statefulSet => some (statefulSet c.agent.spec.replicas (c.childName "headless"))
  | .daemonSet => some daemonSet
  | .sidecar => none

def fields : WorkloadForm → List (String × Json)
  | deployment replicas => [("replicas", .ofInt32 replicas)]
  | statefulSet replicas serviceName =>
    [("podManagementPolicy", .str "Parallel"), ("replicas", .ofInt32 replicas),
      ("serviceName", .str serviceName)]
  | daemonSet => []

end WorkloadForm

namespace Workload

def ofForm (c : Context) (form : WorkloadForm) : Workload :=
  { metadata := c.metadata c.name agentComponent ∅
    form
    selector := c.agent.selectorLabels
    template := .ofContext c }

/-- The workload of an agent, if its mode has one. -/
def ofContext? (c : Context) : Option Workload :=
  (WorkloadForm.ofMode? c c.mode).map (ofForm c)

def selectorJson (labels : Dict String) : Json :=
  .mkObj [("matchLabels", .ofDict .str labels)]

def body (w : Workload) : Json :=
  .mkObj [("spec", .mkObj (w.form.fields ++ [
    ("selector", selectorJson w.selector),
    ("template", w.template.toJson)]))]

end Workload

end AgentOperator
