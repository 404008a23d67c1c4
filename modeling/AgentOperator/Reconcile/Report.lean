import AgentOperator.Cluster
import AgentOperator.Manifest.Workload

/-!
# Reporting the status of an agent

The status is read off the live workload: its replicas, its selector and its
image. It is written only when it differs from the one the agent already has.
-/

namespace AgentOperator

/-- The kind of the workload of a mode, if it has one. -/
def Mode.workloadKind? : Mode → Option Kind
  | .deployment => some .deployment
  | .statefulSet => some .statefulSet
  | .daemonSet => some .daemonSet
  | .sidecar => none

/-- The number of 32 bits at a path of the body; anything else counts as zero. -/
def Object.count (o : Object) (path : Json.Path) : Int32 :=
  ((o.body.at? path).bind Json.int32?).getD 0

/-- The selector of a live workload, if it has one: each label that has a text, in
key order. -/
def Object.selectorText? (o : Object) : Option String :=
  ((o.body.at? ["spec", "selector", "matchLabels"]).bind Json.obj?).map fun fields =>
    let labels := fields.filterMap fun entry => entry.2.str?.map (entry.1, ·)
    let sorted := labels.mergeSort fun a b => a.1 ≤ b.1
    String.intercalate "," (sorted.map fun entry => entry.1 ++ "=" ++ entry.2)

/-- The image of a live workload's first container, if it has one. -/
def Object.image? (o : Object) : Option String :=
  (o.body.at? ["spec", "template", "spec", "containers", "0", "image"]).bind Json.str?

/-- The replicas of a workload, and those of them that are ready. -/
def Object.replicaCounts (kind : Kind) (o : Object) : Int32 × Int32 :=
  match kind with
  | .daemonSet =>
    (o.count ["status", "desiredNumberScheduled"], o.count ["status", "numberReady"])
  | _ => (o.count ["status", "replicas"], o.count ["status", "readyReplicas"])

namespace Status

def ofScale (image : String) (replicas ready : Int32) (selector : String) : Status :=
  { version := imageVersion image
    image
    scale := {
      replicas
      statusReplicas := toString ready.toInt ++ "/" ++ toString replicas.toInt
      selector } }

def withoutWorkload (c : Context) : Status := ofScale c.image 0 0 ""

/-- The status of an agent, from its live workload if there is one. -/
def ofWorkload (c : Context) (kind : Kind) (live : Option Object) : Status :=
  let selector := selectorText c.agent.selectorLabels
  match live with
  | none => ofScale c.image 0 0 selector
  | some object =>
    let (replicas, ready) := object.replicaCounts kind
    ofScale (object.image?.getD c.image) replicas ready (object.selectorText?.getD selector)

end Status

section

variable {σ : Type} (cluster : Cluster σ)

def computeStatus (c : Context) : Action σ Status :=
  match c.mode.workloadKind? with
  | none => return Status.withoutWorkload c
  | some kind => do
    let live ← cluster.get kind c.namespaceName c.name
    return Status.ofWorkload c kind live

/-- Write the status of an agent unless it is what the agent already reports;
the answer is whether it was written. -/
def reportStatus (agent : Agent) (status : Status) : Action σ Bool :=
  if agent.status = some status then return false
  else do
    cluster.patchStatus agent status
    return true

end

end AgentOperator
