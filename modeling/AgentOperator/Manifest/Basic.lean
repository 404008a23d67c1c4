import AgentOperator.Manifest.Ingress
import AgentOperator.Manifest.Scaling
import AgentOperator.Manifest.Service
import AgentOperator.Object.Basic

/-!
# Manifests

The objects that an agent is made of, in the order in which they are applied:
the workload first, then its configuration, account and services, and then what
was asked for beside them.
-/

namespace AgentOperator

inductive Manifest
  | workload (w : Workload)
  | configMap (m : ConfigMap)
  | serviceAccount (a : ServiceAccount)
  | service (s : Service)
  | ingress (i : Ingress)
  | route (r : Route)
  | autoscaler (h : HorizontalAutoscaler)
  | podBudget (b : PodBudget)
deriving DecidableEq, Inhabited

namespace Manifest

def kind : Manifest → Kind
  | workload w => w.form.kind
  | configMap _ => .configMap
  | serviceAccount _ => .serviceAccount
  | service _ => .service
  | ingress _ => .ingress
  | route _ => .route
  | autoscaler _ => .horizontalPodAutoscaler
  | podBudget _ => .podDisruptionBudget

def metadata : Manifest → Metadata
  | workload w => w.metadata
  | configMap m => m.metadata
  | serviceAccount a => a.metadata
  | service s => s.metadata
  | ingress i => i.metadata
  | route r => r.metadata
  | autoscaler h => h.metadata
  | podBudget b => b.metadata

def body : Manifest → Json
  | workload w => w.body
  | configMap m => m.body
  | serviceAccount _ => .empty
  | service s => s.body
  | ingress i => i.body
  | route r => r.body
  | autoscaler h => h.body
  | podBudget b => b.body

def desired (m : Manifest) : Desired :=
  { kind := m.kind
    object := {
      types := some ⟨m.kind.apiVersion, m.kind.name⟩
      metadata := m.metadata
      body := m.body } }

def allOfContext (c : Context) : List Manifest :=
  ((Workload.ofContext? c).map workload).toList ++
    [configMap (.agent c)] ++
    ((ConfigMap.pipelines? c).map configMap).toList ++
    ((ServiceAccount.generated? c).map serviceAccount).toList ++
    ((Service.receivers? c).map service).toList ++
    ((Service.headless? c).map service).toList ++
    [service (.monitoring c)] ++
    ((Ingress.ofContext? c).map ingress).toList ++
    (Route.allOfContext c).map route ++
    ((HorizontalAutoscaler.ofContext? c).map autoscaler).toList ++
    ((PodBudget.ofContext? c).map podBudget).toList

end Manifest

namespace Context

def desired (c : Context) : List Desired := (Manifest.allOfContext c).map Manifest.desired

end Context

end AgentOperator
