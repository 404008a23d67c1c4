import AgentOperator.Json.Pointer

/-!
# Kinds of objects

The kinds of objects that are managed for an agent: where the API serves them,
whether they live in a namespace, and which of their fields cannot change once
they exist.
-/

namespace AgentOperator

/-- A kind of managed object, in the order in which stored objects are listed. -/
inductive Kind
  | configMap
  | serviceAccount
  | service
  | deployment
  | statefulSet
  | daemonSet
  | ingress
  | route
  | horizontalPodAutoscaler
  | podDisruptionBudget
  | clusterRole
  | clusterRoleBinding
deriving DecidableEq, Repr, Inhabited

namespace Kind

/-- Every kind, in order. -/
def all : List Kind :=
  [configMap, serviceAccount, service, deployment, statefulSet, daemonSet, ingress, route,
    horizontalPodAutoscaler, podDisruptionBudget, clusterRole, clusterRoleBinding]

/-- The kinds that live in a namespace, in the order in which they are listed to
find what an agent owns. -/
def namespaced : List Kind :=
  [configMap, serviceAccount, service, deployment, statefulSet, daemonSet, ingress, route,
    horizontalPodAutoscaler, podDisruptionBudget]

/-- The position of a kind in the order. -/
def index : Kind → Nat
  | configMap => 0
  | serviceAccount => 1
  | service => 2
  | deployment => 3
  | statefulSet => 4
  | daemonSet => 5
  | ingress => 6
  | route => 7
  | horizontalPodAutoscaler => 8
  | podDisruptionBudget => 9
  | clusterRole => 10
  | clusterRoleBinding => 11

def name : Kind → String
  | configMap => "ConfigMap"
  | serviceAccount => "ServiceAccount"
  | service => "Service"
  | deployment => "Deployment"
  | statefulSet => "StatefulSet"
  | daemonSet => "DaemonSet"
  | ingress => "Ingress"
  | route => "Route"
  | horizontalPodAutoscaler => "HorizontalPodAutoscaler"
  | podDisruptionBudget => "PodDisruptionBudget"
  | clusterRole => "ClusterRole"
  | clusterRoleBinding => "ClusterRoleBinding"

def ofName? (name : String) : Option Kind :=
  all.find? fun kind => kind.name == name

/-- The API group; the core group has no name. -/
def group : Kind → String
  | configMap | serviceAccount | service => ""
  | deployment | statefulSet | daemonSet => "apps"
  | ingress => "networking.k8s.io"
  | route => "route.openshift.io"
  | horizontalPodAutoscaler => "autoscaling"
  | podDisruptionBudget => "policy"
  | clusterRole | clusterRoleBinding => "rbac.authorization.k8s.io"

def version : Kind → String
  | horizontalPodAutoscaler => "v2"
  | _ => "v1"

def apiVersion (kind : Kind) : String :=
  if kind.group == "" then kind.version else kind.group ++ "/" ++ kind.version

def plural : Kind → String
  | configMap => "configmaps"
  | serviceAccount => "serviceaccounts"
  | service => "services"
  | deployment => "deployments"
  | statefulSet => "statefulsets"
  | daemonSet => "daemonsets"
  | ingress => "ingresses"
  | route => "routes"
  | horizontalPodAutoscaler => "horizontalpodautoscalers"
  | podDisruptionBudget => "poddisruptionbudgets"
  | clusterRole => "clusterroles"
  | clusterRoleBinding => "clusterrolebindings"

def isNamespaced : Kind → Bool
  | clusterRole | clusterRoleBinding => false
  | _ => true

/-- The fields of the body that the server refuses to change in place. -/
def immutableFields : Kind → List Json.Path
  | service => [["spec", "clusterIP"], ["spec", "clusterIPs"]]
  | deployment | daemonSet => [["spec", "selector"]]
  | statefulSet =>
    [["spec", "selector"], ["spec", "serviceName"], ["spec", "volumeClaimTemplates"],
      ["spec", "podManagementPolicy"]]
  | _ => []

theorem mem_all (kind : Kind) : kind ∈ all := by cases kind <;> decide

theorem mem_namespaced_iff {kind : Kind} : kind ∈ namespaced ↔ kind.isNamespaced = true := by
  cases kind <;> decide

/-- Each position in the order is that of one value. -/
theorem index_injective {a b : Kind} : a.index = b.index → a = b := by
  cases a <;> cases b <;> simp [index]

end Kind

end AgentOperator
