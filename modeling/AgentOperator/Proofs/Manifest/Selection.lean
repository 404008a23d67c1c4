import AgentOperator.Proofs.Manifest.Desired
import AgentOperator.Proofs.Store.Selector

/-!
# What selects what

The labels of a selector never change, and every object carries them whatever labels the
agent has and whatever is filtered out; only the component is the object's own.  So the
pods of a workload are selected by everything that is to select them, the selector of an
agent matches each of its objects, and that of another agent of its namespace matches
none.
-/

namespace AgentOperator

open Json (Path)

variable {c : Context} {d w : Desired} {key value : String} {path : Path}

/-! ## Labels -/

namespace Agent

/-- The labels of a selector with their values. -/
def selectorEntries (a : Agent) : List (String × String) :=
  [(managedByLabel, managerName), (instanceLabel, a.instanceName),
    (partOfLabel, productName), (componentLabel, agentComponent)]

theorem get?_selectorLabels {a : Agent} :
    a.selectorLabels.get? key = some value ↔ (key, value) ∈ a.selectorEntries := by
  constructor
  · intro hget
    exact Keyed.mem_of_mem_ofList (Dict.mem_of_get? hget)
  · intro hmem
    exact Keyed.get?_ofList_of_mem
      (by simp [managedByLabel, instanceLabel, partOfLabel, componentLabel]) hmem

theorem ne_of_mem_selectorEntries {a : Agent} (hmem : (key, value) ∈ a.selectorEntries) :
    key ≠ nameLabel ∧ key ≠ versionLabel := by
  simp only [selectorEntries, List.mem_cons, List.not_mem_nil, or_false, Prod.mk.injEq] at hmem
  rcases hmem with ⟨rfl, -⟩ | ⟨rfl, -⟩ | ⟨rfl, -⟩ | ⟨rfl, -⟩ <;> decide

/-- An object has the labels of the selector, but for a component of its own. -/
theorem get?_objectLabels {a : Agent} (hmem : (key, value) ∈ a.selectorEntries)
    (filters : Filters) (name image : String) {component : String}
    (hcomponent : key = componentLabel → value = component) :
    (a.objectLabels filters name image component).get? key = some value := by
  obtain ⟨hname, hversion⟩ := ne_of_mem_selectorEntries hmem
  unfold objectLabels
  rw [Dict.get?_insert_of_ne _ hversion, Dict.get?_insert_of_ne _ hname]
  by_cases hkey : key = componentLabel
  · rw [hkey, Dict.get?_insert_self, hcomponent hkey]
  · rw [Dict.get?_insert_of_ne _ hkey, Dict.get?_merge, get?_selectorLabels.mpr hmem]
    rfl

theorem get?_podLabels {a : Agent} (hget : a.selectorLabels.get? key = some value)
    (filters : Filters) (name image : String) :
    (a.objectLabels filters name image agentComponent).get? key = some value := by
  have hmem := get?_selectorLabels.mp hget
  apply get?_objectLabels hmem
  rintro rfl
  simpa [selectorEntries, managedByLabel, instanceLabel, partOfLabel, componentLabel] using hmem

end Agent

theorem Context.get?_labels (hd : d ∈ c.desired) (hmem : (key, value) ∈ c.agent.selectorEntries)
    (hkey : key ≠ componentLabel) : d.object.labels.get? key = some value := by
  obtain ⟨m, hm, rfl⟩ := List.mem_map.mp hd
  obtain ⟨name, component, extra, hmetadata⟩ := Manifest.metadata_isOf hm
  show (m.metadata.labels.getD ∅).get? key = _
  rw [hmetadata]
  exact Agent.get?_objectLabels hmem _ _ _ fun heq => absurd heq hkey

/-! ## Selectors of pods -/

/-- Where an object of the kind has the labels by which it selects pods. -/
def Kind.selectorPath? : Kind → Option Path
  | deployment | statefulSet | daemonSet | podDisruptionBudget =>
    some ["spec", "selector", "matchLabels"]
  | service => some ["spec", "selector"]
  | _ => none

def Kind.workloads : List Kind := [deployment, statefulSet, daemonSet]

/-- Where a workload has the labels of its pods. -/
def podLabelsPath : Path := ["spec", "template", "metadata", "labels"]

theorem Service.at?_selector (s : Service) :
    s.body.at? ["spec", "selector"] = some (.ofDict .str s.selector) := by
  simp [body]

theorem PodBudget.at?_selector (b : PodBudget) :
    b.body.at? ["spec", "selector", "matchLabels"] = some (.ofDict .str b.selector) := by
  simp [body, Workload.selectorJson]

theorem Workload.at?_matchLabels (w : Workload) :
    w.body.at? ["spec", "selector", "matchLabels"] = some (.ofDict .str w.selector) := by
  have hselector : w.body.at? ["spec", "selector"] =
      some (selectorJson w.selector) := w.at?_body_of_mem (by simp [specFields])
  show w.body.at? (["spec", "selector"] ++ ["matchLabels"]) = _
  rw [Json.at?_append, hselector]
  rfl

theorem PodTemplate.at?_labels (t : PodTemplate) :
    t.toJson.at? ["metadata", "labels"] = some (.ofDict .str t.labels) := by
  simp [toJson]

theorem Workload.at?_podLabels (w : Workload) :
    w.body.at? podLabelsPath = some (.ofDict .str w.template.labels) := by
  unfold podLabelsPath
  rw [w.at?_template]
  exact w.template.at?_labels

theorem Service.selector_eq {s : Service} (hs : .service s ∈ Manifest.allOfContext c) :
    s.selector = c.agent.selectorLabels := by
  rcases isMade_of_mem hs with hmade | hmade | hmade <;> exact hmade.selector

theorem PodBudget.selector_eq {b : PodBudget} (hb : .podBudget b ∈ Manifest.allOfContext c) :
    b.selector = c.agent.selectorLabels := by
  have hbudget : ofContext? c = some b := by
    simpa [Manifest.allOfContext] using hb
  unfold ofContext? at hbudget
  split at hbudget
  · simp at hbudget
  · obtain ⟨budget, -, rfl⟩ := Option.map_eq_some_iff.mp hbudget
    rfl

/-- Whatever selects pods selects them by the labels of the agent. -/
theorem Context.at?_selector (hd : d ∈ c.desired) (hpath : d.kind.selectorPath? = some path) :
    d.object.body.at? path = some (.ofDict .str c.agent.selectorLabels) := by
  obtain ⟨m, hm, rfl⟩ := List.mem_map.mp hd
  cases m with
  | workload w =>
      obtain ⟨form, -, rfl⟩ := Workload.exists_form hm
      have hworkload : form.kind.selectorPath? = some ["spec", "selector", "matchLabels"] := by
        cases form <;> rfl
      obtain rfl := Option.some.inj (hworkload.symm.trans hpath)
      exact Workload.at?_matchLabels _
  | service s =>
      obtain rfl := Option.some.inj hpath
      rw [← Service.selector_eq hm]
      exact s.at?_selector
  | podBudget b =>
      obtain rfl := Option.some.inj hpath
      rw [← PodBudget.selector_eq hm]
      exact b.at?_selector
  | _ => simp [Manifest.desired, Manifest.kind, Kind.selectorPath?] at hpath

theorem Context.at?_podLabels (hw : w ∈ c.desired) (hkind : w.kind ∈ Kind.workloads) :
    w.object.body.at? podLabelsPath = some (.ofDict .str (c.labels c.name agentComponent)) := by
  obtain ⟨m, hm, rfl⟩ := List.mem_map.mp hw
  cases m with
  | workload w =>
      obtain ⟨form, -, rfl⟩ := Workload.exists_form hm
      exact Workload.at?_podLabels _
  | _ => simp [Manifest.desired, Manifest.kind, Kind.workloads] at hkind

/-! ## Selectors of agents -/

theorem Context.isSelected_iff (hd : d ∈ c.desired) {other : Agent}
    (hname : ',' ∉ other.name.toList) (hhome : ',' ∉ other.home.toList) :
    Store.isSelected d.object other.ownershipSelector = true ↔
      c.agent.instanceName = other.instanceName := by
  have hmanaged : d.object.labels.get? managedByLabel = some managerName :=
    get?_labels hd (by simp [Agent.selectorEntries]) (by decide)
  have hinstance : d.object.labels.get? instanceLabel = some c.agent.instanceName :=
    get?_labels hd (by simp [Agent.selectorEntries]) (by decide)
  rw [Store.isSelected_ownershipSelector hname hhome, hmanaged, hinstance]
  simp

theorem Context.listed_of_mem {space : String} (hspace : c.namespaceName = some space)
    (hd : d ∈ c.desired) : d.kind ∈ Kind.namespaced ∧ d.namespaceName = some space := by
  obtain ⟨m, hm, rfl⟩ := List.mem_map.mp hd
  obtain ⟨name, hmetadata⟩ := Manifest.metadata_isOf hm
  exact ⟨Kind.mem_namespaced_iff.mpr isNamespaced_kind,
    hmetadata.namespaceName_eq.trans hspace⟩

theorem Agent.instanceName_ne {a b : Agent} (hhome : a.home = b.home) (hname : a.name ≠ b.name) :
    a.instanceName ≠ b.instanceName := by
  unfold instanceName
  rw [hhome]
  exact fun heq => hname ((String.append_right_inj _).mp heq)

/-- Everything that an agent is made of can be found again, and nobody else takes it for its
own.  What selects pods selects the pods of the agent's workload; every object is of a kind
that is listed, lives in the agent's namespace and is matched by the agent's selector; and
no selector of another agent of the namespace matches it. -/
theorem desired_is_discoverable {space : String} (hspace : c.namespaceName = some space)
    (hname : ',' ∉ c.name.toList) (hplain : ',' ∉ space.toList) :
    (∀ d ∈ c.desired, ∀ path, d.kind.selectorPath? = some path →
      ∃ selector, d.object.body.at? path = some (.ofDict .str selector) ∧
        ∀ w ∈ c.desired, w.kind ∈ Kind.workloads →
          ∃ labels, w.object.body.at? podLabelsPath = some (.ofDict .str labels) ∧
            ∀ key value, selector.get? key = some value → labels.get? key = some value) ∧
    (∀ d ∈ c.desired, d.kind ∈ Kind.namespaced ∧ d.namespaceName = some space ∧
      Store.isSelected d.object c.agent.ownershipSelector = true) ∧
    ∀ other : Agent, other.namespaceName = some space → other.name ≠ c.name →
      ',' ∉ other.name.toList → ∀ d ∈ c.desired,
        Store.isSelected d.object other.ownershipSelector = false := by
  have hhome : c.agent.home = space := Agent.home_eq hspace
  refine ⟨?_, ?_, ?_⟩
  · intro d hd path hpath
    refine ⟨_, Context.at?_selector hd hpath, ?_⟩
    intro w hw hkind
    refine ⟨_, Context.at?_podLabels hw hkind, ?_⟩
    intro key value hget
    exact Agent.get?_podLabels hget _ _ _
  · intro d hd
    obtain ⟨hlisted, hplace⟩ := Context.listed_of_mem hspace hd
    exact ⟨hlisted, hplace, (Context.isSelected_iff hd hname (hhome ▸ hplain)).mpr rfl⟩
  · intro other hother hne hplainName d hd
    have hotherHome : other.home = space := Agent.home_eq hother
    rw [← Bool.not_eq_true, Context.isSelected_iff hd hplainName (hotherHome ▸ hplain)]
    exact Agent.instanceName_ne (hhome.trans hotherHome.symm) hne.symm

/-- An agent whose own labels contend with those of the operator, which are filtered out. -/
def Context.contended : Context :=
  { agent :=
      { metadata :=
          { name := some "a"
            namespaceName := some "ns"
            labels := some (.ofList [(managedByLabel, "helm"), (instanceLabel, "ns.b")]) }
        spec := { mode := .deployment }
        status := none }
    config := { filters := { labels := Text.readGlobs ["app.kubernetes.io/*"] } }
    ports := [{ name := "otlp", number := 4317, protocol := .tcp, feature := "otlp" }]
    monitoringPort := 8888 }

/-- The agent whose name the labels of the other one claim. -/
def Agent.claimed : Agent :=
  { metadata := { name := some "b", namespaceName := some "ns" }
    spec := {}
    status := none }

theorem desired_is_discoverable_contended :
    (∃ d ∈ Context.contended.desired, d.kind = .deployment) ∧
      (∃ d ∈ Context.contended.desired, d.kind = .service) ∧
      ∀ d ∈ Context.contended.desired, d.namespaceName = some "ns" ∧
        Store.isSelected d.object Context.contended.agent.ownershipSelector = true ∧
        Store.isSelected d.object Agent.claimed.ownershipSelector = false := by
  have hspace : Context.contended.namespaceName = some "ns" := rfl
  have hdeployment : Kind.deployment ∈ Context.contended.desired.map Desired.kind := by
    decide +kernel
  have hservice : Kind.service ∈ Context.contended.desired.map Desired.kind := by
    decide +kernel
  obtain ⟨-, hown, hothers⟩ := desired_is_discoverable hspace (by decide) (by decide)
  refine ⟨?_, ?_, ?_⟩
  · exact List.mem_map.mp hdeployment
  · exact List.mem_map.mp hservice
  · intro d hd
    obtain ⟨-, hplace, hselected⟩ := hown d hd
    exact ⟨hplace, hselected, hothers Agent.claimed rfl (by decide) (by decide) d hd⟩

end AgentOperator
