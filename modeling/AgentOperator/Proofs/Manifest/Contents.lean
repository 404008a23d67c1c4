import AgentOperator.Proofs.Manifest.Members

/-!
# What bodies hold

The body of each part of an agent read back: at the path at which a field is written
stands what was given for it, and nothing where nothing was given.
-/

namespace AgentOperator

open Json (Path)

variable {c : Context} {d : Desired}

/-! ## Parts of one kind -/

/-- What a part of an agent is if it is of a kind. -/
def Manifest.IsPartOfKind (c : Context) (m : Manifest) : Kind → Prop
  | .deployment | .statefulSet | .daemonSet =>
    ∃ w, Workload.ofContext? c = some w ∧ m = workload w
  | .configMap => ∃ k, (k = .agent c ∨ ConfigMap.pipelines? c = some k) ∧ m = configMap k
  | .serviceAccount => ∃ a, ServiceAccount.generated? c = some a ∧ m = serviceAccount a
  | .service =>
    ∃ s, (Service.receivers? c = some s ∨ Service.headless? c = some s ∨ s = .monitoring c) ∧
      m = service s
  | .ingress => ∃ i, Ingress.ofContext? c = some i ∧ m = ingress i
  | .route => ∃ r ∈ Route.allOfContext c, m = route r
  | .horizontalPodAutoscaler =>
    ∃ h, HorizontalAutoscaler.ofContext? c = some h ∧ m = autoscaler h
  | .podDisruptionBudget => ∃ b, PodBudget.ofContext? c = some b ∧ m = podBudget b
  | .clusterRole | .clusterRoleBinding => False

theorem Manifest.IsPartOf.isPartOfKind {m : Manifest} (hm : m.IsPartOf c) :
    m.IsPartOfKind c m.kind := by
  cases hm with
  | @workload w hw =>
      show Manifest.IsPartOfKind c _ w.form.kind
      cases w.form <;> exact ⟨w, hw, rfl⟩
  | config => exact ⟨_, .inl rfl, rfl⟩
  | pipelines hm => exact ⟨_, .inr hm, rfl⟩
  | account ha => exact ⟨_, ha, rfl⟩
  | receivers hs => exact ⟨_, .inl hs, rfl⟩
  | headless hs => exact ⟨_, .inr (.inl hs), rfl⟩
  | monitoring => exact ⟨_, .inr (.inr rfl), rfl⟩
  | ingress hi => exact ⟨_, hi, rfl⟩
  | route hr => exact ⟨_, hr, rfl⟩
  | autoscaler hh => exact ⟨_, hh, rfl⟩
  | podBudget hb => exact ⟨_, hb, rfl⟩

theorem Context.exists_part_of_mem (hd : d ∈ c.desired) {kind : Kind} (hkind : d.kind = kind) :
    ∃ m : Manifest, m.IsPartOfKind c kind ∧ m.desired = d := by
  obtain ⟨m, hm, rfl⟩ := mem_desired.mp hd
  exact ⟨m, hkind ▸ hm.isPartOfKind, rfl⟩

/-- A desired workload is that of the mode, with the pods that the agent asks for. -/
theorem Context.exists_workload_of_mem (hd : d ∈ c.desired) (hkind : d.kind ∈ Kind.workloads) :
    ∃ form, WorkloadForm.ofMode? c c.mode = some form ∧
      d = (Manifest.workload (.ofForm c form)).desired := by
  have hmade : ∃ m : Manifest,
      (∃ w, Workload.ofContext? c = some w ∧ m = .workload w) ∧ m.desired = d := by
    simp only [Kind.workloads, List.mem_cons, List.not_mem_nil, or_false] at hkind
    rcases hkind with hkind | hkind | hkind <;> exact exists_part_of_mem hd hkind
  obtain ⟨_, ⟨w, hw, rfl⟩, rfl⟩ := hmade
  obtain ⟨form, hform, rfl⟩ := Option.map_eq_some_iff.mp hw
  exact ⟨form, hform, rfl⟩

/-- An object of the kind and the name is desired. -/
def Context.Has (c : Context) (kind : Kind) (name : String) : Prop :=
  ∃ d ∈ c.desired, d.kind = kind ∧ d.object.name = name

theorem Context.Requests.has {kind : Kind} {name : String} (hrequest : c.Requests kind name) :
    c.Has kind name :=
  requests_iff.mp hrequest

/-! ## Pods -/

theorem Container.listAt_ports (k : Container) :
    k.toJson.listAt ["ports"] = k.ports.map ContainerPort.toJson := by
  refine Json.listAt_of_nonEmptyList ?_
  simp [toJson]

namespace ConfigFile

theorem at?_name (f : ConfigFile) :
    f.toJson.at? ["configMap", "name"] = some (.str f.configMap) := by
  simp [toJson]

theorem listAt_items (f : ConfigFile) :
    f.toJson.listAt ["configMap", "items"] =
      [.mkObj [("key", .str f.key), ("path", .str f.key)]] := by
  refine Json.listAt_of_arr ?_
  simp [toJson]

end ConfigFile

namespace PodTemplate

theorem at?_annotation (t : PodTemplate) (key : String) :
    t.toJson.at? ["metadata", "annotations", key] = (t.annotations.get? key).map .str := by
  simp [toJson]

theorem at?_annotations (t : PodTemplate) :
    t.toJson.at? ["metadata", "annotations"] = some (.ofDict .str t.annotations) := by
  simp [toJson]

/-- The annotations of pods that come from the operator. -/
def operatorAnnotations (c : Context) : List (String × String) :=
  [(configHashKey, c.agent.configHash), ("prometheus.io/scrape", "true"),
    ("prometheus.io/port", toString c.monitoringPort), ("prometheus.io/path", "/metrics")]

theorem get?_annotationsOf_of_mem {key value : String}
    (hmem : (key, value) ∈ operatorAnnotations c) :
    (annotationsOf c).get? key = some value := by
  simp only [operatorAnnotations, List.mem_cons, List.not_mem_nil, or_false,
    Prod.mk.injEq] at hmem
  unfold annotationsOf
  rcases hmem with ⟨rfl, rfl⟩ | ⟨rfl, rfl⟩ | ⟨rfl, rfl⟩ | ⟨rfl, rfl⟩
  · rw [Dict.get?_insert_of_ne _ (by decide), Dict.get?_insert_of_ne _ (by decide),
      Dict.get?_insert_of_ne _ (by decide), Dict.get?_insert_self]
  · rw [Dict.get?_insert_of_ne _ (by decide), Dict.get?_insert_of_ne _ (by decide),
      Dict.get?_insert_self]
  · rw [Dict.get?_insert_of_ne _ (by decide), Dict.get?_insert_self]
  · rw [Dict.get?_insert_self]

theorem get?_annotationsOf_of_forall_ne {key : String}
    (hkey : ∀ entry ∈ operatorAnnotations c, entry.1 ≠ key) :
    (annotationsOf c).get? key =
      (c.agent.spec.podAnnotations.get? key).or (c.annotations.get? key) := by
  simp only [operatorAnnotations, List.forall_mem_cons, List.not_mem_nil, false_implies,
    implies_true, and_true] at hkey
  obtain ⟨hhash, hscrape, hport, hpath⟩ := hkey
  unfold annotationsOf
  rw [Dict.get?_insert_of_ne _ hpath.symm, Dict.get?_insert_of_ne _ hport.symm,
    Dict.get?_insert_of_ne _ hscrape.symm, Dict.get?_insert_of_ne _ hhash.symm,
    Dict.get?_merge]

theorem at?_accountName (t : PodTemplate) :
    t.toJson.at? ["spec", "serviceAccountName"] = some (.str t.accountName) := by
  simp [toJson]

theorem listAt_containers (t : PodTemplate) :
    t.toJson.listAt ["spec", "containers"] = [t.container.toJson] := by
  refine Json.listAt_of_arr ?_
  simp [toJson]

/-- The pods of an agent have one volume, in which its files are put together. -/
theorem exists_volume (t : PodTemplate) :
    ∃ volume, t.toJson.listAt ["spec", "volumes"] = [volume] ∧
      volume.listAt ["projected", "sources"] = t.files.map ConfigFile.toJson := by
  refine ⟨_, Json.listAt_of_arr (by simp [toJson]; rfl), Json.listAt_of_ofList ?_⟩
  simp

end PodTemplate

theorem Workload.listAt_template (w : Workload) (rest : Path) :
    w.body.listAt ("spec" :: "template" :: rest) = w.template.toJson.listAt rest := by
  unfold Json.listAt
  rw [w.at?_template]

/-! ## Configuration and services -/

theorem ConfigMap.at?_data (m : ConfigMap) (key : String) :
    m.body.at? ["data", key] = (m.data.get? key).map .str := by
  simp [body]

theorem Service.listAt_ports (s : Service) :
    s.body.listAt ["spec", "ports"] = s.ports.map ServicePort.toJson := by
  refine Json.listAt_of_nonEmptyList ?_
  simp [body]

theorem Service.ports_of_receivers {s : Service} (hs : Service.receivers? c = some s) :
    s.ports = portsOf c := by
  unfold receivers? at hs
  split at hs
  · simp at hs
  · obtain rfl := Option.some.inj hs
    rfl

theorem Service.ports_of_headless {s : Service} (hs : Service.headless? c = some s) :
    s.ports = portsOf c := by
  unfold headless? at hs
  split at hs
  · simp at hs
  · obtain rfl := Option.some.inj hs
    rfl

theorem ServicePort.at?_name (p : ServicePort) : p.toJson.at? ["name"] = some (.str p.name) := by
  simp [toJson]

/-! ## Ways in -/

theorem Ingress.listAt_rules (i : Ingress) :
    i.body.listAt ["spec", "rules"] = i.rules.map IngressRule.toJson := by
  refine Json.listAt_of_ofList ?_
  simp [body]

theorem IngressRule.at?_host (r : IngressRule) : r.toJson.at? ["host"] = r.host.map .str := by
  simp [toJson]

theorem IngressRule.listAt_paths (r : IngressRule) :
    r.toJson.listAt ["http", "paths"] = r.paths.map IngressPath.toJson := by
  refine Json.listAt_of_ofList ?_
  simp [toJson]

theorem IngressPath.at?_service (p : IngressPath) :
    p.toJson.at? ["backend", "service", "name"] = some (.str p.service) := by
  simp [toJson]

theorem IngressPath.at?_portName (p : IngressPath) :
    p.toJson.at? ["backend", "service", "port", "name"] = some (.str p.portName) := by
  simp [toJson]

namespace Route

theorem at?_kind (r : Route) : r.body.at? ["spec", "to", "kind"] = some (.str "Service") := by
  simp [body]

theorem at?_service (r : Route) :
    r.body.at? ["spec", "to", "name"] = some (.str r.service) := by
  simp [body]

theorem at?_host (r : Route) : r.body.at? ["spec", "host"] = r.host.map .str := by
  simp [body]

theorem at?_portName (r : Route) :
    r.body.at? ["spec", "port", "targetPort"] = some (.str r.portName) := by
  simp [body]

end Route

/-! ## Scaling -/

namespace HorizontalAutoscaler

theorem at?_minReplicas (h : HorizontalAutoscaler) :
    h.body.at? ["spec", "minReplicas"] = some (.ofInt32 h.minReplicas) := by
  simp [body]

theorem at?_maxReplicas (h : HorizontalAutoscaler) :
    h.body.at? ["spec", "maxReplicas"] = some (.ofInt32 h.maxReplicas) := by
  simp [body]

theorem listAt_metrics (h : HorizontalAutoscaler) :
    h.body.listAt ["spec", "metrics"] = h.metrics.map UtilizationTarget.toJson := by
  refine Json.listAt_of_ofList ?_
  simp [body]

end HorizontalAutoscaler

theorem UtilizationTarget.at?_percentage (t : UtilizationTarget) :
    t.toJson.at? ["resource", "target", "averageUtilization"] =
      some (.ofInt32 t.percentage) := by
  simp [toJson]

theorem PodBudget.at?_minAvailable (b : PodBudget) :
    b.body.at? ["spec", "minAvailable"] = b.minAvailable.map PodCount.toJson := by
  simp [body]

theorem PodBudget.at?_maxUnavailable (b : PodBudget) :
    b.body.at? ["spec", "maxUnavailable"] = b.maxUnavailable.map PodCount.toJson := by
  simp [body]

end AgentOperator
