import AgentOperator.Manifest.Basic
import AgentOperator.Proofs.Json.Drift
import AgentOperator.Proofs.Json.Record
import AgentOperator.Proofs.Reconcile.Address

/-!
# The bodies of manifests

Every object that an agent is made of has a body as passes need it: canonical,
with an object for a spec, no address yet where it is a service, and texts at its
immutable fields.
-/

namespace AgentOperator

open Json (Path)

/-! ## Canonical bodies -/

@[simp] theorem ContainerPort.canonical_toJson (p : ContainerPort) :
    p.toJson.Canonical := by
  unfold ContainerPort.toJson
  simp

@[simp] theorem Container.canonical_toJson (k : Container) : k.toJson.Canonical := by
  unfold Container.toJson
  simp

@[simp] theorem ConfigFile.canonical_toJson (f : ConfigFile) : f.toJson.Canonical := by
  unfold ConfigFile.toJson
  simp

@[simp] theorem PodTemplate.canonical_toJson (t : PodTemplate) : t.toJson.Canonical := by
  unfold PodTemplate.toJson
  simp

@[simp] theorem Workload.canonical_selectorJson (labels : Dict String) :
    (Workload.selectorJson labels).Canonical := by
  unfold Workload.selectorJson
  simp

@[simp] theorem ServicePort.canonical_toJson (p : ServicePort) : p.toJson.Canonical := by
  unfold ServicePort.toJson
  simp

@[simp] theorem IngressPath.canonical_toJson (p : IngressPath) : p.toJson.Canonical := by
  unfold IngressPath.toJson
  simp

@[simp] theorem IngressRule.canonical_toJson (r : IngressRule) : r.toJson.Canonical := by
  unfold IngressRule.toJson
  simp

@[simp] theorem Ingress.canonical_tlsJson (i : Ingress) (secret : String) :
    (i.tlsJson secret).Canonical := by
  unfold Ingress.tlsJson
  simp

@[simp] theorem Route.canonical_tlsJson : Route.tlsJson.Canonical := by
  unfold Route.tlsJson
  simp

@[simp] theorem UtilizationTarget.canonical_toJson (t : UtilizationTarget) :
    t.toJson.Canonical := by
  unfold UtilizationTarget.toJson
  simp

/-! ## Bodies with a spec -/

theorem isBuiltBody_of_spec {value : Json} (hcanonical : value.Canonical)
    (hobject : value = .obj value.fieldsOrNone) :
    (Json.mkObj [("spec", value)]).IsBuiltBody := by
  refine ⟨⟨rfl, ?_⟩, ?_, ?_⟩
  · simpa using hcanonical
  · intro entry hmem
    obtain rfl := List.mem_singleton.mp hmem
    exact Json.segmentsOf_spec
  · intro other hother
    obtain rfl := Option.some.inj hother
    exact hobject

theorem isBuiltBody_empty : Json.empty.IsBuiltBody := by
  refine ⟨⟨rfl, Json.canonical_empty⟩, ?_, ?_⟩
  · intro entry hmem
    simp [Json.empty] at hmem
  · intro value hvalue
    simp [Json.empty] at hvalue

theorem isBuiltBody_data (data : Dict String) :
    (Json.mkObj [("data", .ofDict .str data)]).IsBuiltBody := by
  refine ⟨⟨rfl, by simp⟩, ?_, ?_⟩
  · intro entry hmem
    obtain rfl := List.mem_singleton.mp hmem
    show Json.segmentsOf "data" = ["data"]
    decide
  · intro value hvalue
    have hnone : Keyed.get? "spec" (Json.mkObj
        [("data", .ofDict .str data)]).fieldsOrNone = none := by
      simp [Json.fieldsOrNone_mkObj, Keyed.ofList, Keyed.merge, Keyed.insert, Keyed.get?]
    rw [hnone] at hvalue
    simp at hvalue

theorem Json.at?_spec_field (value : Json) (field : String) :
    (Json.mkObj [("spec", value)]).at? ["spec", field] = value.child? field := by
  show (value.child? field).bind some = _
  simp

theorem Manifest.isBuiltBody (m : Manifest) : m.body.IsBuiltBody := by
  cases m with
  | workload w =>
      refine isBuiltBody_of_spec (Json.canonical_mkObj ?_) rfl
      intro entry hmem
      rcases List.mem_append.mp hmem with hform | hcommon
      · cases hw : w.form <;> simp [hw, WorkloadForm.fields] at hform
        · simp [hform]
        · rcases hform with rfl | rfl | rfl <;> simp
      · simp only [List.mem_cons, List.not_mem_nil, or_false] at hcommon
        rcases hcommon with rfl | rfl <;> simp
  | configMap m => exact isBuiltBody_data m.data
  | serviceAccount a => exact isBuiltBody_empty
  | service s => exact isBuiltBody_of_spec (by simp) rfl
  | ingress i => exact isBuiltBody_of_spec (by simp) rfl
  | route r => exact isBuiltBody_of_spec (by simp) rfl
  | autoscaler h => exact isBuiltBody_of_spec (by simp) rfl
  | podBudget b => exact isBuiltBody_of_spec (by simp) rfl

/-! ## Fields of a kind -/

/-- The field that the body of an object of a kind has, if it has one. -/
def Kind.bodyKey? : Kind → Option String
  | configMap => some "data"
  | serviceAccount => none
  | _ => some "spec"

/-- The body has the field and no other. -/
def Json.HasOnly (body : Json) : Option String → Prop
  | none => body = .empty
  | some key => ∃ value, body = .obj [(key, value)]

theorem Manifest.hasOnly_body (m : Manifest) : m.body.HasOnly m.kind.bodyKey? := by
  cases m with
  | workload w =>
      show w.body.HasOnly w.form.kind.bodyKey?
      have hspec : w.form.kind.bodyKey? = some "spec" := by cases w.form <;> rfl
      rw [hspec]
      exact ⟨_, rfl⟩
  | serviceAccount a => rfl
  | _ => exact ⟨_, rfl⟩

/-! ## Addresses of services -/

theorem Service.at?_clusterIP (s : Service) :
    s.body.at? ["spec", "clusterIP"] = if s.headless then some (.str "None") else none := by
  simp [body]

theorem Service.isAddressable (s : Service) : IsAddressable s.body := by
  refine ⟨Manifest.isBuiltBody (.service s), ?_, ?_, ?_⟩
  · intro ip hip
    rw [s.at?_clusterIP] at hip
    split at hip
    · obtain rfl := Option.some.inj hip
      rfl
    · simp at hip
  · simp [Service.body]
  · simp [Service.body]

theorem Manifest.isAddressable {m : Manifest} (hkind : m.kind = .service) :
    IsAddressable m.body := by
  cases m with
  | service s => exact s.isAddressable
  | workload w =>
      cases hform : w.form <;> simp [Manifest.kind, WorkloadForm.kind, hform] at hkind
  | _ => simp [Manifest.kind] at hkind

/-! ## Texts at immutable fields -/

theorem Agent.instanceName_ne_empty (a : Agent) : a.instanceName ≠ "" := by
  unfold Agent.instanceName
  simp

theorem isTextual_selectorJson (a : Agent) :
    (Workload.selectorJson a.selectorLabels).IsTextual := by
  have hvalues : ∀ entry ∈ a.selectorLabels.entries, entry.2 ≠ "" := by
    intro entry hmem
    have hgiven := Keyed.mem_of_mem_ofList hmem
    simp only [List.mem_cons, List.not_mem_nil, or_false] at hgiven
    rcases hgiven with rfl | rfl | rfl | rfl
    · decide
    · exact a.instanceName_ne_empty
    · decide
    · decide
  have hmanaged : a.selectorLabels.get? managedByLabel = some managerName :=
    Keyed.get?_ofList_of_mem (by simp [managedByLabel, instanceLabel, partOfLabel,
      componentLabel]) List.mem_cons_self
  have hne : a.selectorLabels.entries ≠ [] :=
    List.ne_nil_of_mem (Dict.mem_of_get? hmanaged)
  refine .obj _ (List.cons_ne_nil _ _) ?_
  intro entry hmem
  obtain rfl := List.mem_singleton.mp hmem
  refine .obj _ ?_ ?_
  · intro hnil
    exact hne (List.map_eq_nil_iff.mp hnil)
  · intro label hlabel
    obtain ⟨old, hold, rfl⟩ := List.mem_map.mp hlabel
    exact .str old.2 (hvalues old hold)

/-- The fields of a workload's spec. -/
def Workload.specFields (w : Workload) : List (String × Json) :=
  w.form.fields ++
    [("selector", Workload.selectorJson w.selector), ("template", w.template.toJson)]

theorem Workload.specFields_distinct (w : Workload) :
    w.specFields.Pairwise fun a b => a.1 ≠ b.1 := by
  unfold Workload.specFields
  cases w.form <;> simp [WorkloadForm.fields]

theorem Workload.at?_body_of_mem (w : Workload) {field : String} {value : Json}
    (hmem : (field, value) ∈ w.specFields) : w.body.at? ["spec", field] = some value := by
  rw [Workload.body, Json.at?_spec_field]
  exact Keyed.get?_ofList_of_mem w.specFields_distinct hmem

theorem Workload.at?_body_of_forall_ne (w : Workload) {field : String}
    (hne : ∀ entry ∈ w.specFields, entry.1 ≠ field) :
    w.body.at? ["spec", field] = none := by
  rw [Workload.body, Json.at?_spec_field]
  exact Keyed.get?_ofList_of_forall_ne hne

/-- What stands below the template of a workload stands in the template. -/
theorem Workload.at?_template (w : Workload) (rest : Path) :
    w.body.at? ("spec" :: "template" :: rest) = w.template.toJson.at? rest := by
  have htemplate : w.body.at? ["spec", "template"] = some w.template.toJson :=
    w.at?_body_of_mem (by simp [specFields])
  show w.body.at? (["spec", "template"] ++ rest) = _
  rw [Json.at?_append, htemplate]
  rfl

theorem PodTemplate.at?_image (t : PodTemplate) :
    t.toJson.at? ["spec", "containers", "0", "image"] = some (.str t.container.image) := by
  have hcontainers : t.toJson.at? ["spec", "containers"] =
      some (.arr [t.container.toJson]) := by
    simp [toJson]
  have himage : t.container.toJson.at? ["image"] = some (.str t.container.image) := by
    simp [Container.toJson]
  show t.toJson.at? (["spec", "containers"] ++ ["0", "image"]) = _
  rw [Json.at?_append, hcontainers]
  exact himage

theorem Workload.at?_image (w : Workload) :
    w.body.at? ["spec", "template", "spec", "containers", "0", "image"] =
      some (.str w.template.container.image) := by
  rw [w.at?_template]
  exact w.template.at?_image

namespace Workload

variable {c : Context}

theorem at?_selector (c : Context) (form : WorkloadForm) :
    (ofForm c form).body.at? ["spec", "selector"] =
      some (selectorJson c.agent.selectorLabels) := by
  apply at?_body_of_mem
  simp [specFields, ofForm]

theorem at?_serviceName (c : Context) (replicas : Int32) (service : String) :
    (ofForm c (.statefulSet replicas service)).body.at? ["spec", "serviceName"] =
      some (.str service) := by
  apply at?_body_of_mem
  simp [specFields, ofForm, WorkloadForm.fields]

theorem at?_podManagementPolicy (c : Context) (replicas : Int32) (service : String) :
    (ofForm c (.statefulSet replicas service)).body.at? ["spec", "podManagementPolicy"] =
      some (.str "Parallel") := by
  apply at?_body_of_mem
  simp [specFields, ofForm, WorkloadForm.fields]

theorem at?_volumeClaimTemplates (c : Context) (replicas : Int32) (service : String) :
    (ofForm c (.statefulSet replicas service)).body.at? ["spec", "volumeClaimTemplates"] =
      none := by
  apply at?_body_of_forall_ne
  simp [specFields, ofForm, WorkloadForm.fields]

/-- What a workload has at its immutable fields depends on the names of the agent
alone. -/
def immutableValue (c : Context) (path : Path) : Option Json :=
  if path = ["spec", "selector"] then some (selectorJson c.agent.selectorLabels)
  else if path = ["spec", "serviceName"] then some (.str (c.childName "headless"))
  else if path = ["spec", "podManagementPolicy"] then some (.str "Parallel")
  else none

theorem at?_immutable {form : WorkloadForm} {mode : Mode}
    (hform : WorkloadForm.ofMode? c mode = some form) {path : Path}
    (hmem : path ∈ form.kind.immutableFields) :
    (ofForm c form).body.at? path = immutableValue c path := by
  cases mode with
  | deployment =>
      obtain rfl := Option.some.inj hform
      obtain rfl := List.mem_singleton.mp hmem
      exact at?_selector c _
  | daemonSet =>
      obtain rfl := Option.some.inj hform
      obtain rfl := List.mem_singleton.mp hmem
      exact at?_selector c _
  | sidecar => simp [WorkloadForm.ofMode?] at hform
  | statefulSet =>
      obtain rfl := Option.some.inj hform
      simp only [WorkloadForm.kind, Kind.immutableFields, List.mem_cons, List.not_mem_nil,
        or_false] at hmem
      rcases hmem with rfl | rfl | rfl | rfl
      · exact at?_selector c _
      · exact at?_serviceName c _ _
      · exact at?_volumeClaimTemplates c _ _
      · exact at?_podManagementPolicy c _ _

theorem isTextual_immutableValue {path : Path} {wanted : Json}
    (hwanted : immutableValue c path = some wanted) : wanted.IsTextual := by
  unfold immutableValue at hwanted
  split at hwanted
  · obtain rfl := Option.some.inj hwanted
    exact isTextual_selectorJson c.agent
  · split at hwanted
    · obtain rfl := Option.some.inj hwanted
      exact .str _ (by simp [Context.childName])
    · split at hwanted
      · obtain rfl := Option.some.inj hwanted
        exact .str _ (by decide)
      · simp at hwanted

end Workload

theorem Service.isTextual (s : Service) {path : Path}
    (hmem : path ∈ Kind.service.immutableFields) {wanted : Json}
    (hwanted : s.body.at? path = some wanted) : wanted.IsTextual := by
  simp only [Kind.immutableFields, List.mem_cons, List.not_mem_nil, or_false] at hmem
  rcases hmem with rfl | rfl
  · rw [s.at?_clusterIP] at hwanted
    split at hwanted
    · obtain rfl := Option.some.inj hwanted
      exact .str _ (by decide)
    · simp at hwanted
  · rw [s.isAddressable.addresses] at hwanted
    simp at hwanted

theorem Workload.exists_form {c : Context} {w : Workload}
    (hw : .workload w ∈ Manifest.allOfContext c) :
    ∃ form, WorkloadForm.ofMode? c c.mode = some form ∧ w = ofForm c form := by
  have hworkload : ofContext? c = some w := by
    simpa [Manifest.allOfContext] using hw
  obtain ⟨form, hform, rfl⟩ := Option.map_eq_some_iff.mp hworkload
  exact ⟨form, hform, rfl⟩

/-- The immutable fields of everything that an agent is made of hold texts. -/
theorem Manifest.isTextual {c : Context} {m : Manifest}
    (hm : m ∈ Manifest.allOfContext c) {path : Path}
    (hmem : path ∈ m.kind.immutableFields) {wanted : Json}
    (hwanted : m.body.at? path = some wanted) : wanted.IsTextual := by
  cases m with
  | workload w =>
      obtain ⟨form, hform, rfl⟩ := Workload.exists_form hm
      rw [show Manifest.body _ = (Workload.ofForm c form).body from rfl,
        Workload.at?_immutable hform hmem] at hwanted
      exact Workload.isTextual_immutableValue hwanted
  | service s => exact s.isTextual hmem hwanted
  | _ => simp [Manifest.kind, Kind.immutableFields] at hmem

end AgentOperator
