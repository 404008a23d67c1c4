import AgentOperator.Proofs.Manifest.Contents

/-!
# What objects have from their agent

An object has the labels and annotations of its agent that no filter matches, and the
operator's own over them.  Seven builders write metadata; what they differ in, the
component of an object and the annotations of its own, is a function of its kind and its
name.
-/

namespace AgentOperator

open Json (Path)

variable {c : Context} {d : Desired} {m : Manifest} {key value name component image : String}

/-! ## Labels -/

namespace Agent

variable {a : Agent} {filters : Filters}

/-- The labels that an object has from the operator. -/
def operatorLabels (a : Agent) (name image component : String) : List (String × String) :=
  [(nameLabel, name), (instanceLabel, a.instanceName), (managedByLabel, managerName),
    (partOfLabel, productName), (componentLabel, component),
    (versionLabel, imageVersion image)]

theorem get?_objectLabels_of_mem (filters : Filters)
    (hmem : (key, value) ∈ a.operatorLabels name image component) :
    (a.objectLabels filters name image component).get? key = some value := by
  simp only [operatorLabels, List.mem_cons, List.not_mem_nil, or_false, Prod.mk.injEq] at hmem
  -- Three of the labels are also labels of the selector.
  have hselector : ∀ {key value}, (key, value) ∈ a.selectorEntries → key ≠ componentLabel →
      (a.objectLabels filters name image component).get? key = some value := by
    intro key value hentry hkey
    exact get?_objectLabels hentry filters name image fun heq => absurd heq hkey
  rcases hmem with ⟨rfl, rfl⟩ | ⟨rfl, rfl⟩ | ⟨rfl, rfl⟩ | ⟨rfl, rfl⟩ | ⟨rfl, rfl⟩ | ⟨rfl, rfl⟩
  · unfold objectLabels
    rw [Dict.get?_insert_of_ne _ (by decide), Dict.get?_insert_self]
  · exact hselector (by simp [selectorEntries]) (by decide)
  · exact hselector (by simp [selectorEntries]) (by decide)
  · exact hselector (by simp [selectorEntries]) (by decide)
  · unfold objectLabels
    rw [Dict.get?_insert_of_ne _ (by decide), Dict.get?_insert_of_ne _ (by decide),
      Dict.get?_insert_self]
  · unfold objectLabels
    rw [Dict.get?_insert_self]

theorem get?_objectLabels_of_forall_ne (filters : Filters)
    (hkey : ∀ entry ∈ a.operatorLabels name image component, entry.1 ≠ key) :
    (a.objectLabels filters name image component).get? key =
      if filters.dropsLabel key then none else (a.metadata.labels.getD ∅).get? key := by
  simp only [operatorLabels, List.forall_mem_cons, List.not_mem_nil, false_implies,
    implies_true, and_true] at hkey
  obtain ⟨hname, hinstance, hmanaged, hpart, hcomponent, hversion⟩ := hkey
  have hselector : a.selectorLabels.get? key = none := by
    rw [Option.eq_none_iff_forall_ne_some]
    intro value hget
    have hmem := get?_selectorLabels.mp hget
    simp [selectorEntries, hinstance.symm, hmanaged.symm, hpart.symm, hcomponent.symm] at hmem
  unfold objectLabels
  rw [Dict.get?_insert_of_ne _ hversion.symm, Dict.get?_insert_of_ne _ hname.symm,
    Dict.get?_insert_of_ne _ hcomponent.symm, Dict.get?_merge, hselector, Option.none_or,
    Dict.get?_filterKeys]
  cases filters.dropsLabel key <;> rfl

end Agent

namespace Context

/-- The labels are those of the operator, and beside them the labels of the agent that no
filter matches. -/
structure LabelsOf (c : Context) (name component : String) (labels : Dict String) : Prop where
  operator : ∀ key value, (key, value) ∈ c.agent.operatorLabels name c.image component →
    labels.get? key = some value
  agent : ∀ key,
    (∀ entry ∈ c.agent.operatorLabels name c.image component, entry.1 ≠ key) →
      ∀ value, labels.get? key = some value ↔
        (c.agent.metadata.labels.getD ∅).get? key = some value ∧
          c.config.filters.dropsLabel key = false

theorem labelsOf_labels (c : Context) (name component : String) :
    c.LabelsOf name component (c.labels name component) := by
  constructor
  · intro key value hmem
    exact Agent.get?_objectLabels_of_mem _ hmem
  · intro key hkey value
    unfold labels
    rw [Agent.get?_objectLabels_of_forall_ne _ hkey]
    cases c.config.filters.dropsLabel key <;> simp

/-! ## Annotations -/

/-- The annotation of the agent under a key that no filter matches. -/
def handedAnnotation? (c : Context) (key : String) : Option String :=
  if c.config.filters.dropsAnnotation key then none
  else (c.agent.metadata.annotations.getD ∅).get? key

theorem get?_annotations (c : Context) (key : String) :
    c.annotations.get? key = c.handedAnnotation? key := by
  unfold annotations Agent.handedAnnotations handedAnnotation?
  rw [Dict.get?_filterKeys]
  cases c.config.filters.dropsAnnotation key <;> rfl

theorem annotations_metadata (c : Context) (name component : String) (extra : Dict String) :
    (c.metadata name component extra).annotations.getD ∅ = c.annotations.merge extra := by
  show (if (c.annotations.merge extra).isEmpty then none
    else some (c.annotations.merge extra)).getD ∅ = _
  split
  next hempty => exact (Dict.eq_empty_of_isEmpty hempty).symm
  next => rfl

/-- The annotations of pods are those of the operator, behind them those that are asked for
pods, and last those of the agent. -/
structure PodAnnotationsOf (c : Context) (annotations : Dict String) : Prop where
  operator : ∀ key value, (key, value) ∈ PodTemplate.operatorAnnotations c →
    annotations.get? key = some value
  others : ∀ key, (∀ entry ∈ PodTemplate.operatorAnnotations c, entry.1 ≠ key) →
    annotations.get? key =
      (c.agent.spec.podAnnotations.get? key).or (c.handedAnnotation? key)

theorem podAnnotationsOf_annotationsOf (c : Context) :
    c.PodAnnotationsOf (PodTemplate.annotationsOf c) := by
  constructor
  · intro key value hmem
    exact PodTemplate.get?_annotationsOf_of_mem hmem
  · intro key hkey
    rw [PodTemplate.get?_annotationsOf_of_forall_ne hkey, get?_annotations]

/-! ## Metadata -/

/-- The component that an object is, by its kind and name. -/
def componentOf (c : Context) (kind : Kind) (name : String) : String :=
  if kind = .service ∧ name = c.childName "monitoring" then monitoringComponent
  else agentComponent

/-- The annotations that an object has of its own, by its kind and name. -/
def extraAnnotations (c : Context) (kind : Kind) (name : String) : Dict String :=
  match kind with
  | .service =>
    if name = c.childName "headless" then .ofList [(Service.servingCertKey, name ++ "-tls")]
    else ∅
  | .ingress | .route => c.agent.spec.ingress.elim ∅ IngressSettings.annotations
  | _ => ∅

/-- The metadata of an object of a kind under a name. -/
def metadataOf (c : Context) (kind : Kind) (name : String) : Metadata :=
  c.metadata name (c.componentOf kind name) (c.extraAnnotations kind name)

end Context

theorem Workload.metadata_ofForm (c : Context) (form : WorkloadForm) :
    (ofForm c form).metadata = c.metadataOf form.kind c.name := by
  cases form <;> rfl

theorem Service.metadata_receivers {s : Service} (hs : receivers? c = some s) :
    s.metadata = c.metadataOf .service c.name := by
  unfold receivers? at hs
  split at hs
  · simp at hs
  · obtain rfl := Option.some.inj hs
    have hmonitoring := (c.childName_ne_name "monitoring").symm
    have hheadless := (c.childName_ne_name "headless").symm
    simp [Context.metadataOf, Context.componentOf, Context.extraAnnotations, hmonitoring,
      hheadless]

theorem Service.metadata_headless {s : Service} (hs : headless? c = some s) :
    s.metadata = c.metadataOf .service (c.childName "headless") := by
  unfold headless? at hs
  split at hs
  · simp at hs
  · obtain rfl := Option.some.inj hs
    have hmonitoring : c.childName "headless" ≠ c.childName "monitoring" := fun heq =>
      absurd (c.childName_injective heq) (by decide)
    simp [Context.metadataOf, Context.componentOf, Context.extraAnnotations, hmonitoring]

theorem Service.metadata_monitoring (c : Context) :
    (monitoring c).metadata = c.metadataOf .service (c.childName "monitoring") := by
  have hheadless : c.childName "monitoring" ≠ c.childName "headless" := fun heq =>
    absurd (c.childName_injective heq) (by decide)
  simp [monitoring, Context.metadataOf, Context.componentOf, Context.extraAnnotations,
    hheadless]

theorem Ingress.metadata_ofContext {i : Ingress} (hi : ofContext? c = some i) :
    i.metadata = c.metadataOf .ingress (c.childName "ingress") := by
  obtain ⟨s, hs, hrules⟩ := Option.bind_eq_some_iff.mp hi
  obtain ⟨hsettings, -⟩ := Context.exposure?_eq_some_iff.mp hs
  obtain ⟨rules, -, rfl⟩ := Option.map_eq_some_iff.mp hrules
  simp [Context.metadataOf, Context.componentOf, Context.extraAnnotations, hsettings]

theorem Route.exists_metadata {r : Route} (hr : r ∈ allOfContext c) :
    ∃ name, r.metadata = c.metadataOf .route name := by
  obtain ⟨s, hsettings, -, p, -, rfl⟩ := mem_allOfContext.mp hr
  refine ⟨c.childName p.name, ?_⟩
  simp [ofPort, Context.metadataOf, Context.componentOf, Context.extraAnnotations, hsettings]

theorem HorizontalAutoscaler.metadata_ofContext {h : HorizontalAutoscaler}
    (hh : ofContext? c = some h) :
    h.metadata = c.metadataOf .horizontalPodAutoscaler c.name := by
  unfold ofContext? at hh
  split at hh
  · obtain ⟨a, -, rfl⟩ := Option.map_eq_some_iff.mp hh
    rfl
  · simp at hh

theorem PodBudget.metadata_ofContext {b : PodBudget} (hb : ofContext? c = some b) :
    b.metadata = c.metadataOf .podDisruptionBudget c.name := by
  unfold ofContext? at hb
  split at hb
  · simp at hb
  · obtain ⟨budget, -, rfl⟩ := Option.map_eq_some_iff.mp hb
    rfl

/-- The builders write the metadata of an object alike, but for what its kind and name say. -/
theorem Manifest.IsPartOf.exists_metadata (hm : m.IsPartOf c) :
    ∃ name, m.metadata = c.metadataOf m.kind name := by
  cases hm with
  | workload hw =>
      obtain ⟨form, -, rfl⟩ := Option.map_eq_some_iff.mp hw
      exact ⟨_, Workload.metadata_ofForm c form⟩
  | config => exact ⟨_, rfl⟩
  | pipelines hk =>
      obtain ⟨text, -, rfl⟩ := Option.map_eq_some_iff.mp hk
      exact ⟨_, rfl⟩
  | account ha =>
      unfold ServiceAccount.generated? at ha
      split at ha
      · simp at ha
      · obtain rfl := Option.some.inj ha
        exact ⟨_, rfl⟩
  | receivers hs => exact ⟨_, Service.metadata_receivers hs⟩
  | headless hs => exact ⟨_, Service.metadata_headless hs⟩
  | monitoring => exact ⟨_, Service.metadata_monitoring c⟩
  | ingress hi => exact ⟨_, Ingress.metadata_ofContext hi⟩
  | route hr => exact Route.exists_metadata hr
  | autoscaler hh => exact ⟨_, HorizontalAutoscaler.metadata_ofContext hh⟩
  | podBudget hb => exact ⟨_, PodBudget.metadata_ofContext hb⟩

theorem Context.metadata_of_mem (hd : d ∈ c.desired) :
    d.object.metadata = c.metadataOf d.kind d.object.name := by
  obtain ⟨m, hm, rfl⟩ := mem_desired.mp hd
  obtain ⟨name, hmetadata⟩ := hm.exists_metadata
  have hname : m.desired.object.name = name := congrArg (fun m => m.name.getD "") hmetadata
  rw [hname]
  exact hmetadata

/-- Where a workload has the annotations of its pods. -/
def podAnnotationsPath : Path := ["spec", "template", "metadata", "annotations"]

theorem Context.at?_podAnnotations (hd : d ∈ c.desired) (hkind : d.kind ∈ Kind.workloads) :
    d.object.body.at? podAnnotationsPath =
      some (.ofDict .str (PodTemplate.annotationsOf c)) := by
  obtain ⟨form, -, rfl⟩ := exists_workload_of_mem hd hkind
  unfold podAnnotationsPath
  show (Workload.ofForm c form).body.at? _ = _
  rw [Workload.at?_template]
  exact PodTemplate.at?_annotations _

/-- Every object of an agent, and every pod, has exactly the labels and annotations that it
is to have: over those of the agent that no filter matches stand those of the object's own
and those of the operator, whatever the agent's are. -/
theorem desired_inherits (agent : Agent) (config : OperatorConfig) (families : List Family) :
    let c := Context.ofAgent agent config families
    (∀ d ∈ c.desired,
      c.LabelsOf d.object.name (c.componentOf d.kind d.object.name) d.object.labels ∧
      ∀ key, (d.object.metadata.annotations.getD ∅).get? key =
        ((c.extraAnnotations d.kind d.object.name).get? key).or (c.handedAnnotation? key)) ∧
    ∀ d ∈ c.desired, d.kind ∈ Kind.workloads →
      ∃ labels annotations,
        d.object.body.at? podLabelsPath = some (.ofDict .str labels) ∧
        c.LabelsOf agent.name agentComponent labels ∧
        d.object.body.at? podAnnotationsPath = some (.ofDict .str annotations) ∧
        c.PodAnnotationsOf annotations := by
  intro c
  constructor
  · intro d hd
    have hmetadata := Context.metadata_of_mem hd
    constructor
    · unfold Object.labels
      rw [hmetadata]
      exact Context.labelsOf_labels _ _ _
    · intro key
      rw [hmetadata, Context.metadataOf, Context.annotations_metadata, Dict.get?_merge,
        Context.get?_annotations]
  · intro d hd hkind
    exact ⟨_, _, Context.at?_podLabels hd hkind, Context.labelsOf_labels _ _ _,
      Context.at?_podAnnotations hd hkind, Context.podAnnotationsOf_annotationsOf _⟩

end AgentOperator
