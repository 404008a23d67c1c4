import AgentOperator.Proofs.Manifest.Body
import AgentOperator.Proofs.Port.Names

/-!
# The places of manifests

No two objects that an agent is made of stand at one place.  Objects of one kind
are told apart by their names: by what is added to the agent's name, and among
routes by the names of the ports.
-/

namespace AgentOperator

/-- The place at which a desired object is to stand. -/
def Desired.place (d : Desired) : StoreKey := .ofObject d.kind d.object

namespace Context

theorem childName_injective (c : Context) {suffix other : String}
    (heq : c.childName suffix = c.childName other) : suffix = other := by
  unfold childName at heq
  exact (String.append_right_inj _).mp heq

theorem childName_ne_name (c : Context) (suffix : String) : c.childName suffix ≠ c.name := by
  intro heq
  have hlength := congrArg String.length heq
  unfold childName at hlength
  rw [String.length_append, String.length_append] at hlength
  have hdash : "-".length = 1 := rfl
  omega

end Context

/-! ## Metadata of each kind of manifest -/

/-- The metadata are those of an object of the agent under a name. -/
def Metadata.IsOf (m : Metadata) (c : Context) (name : String) : Prop :=
  ∃ component extra, m = c.metadata name component extra

namespace Metadata.IsOf

variable {m : Metadata} {c : Context} {name : String}

theorem name_eq (hm : m.IsOf c name) : m.name = some name := by
  obtain ⟨_, _, rfl⟩ := hm
  rfl

theorem namespaceName_eq (hm : m.IsOf c name) : m.namespaceName = c.namespaceName := by
  obtain ⟨_, _, rfl⟩ := hm
  rfl

end Metadata.IsOf

variable {c : Context}

theorem Workload.metadata_isOf {w : Workload} (hw : Workload.ofContext? c = some w) :
    w.metadata.IsOf c c.name := by
  obtain ⟨form, -, rfl⟩ := Option.map_eq_some_iff.mp hw
  exact ⟨_, _, rfl⟩

theorem ConfigMap.metadata_isOf_agent : (ConfigMap.agent c).metadata.IsOf c c.name :=
  ⟨_, _, rfl⟩

theorem ConfigMap.metadata_isOf_pipelines {m : ConfigMap}
    (hm : ConfigMap.pipelines? c = some m) : m.metadata.IsOf c (c.childName "otel") := by
  obtain ⟨text, -, rfl⟩ := Option.map_eq_some_iff.mp hm
  exact ⟨_, _, rfl⟩

theorem ServiceAccount.metadata_isOf {a : ServiceAccount}
    (ha : ServiceAccount.generated? c = some a) : a.metadata.IsOf c c.accountName := by
  unfold ServiceAccount.generated? at ha
  split at ha
  · simp at ha
  · obtain rfl := Option.some.inj ha
    exact ⟨_, _, rfl⟩

/-- The service is made for the agent, under a name, with an address or without. -/
structure Service.IsMade (s : Service) (c : Context) (name : String) (headless : Bool) :
    Prop where
  metadata : s.metadata.IsOf c name
  selector : s.selector = c.agent.selectorLabels
  headless : s.headless = headless

theorem Service.isMade_receivers {s : Service} (hs : Service.receivers? c = some s) :
    s.IsMade c c.name false := by
  unfold Service.receivers? at hs
  split at hs
  · simp at hs
  · obtain rfl := Option.some.inj hs
    exact ⟨⟨_, _, rfl⟩, rfl, rfl⟩

theorem Service.isMade_headless {s : Service} (hs : Service.headless? c = some s) :
    s.IsMade c (c.childName "headless") true := by
  unfold Service.headless? at hs
  split at hs
  · simp at hs
  · obtain rfl := Option.some.inj hs
    exact ⟨⟨_, _, rfl⟩, rfl, rfl⟩

theorem Service.isMade_monitoring :
    (Service.monitoring c).IsMade c (c.childName "monitoring") false :=
  ⟨⟨_, _, rfl⟩, rfl, rfl⟩

theorem Service.isMade_of_mem {s : Service} (hs : .service s ∈ Manifest.allOfContext c) :
    s.IsMade c c.name false ∨ s.IsMade c (c.childName "headless") true ∨
      s.IsMade c (c.childName "monitoring") false := by
  have hcases : receivers? c = some s ∨ headless? c = some s ∨ s = monitoring c := by
    simpa [Manifest.allOfContext] using hs
  rcases hcases with hreceivers | hheadless | rfl
  · exact .inl (isMade_receivers hreceivers)
  · exact .inr (.inl (isMade_headless hheadless))
  · exact .inr (.inr isMade_monitoring)

theorem Ingress.metadata_isOf {i : Ingress} (hi : Ingress.ofContext? c = some i) :
    i.metadata.IsOf c (c.childName "ingress") := by
  obtain ⟨settings, -, hrules⟩ := Option.bind_eq_some_iff.mp hi
  obtain ⟨rules, -, rfl⟩ := Option.map_eq_some_iff.mp hrules
  exact ⟨_, _, rfl⟩

theorem Route.metadata_isOf {r : Route} (hr : r ∈ Route.allOfContext c) :
    ∃ p ∈ c.ports, r.metadata.IsOf c (c.childName p.name) := by
  unfold Route.allOfContext at hr
  split at hr
  · obtain ⟨p, hp, rfl⟩ := List.mem_map.mp hr
    exact ⟨p, hp, _, _, rfl⟩
  · simp at hr

theorem HorizontalAutoscaler.metadata_isOf {h : HorizontalAutoscaler}
    (hh : HorizontalAutoscaler.ofContext? c = some h) : h.metadata.IsOf c c.name := by
  unfold HorizontalAutoscaler.ofContext? at hh
  split at hh
  · obtain ⟨a, -, rfl⟩ := Option.map_eq_some_iff.mp hh
    exact ⟨_, _, rfl⟩
  · simp at hh

theorem PodBudget.metadata_isOf {b : PodBudget} (hb : PodBudget.ofContext? c = some b) :
    b.metadata.IsOf c c.name := by
  unfold PodBudget.ofContext? at hb
  split at hb
  · simp at hb
  · obtain ⟨budget, -, rfl⟩ := Option.map_eq_some_iff.mp hb
    exact ⟨_, _, rfl⟩

/-! ## Distinct places -/

namespace Manifest

/-- The name under which a manifest is to stand. -/
def name (m : Manifest) : String := m.metadata.name.getD ""

theorem name_eq_of_isOf {m : Manifest} {name : String} (hm : m.metadata.IsOf c name) :
    m.name = name := by
  unfold Manifest.name
  rw [hm.name_eq]
  rfl

/-- Everything that an agent is made of has a name and lives in the agent's
namespace. -/
theorem metadata_isOf {m : Manifest} (hm : m ∈ allOfContext c) :
    ∃ name, m.metadata.IsOf c name := by
  simp only [allOfContext, List.mem_append, Option.mem_toList, Option.map_eq_some_iff,
    List.mem_cons, List.not_mem_nil, or_false, List.mem_map, or_assoc] at hm
  rcases hm with ⟨w, hw, rfl⟩ | rfl | ⟨m, hm, rfl⟩ | ⟨a, ha, rfl⟩ | ⟨s, hs, rfl⟩ |
    ⟨s, hs, rfl⟩ | rfl | ⟨i, hi, rfl⟩ | ⟨r, hr, rfl⟩ | ⟨h, hh, rfl⟩ | ⟨b, hb, rfl⟩
  · exact ⟨_, Workload.metadata_isOf hw⟩
  · exact ⟨_, ConfigMap.metadata_isOf_agent⟩
  · exact ⟨_, ConfigMap.metadata_isOf_pipelines hm⟩
  · exact ⟨_, ServiceAccount.metadata_isOf ha⟩
  · exact ⟨_, (Service.isMade_receivers hs).metadata⟩
  · exact ⟨_, (Service.isMade_headless hs).metadata⟩
  · exact ⟨_, Service.isMade_monitoring.metadata⟩
  · exact ⟨_, Ingress.metadata_isOf hi⟩
  · obtain ⟨p, -, hp⟩ := Route.metadata_isOf hr
    exact ⟨_, hp⟩
  · exact ⟨_, HorizontalAutoscaler.metadata_isOf hh⟩
  · exact ⟨_, PodBudget.metadata_isOf hb⟩

/-- The manifests are of one kind and have one name. -/
def Collide (m other : Manifest) : Prop := m.kind = other.kind ∧ m.name = other.name

theorem place_eq_iff {m other : Manifest} (hm : m ∈ allOfContext c)
    (hother : other ∈ allOfContext c) :
    m.desired.place = other.desired.place ↔ m.Collide other := by
  obtain ⟨_, hmeta⟩ := metadata_isOf hm
  obtain ⟨_, hmeta'⟩ := metadata_isOf hother
  unfold Desired.place StoreKey.ofObject StoreKey.of desired Collide
  simp only [hmeta.namespaceName_eq, hmeta'.namespaceName_eq, StoreKey.mk.injEq, true_and]
  rfl

theorem kind_workload_mem (w : Workload) :
    (workload w).kind ∈ [Kind.deployment, .statefulSet, .daemonSet] := by
  show w.form.kind ∈ _
  cases w.form <;> simp [WorkloadForm.kind]

theorem not_collide_of_isOf {m other : Manifest} {name name' : String}
    (hm : m.metadata.IsOf c name) (hother : other.metadata.IsOf c name')
    (hne : name ≠ name') : ¬ m.Collide other := by
  intro hcollide
  have hname := hcollide.2
  rw [name_eq_of_isOf hm, name_eq_of_isOf hother] at hname
  exact hne hname

/-- The manifests are of the given kinds, and no two of them collide. -/
structure Apart (kinds : List Kind) (ms : List Manifest) : Prop where
  distinct : ms.Pairwise fun a b => ¬ a.Collide b
  kind_mem : ∀ m ∈ ms, m.kind ∈ kinds

theorem Apart.append {kinds others : List Kind} {ms more : List Manifest}
    (hms : Apart kinds ms) (hmore : Apart others more)
    (hdisjoint : ∀ kind ∈ kinds, kind ∉ others) :
    Apart (kinds ++ others) (ms ++ more) := by
  constructor
  · rw [List.pairwise_append]
    refine ⟨hms.distinct, hmore.distinct, ?_⟩
    intro m hm other hother hcollide
    have hkind := hmore.kind_mem other hother
    rw [← hcollide.1] at hkind
    exact hdisjoint _ (hms.kind_mem m hm) hkind
  · intro m hmem
    rcases List.mem_append.mp hmem with hm | hm
    · exact List.mem_append_left _ (hms.kind_mem m hm)
    · exact List.mem_append_right _ (hmore.kind_mem m hm)

theorem apart_toList {α : Type} {make : α → Manifest} {kinds : List Kind}
    (hkind : ∀ a, (make a).kind ∈ kinds) (made : Option α) :
    Apart kinds (made.map make).toList := by
  cases made with
  | none => exact ⟨List.Pairwise.nil, by simp⟩
  | some a => exact ⟨List.pairwise_singleton _ _, by simpa using hkind a⟩

theorem apart_workloads (c : Context) :
    Apart [.deployment, .statefulSet, .daemonSet]
      ((Workload.ofContext? c).map workload).toList :=
  apart_toList kind_workload_mem _

theorem apart_configMaps (c : Context) :
    Apart [.configMap]
      ([configMap (.agent c)] ++ ((ConfigMap.pipelines? c).map configMap).toList) := by
  cases hpipelines : ConfigMap.pipelines? c with
  | none => exact ⟨List.pairwise_singleton _ _, by simp [kind]⟩
  | some m =>
      have hapart : ¬ (configMap (.agent c)).Collide (configMap m) :=
        not_collide_of_isOf ConfigMap.metadata_isOf_agent
          (ConfigMap.metadata_isOf_pipelines hpipelines) (c.childName_ne_name _).symm
      exact ⟨by simpa using hapart, by simp [kind]⟩

theorem apart_services (c : Context) :
    Apart [.service]
      (((Service.receivers? c).map service).toList ++
        ((Service.headless? c).map service).toList ++ [service (.monitoring c)]) := by
  have hheadless : ∀ s, Service.receivers? c = some s → ∀ t, Service.headless? c = some t →
      ¬ (service s).Collide (service t) := fun s hs t ht =>
    not_collide_of_isOf (Service.isMade_receivers hs).metadata
      (Service.isMade_headless ht).metadata (c.childName_ne_name _).symm
  have hmonitored : ∀ s, Service.receivers? c = some s →
      ¬ (service s).Collide (service (.monitoring c)) := fun s hs =>
    not_collide_of_isOf (Service.isMade_receivers hs).metadata
      Service.isMade_monitoring.metadata (c.childName_ne_name _).symm
  have hlast : ∀ s, Service.headless? c = some s →
      ¬ (service s).Collide (service (.monitoring c)) := fun s hs =>
    not_collide_of_isOf (Service.isMade_headless hs).metadata
      Service.isMade_monitoring.metadata fun heq =>
        absurd (c.childName_injective heq) (by decide)
  constructor
  · cases hreceivers : Service.receivers? c <;> cases ht : Service.headless? c <;>
      simp_all
  · intro m hm
    simp only [List.mem_append, Option.mem_toList, Option.map_eq_some_iff,
      List.mem_singleton] at hm
    rcases hm with (⟨s, -, rfl⟩ | ⟨s, -, rfl⟩) | rfl <;> simp [kind]

theorem apart_routes (hports : Port.NamesDistinct c.ports) :
    Apart [.route] ((Route.allOfContext c).map route) := by
  constructor
  · rw [List.pairwise_map]
    unfold Route.allOfContext
    split
    next s _ =>
      rw [List.pairwise_map]
      refine List.Pairwise.imp ?_ hports
      intro p q hne hcollide
      exact hne (c.childName_injective hcollide.2)
    next => exact List.Pairwise.nil
  · intro m hm
    obtain ⟨r, -, rfl⟩ := List.mem_map.mp hm
    exact List.mem_singleton_self _

/-- No two objects that an agent is made of stand at one place. -/
theorem pairwise_allOfContext {c : Context} (hports : Port.NamesDistinct c.ports) :
    (allOfContext c).Pairwise fun a b => ¬ a.Collide b := by
  have haccounts : Apart [.serviceAccount]
      ((ServiceAccount.generated? c).map serviceAccount).toList :=
    apart_toList (fun _ => by simp [kind]) _
  have hingresses : Apart [.ingress] ((Ingress.ofContext? c).map ingress).toList :=
    apart_toList (fun _ => by simp [kind]) _
  have hscalers : Apart [.horizontalPodAutoscaler]
      ((HorizontalAutoscaler.ofContext? c).map autoscaler).toList :=
    apart_toList (fun _ => by simp [kind]) _
  have hbudgets : Apart [.podDisruptionBudget]
      ((PodBudget.ofContext? c).map podBudget).toList :=
    apart_toList (fun _ => by simp [kind]) _
  -- The manifests of each kind stand next to each other.
  have hconfigured := (apart_workloads c).append (apart_configMaps c) (by decide)
  have hserved := (hconfigured.append haccounts (by decide)).append (apart_services c)
    (by decide)
  have hexposed := (hserved.append hingresses (by decide)).append (apart_routes hports)
    (by decide)
  have hall := (hexposed.append hscalers (by decide)).append hbudgets (by decide)
  have hdistinct := hall.distinct
  simp only [List.append_assoc] at hdistinct
  unfold allOfContext
  simp only [List.append_assoc]
  exact hdistinct

end Manifest

end AgentOperator
