import AgentOperator.Proofs.Manifest.Places
import AgentOperator.Reconcile.Apply

/-!
# Desired objects as they are applied

What a pass relies on about the objects that it applies, each with its owner:
their bodies, the texts at their immutable fields, and that no two of them stand
at one place.
-/

namespace AgentOperator

/-- A desired object as it is made for an agent. -/
structure Desired.IsBuilt (d : Desired) : Prop where
  object : d.object.IsBuilt
  addressable : d.kind = .service → IsAddressable d.object.body
  textual : ∀ {path wanted}, path ∈ d.kind.immutableFields →
    d.object.body.at? path = some wanted → wanted.IsTextual
  field : d.object.body.HasOnly d.kind.bodyKey?

/-- No two of the objects stand at one place. -/
def PlacesDistinct (ds : List Desired) : Prop := ds.Pairwise fun d e => d.place ≠ e.place

namespace Desired

theorem ownedBy_kind (d : Desired) (owner : OwnerReference) :
    (d.ownedBy owner).kind = d.kind := by
  unfold ownedBy
  split <;> rfl

theorem ownedBy_body (d : Desired) (owner : OwnerReference) :
    (d.ownedBy owner).object.body = d.object.body := by
  unfold ownedBy
  split <;> rfl

theorem ownedBy_name (d : Desired) (owner : OwnerReference) :
    (d.ownedBy owner).object.metadata.name = d.object.metadata.name := by
  unfold ownedBy
  split <;> rfl

theorem ownedBy_place (d : Desired) (owner : OwnerReference) :
    (d.ownedBy owner).place = d.place := by
  unfold ownedBy
  split <;> rfl

theorem ownedBy_key (d : Desired) (owner : OwnerReference) :
    (d.ownedBy owner).key = d.key := by
  unfold ownedBy
  split <;> rfl

theorem ownedBy_of_isNamespaced {d : Desired} (hd : d.kind.isNamespaced = true)
    (owner : OwnerReference) :
    (d.ownedBy owner).object.metadata =
      { d.object.metadata with ownerReferences := some [owner] } := by
  unfold ownedBy
  rw [if_pos hd]

end Desired

namespace Context

variable {c : Context} {d : Desired}

/-- The objects that are applied for an agent. -/
def owned (c : Context) : List Desired :=
  c.desired.map fun d => d.ownedBy c.agent.ownerReference

theorem mem_owned (hd : d ∈ c.owned) :
    ∃ m ∈ Manifest.allOfContext c, d = m.desired.ownedBy c.agent.ownerReference := by
  obtain ⟨_, hdesired, rfl⟩ := List.mem_map.mp hd
  obtain ⟨m, hm, rfl⟩ := List.mem_map.mp hdesired
  exact ⟨m, hm, rfl⟩

theorem isNamespaced_kind {m : Manifest} : m.kind.isNamespaced = true := by
  cases m with
  | workload w =>
      show w.form.kind.isNamespaced = true
      cases w.form <;> rfl
  | _ => rfl

theorem isBuilt_of_mem_owned (hd : d ∈ c.owned) : d.IsBuilt := by
  obtain ⟨m, hm, rfl⟩ := mem_owned hd
  obtain ⟨name, hmetadata⟩ := Manifest.metadata_isOf hm
  refine ⟨⟨?_, ?_⟩, ?_, ?_, ?_⟩
  · rw [Desired.ownedBy_name]
    show m.metadata.name.isSome = true
    rw [hmetadata.name_eq]
    rfl
  · rw [Desired.ownedBy_body]
    exact m.isBuiltBody
  · rw [Desired.ownedBy_kind, Desired.ownedBy_body]
    exact Manifest.isAddressable
  · rw [Desired.ownedBy_kind, Desired.ownedBy_body]
    intro path wanted hmem hwanted
    exact Manifest.isTextual hm hmem hwanted
  · rw [Desired.ownedBy_body, Desired.ownedBy_kind]
    exact m.hasOnly_body

theorem placesDistinct_owned (hports : Port.NamesDistinct c.ports) :
    PlacesDistinct c.owned := by
  unfold PlacesDistinct owned desired
  rw [List.map_map, List.pairwise_map]
  have hcollide := Manifest.pairwise_allOfContext hports
  refine List.Pairwise.imp_of_mem ?_ hcollide
  intro m other hm hother hne
  simp only [Function.comp_apply, Desired.ownedBy_place]
  exact fun hplace => hne ((Manifest.place_eq_iff hm hother).mp hplace)

theorem namesDistinct_ofAgent (agent : Agent) (config : OperatorConfig)
    (families : List Family) :
    Port.NamesDistinct (Context.ofAgent agent config families).ports :=
  Port.namesDistinct_resolve _ _ _ _

end Context

/-- Applying the desired objects is applying each with its owner. -/
theorem applyAll_eq {σ : Type} (cluster : Cluster σ) (owner : OwnerReference)
    (maxAttempts : Nat) (ds : List Desired) :
    applyAll cluster owner maxAttempts ds =
      (ds.map fun d => d.ownedBy owner).foldlM
        (fun report d => applyRecorded cluster maxAttempts d report) {} := by
  unfold applyAll
  rw [List.foldlM_map]

end AgentOperator
