import AgentOperator.Proofs.Reconcile.Idempotence
import AgentOperator.Proofs.Store.Selector

/-!
# What a pass deletes

Garbage is found by labels and by identity, desired objects by their places.  In a
sound store the two views agree, so a pass leaves the desired objects where its
outcomes say, deletes whatever else carries the labels of the agent, and leaves
all other objects exactly as they were.
-/

namespace AgentOperator

variable {settings : PassSettings} {agent : Agent} {s t s₁ s₂ : Store} {d : Desired}
  {report : PassReport} {applied : ApplyReport} {pruned : Nat} {key : StoreKey}
  {object : Object} {space : String}

/-- The object at a place carries the labels of an agent of a namespace, and it is
not the service account that the agent names as its own. -/
structure IsMarked (agent : Agent) (space : String) (key : StoreKey) (object : Object) :
    Prop where
  namespaced : key.kind.isNamespaced = true
  space_eq : key.space = space
  managed : object.labels.get? managedByLabel = some managerName
  labelled : object.labels.get? instanceLabel = some agent.instanceName
  unnamed : ¬ (key.kind = .serviceAccount ∧ agent.spec.serviceAccount = some key.name)

theorem isNamedAccount_iff (hname : object.metadata.name = some key.name) :
    isNamedAccount agent key.kind object = true ↔
      key.kind = .serviceAccount ∧ agent.spec.serviceAccount = some key.name := by
  unfold isNamedAccount
  rw [hname]
  constructor
  · intro hnamed
    simp only [Bool.and_eq_true, beq_iff_eq] at hnamed
    exact ⟨hnamed.1.1, hnamed.2⟩
  · rintro ⟨hkind, haccount⟩
    rw [hkind, haccount]
    simp

theorem Store.Sound.name_eq (hs : s.Sound) (hget : s.get? key = some object) :
    object.metadata.name = some key.name := by
  have hplaced := hs.placed hget
  obtain ⟨name, hname⟩ := Option.isSome_iff_exists.mp (hs.proper hget).named
  rw [hplaced, hname]
  unfold StoreKey.ofObject StoreKey.of Object.name
  rw [hname]
  rfl

/-- What belongs to an agent is what is marked, where no name has a comma. -/
theorem belongs_iff_isMarked (hs : s.Sound) (hspace : agent.namespaceName = some space)
    (hname : ',' ∉ agent.name.toList) (hcomma : ',' ∉ space.toList)
    (hget : s.get? key = some object) :
    Belongs agent key object ↔ IsMarked agent space key object := by
  have hhome : agent.home = space := Agent.home_eq hspace
  have hselected : Store.isSelected object agent.ownershipSelector = true ↔ _ :=
    Store.isSelected_ownershipSelector hname (hhome ▸ hcomma)
  have haccount : isNamedAccount agent key.kind object = true ↔ _ :=
    isNamedAccount_iff (hs.name_eq hget)
  constructor
  · intro hbelongs
    obtain ⟨hmanaged, hlabelled⟩ := hselected.mp hbelongs.selected
    refine ⟨hbelongs.namespaced, hbelongs.space.trans hhome, hmanaged, hlabelled, ?_⟩
    intro hnamed
    have htrue := haccount.mpr hnamed
    rw [hbelongs.unnamed] at htrue
    exact absurd htrue (by decide)
  · intro hmarked
    refine ⟨hmarked.namespaced, hmarked.space_eq.trans hhome.symm,
      hselected.mpr ⟨hmarked.managed, hmarked.labelled⟩, ?_⟩
    rw [Bool.eq_false_iff]
    exact fun htrue => hmarked.unnamed (haccount.mp htrue)

namespace Passed

/-- Where no desired object stands, a pass deletes just what belongs to the agent. -/
theorem get?_of_notMem (hpassed : Passed settings agent s report t applied s₁ pruned s₂)
    (hs : s.Sound) (hkey : key ∉ (settings.context agent).owned.map Desired.place) :
    (∀ object, s.get? key = some object → Belongs agent key object → t.get? key = none) ∧
      ((∀ object, s.get? key = some object → ¬ Belongs agent key object) →
        t.get? key = s.get? key) := by
  have hall := hpassed.appliedAll hs
  have hcollected := hpassed.collected hs
  have hbuilt := settings.isBuilt_owned agent
  have hplaces := settings.placesDistinct_owned agent
  have hbefore : s₁.get? key = s.get? key := by
    apply hall.get?_of_forall_ne
    intro d hd heq
    exact hkey (List.mem_map.mpr ⟨d, hd, heq.symm⟩)
  rw [hpassed.get?_eq, ← hbefore]
  constructor
  · intro object hget hbelongs
    refine hcollected.orphan hget ⟨hbelongs, ?_⟩
    intro uid huid hmem
    exact hkey ((hall.mem_reconciled_iff hs hbuilt hplaces hget huid).mp hmem)
  · intro hforeign
    apply hcollected.other
    intro object hget horphan
    exact hforeign object hget horphan.belongs

end Passed

theorem map_place_owned (settings : PassSettings) (agent : Agent) :
    (settings.context agent).owned.map Desired.place =
      (settings.context agent).desired.map Desired.place := by
  unfold Context.owned
  rw [List.map_map]
  apply List.map_congr_left
  intro d _
  exact d.ownedBy_place _

/-- A pass that succeeds leaves the desired objects as they were applied, absent just
where a field was immutable; of all other objects it deletes those that carry the
labels of the agent, and leaves the rest as they were. -/
theorem reconcile_collects_exactly (hs : s.Reachable)
    (hspace : agent.namespaceName = some space) (hname : ',' ∉ agent.name.toList)
    (hcomma : ',' ∉ space.toList)
    (hrun : Action.run (reconcile Store.cluster settings agent) s = (.ok report, t)) :
    ∃ applied s₁,
      Action.run (applyAll Store.cluster agent.ownerReference settings.maxAttempts
        (settings.context agent).desired) s = (.ok applied, s₁) ∧
      applied.outcomes.map Outcome.key =
        (settings.context agent).desired.map Desired.key ∧
      (∀ pair ∈ (settings.context agent).desired.zip applied.outcomes,
        (t.get? pair.1.place = none ↔ pair.2.change = .immutableConflict) ∧
        t.get? pair.1.place = s₁.get? pair.1.place) ∧
      ∀ key ∉ (settings.context agent).desired.map Desired.place,
        (∀ object, s.get? key = some object → IsMarked agent space key object →
          t.get? key = none) ∧
        ((∀ object, s.get? key = some object → ¬ IsMarked agent space key object) →
          t.get? key = s.get? key) := by
  obtain ⟨applied, s₁, pruned, s₂, hpassed⟩ := run_reconcile_iff.mp hrun
  have hs := hs.sound
  have hall := hpassed.appliedAll hs
  refine ⟨applied, s₁, hpassed.apply, ?_, hpassed.get?_desired hs, ?_⟩
  · have hkeys := hall.keys
    unfold Context.owned at hkeys
    rw [hkeys, List.map_map]
    apply List.map_congr_left
    intro d _
    exact d.ownedBy_key _
  · intro key hkey
    rw [← map_place_owned] at hkey
    obtain ⟨hdeleted, hkept⟩ := hpassed.get?_of_notMem hs hkey
    constructor
    · intro object hget hmarked
      exact hdeleted object hget
        ((belongs_iff_isMarked hs hspace hname hcomma hget).mpr hmarked)
    · intro hforeign
      apply hkept
      intro object hget hbelongs
      exact hforeign object hget
        ((belongs_iff_isMarked hs hspace hname hcomma hget).mp hbelongs)

/-! ## A pass over objects that were left over -/

/-- A config map with the labels of the sidecar that is not desired. -/
def ConfigMap.leftover (space : String) : Object :=
  { types := none
    metadata := {
      name := some "old"
      namespaceName := some space
      labels := some Agent.sidecar.selectorLabels }
    body := .mkObj [] }

theorem ConfigMap.isProper_leftover (space : String) :
    (ConfigMap.leftover space).IsProper :=
  ⟨rfl, by simp [ConfigMap.leftover]⟩

/-- A store that holds the leftover in the namespace of the sidecar and in another. -/
def Store.littered : Store :=
  ((Store.seed Store.edited .configMap (ConfigMap.leftover "ns")).2.seed .configMap
    (ConfigMap.leftover "other")).2

theorem Store.reachable_littered : Store.littered.Reachable :=
  (Store.reachable_edited.seed .configMap (ConfigMap.isProper_leftover _)).seed .configMap
    (ConfigMap.isProper_leftover _)

set_option maxRecDepth 100000 in
theorem reconcile_collects_littered :
    ∃ report t,
      Action.run (reconcile Store.cluster {} Agent.sidecar) Store.littered =
        (.ok report, t) ∧
      t.get? ⟨.configMap, "ns", "old"⟩ = none ∧
      t.get? ⟨.configMap, "other", "old"⟩ =
        Store.littered.get? ⟨.configMap, "other", "old"⟩ := by
  obtain ⟨report, hrun, -⟩ := Action.exists_ok_of_map_eq
    (f := PassReport.pruned) (b := 1)
    (show (Action.run (reconcile Store.cluster {} Agent.sidecar)
      Store.littered).1.toOption.map PassReport.pruned = some 1 by decide +kernel)
  have hspace : Agent.sidecar.namespaceName = some "ns" := rfl
  obtain ⟨applied, s₁, -, -, -, hothers⟩ := reconcile_collects_exactly
    Store.reachable_littered hspace (by decide) (by decide) hrun
  have hplaces : (PassSettings.context {} Agent.sidecar).desired.map Desired.place =
      [⟨.configMap, "ns", "a"⟩, ⟨.serviceAccount, "ns", "a"⟩,
        ⟨.service, "ns", "a-monitoring"⟩] := by
    decide +kernel
  have hlabels : (Store.littered.get? ⟨.configMap, "ns", "old"⟩).map Object.labels =
      some Agent.sidecar.selectorLabels := by
    decide +kernel
  obtain ⟨object, hget, hobject⟩ := Option.map_eq_some_iff.mp hlabels
  refine ⟨report, _, hrun, ?_, ?_⟩
  · refine (hothers ⟨.configMap, "ns", "old"⟩ (by simp [hplaces])).1 object hget ?_
    refine ⟨rfl, rfl, ?_, ?_, by simp⟩
    · rw [hobject]
      decide +kernel
    · rw [hobject]
      decide +kernel
  · apply (hothers ⟨.configMap, "other", "old"⟩ (by simp [hplaces])).2
    intro object _ hmarked
    exact absurd hmarked.space_eq (by decide)

end AgentOperator
