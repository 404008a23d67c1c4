import AgentOperator.Proofs.Reconcile.Pass

/-!
# What a pass leaves

After a pass that succeeds every desired object stands at its place as its
outcome says, and nothing else belongs to the agent.  From such a store a pass
over objects that are free or settled makes the ones that are free and does
nothing else, since the identities that it reconciles are those of all that is
listed.
-/

namespace AgentOperator

open Store (Sound SameFaults)

variable {settings : PassSettings} {agent : Agent} {s t u v s₁ s₂ : Store} {d : Desired}
  {ds : List Desired} {outcome : Outcome} {outcomes : List Outcome} {key : StoreKey}
  {object : Object} {report : PassReport} {applied : ApplyReport} {pruned : Nat}

/-! ## Identities that were reconciled -/

theorem ApplyReport.mem_reconciled {uid : String} :
    uid ∈ applied.reconciled ↔
      ∃ outcome ∈ applied.outcomes,
        outcome.change.isReconciled = true ∧ outcome.uid = some uid := by
  simp [ApplyReport.reconciled, and_assoc]

theorem exists_mem_zip_right (hlength : outcomes.length = ds.length)
    (hmem : outcome ∈ outcomes) : ∃ d, (d, outcome) ∈ ds.zip outcomes := by
  rw [← List.map_snd_zip (Nat.le_of_eq hlength)] at hmem
  obtain ⟨⟨d, _⟩, hzip, rfl⟩ := List.mem_map.mp hmem
  exact ⟨d, hzip⟩

theorem exists_mem_zip_left (hlength : outcomes.length = ds.length) (hmem : d ∈ ds) :
    ∃ outcome, (d, outcome) ∈ ds.zip outcomes := by
  rw [← List.map_fst_zip (Nat.le_of_eq hlength.symm)] at hmem
  obtain ⟨⟨_, outcome⟩, hzip, rfl⟩ := List.mem_map.mp hmem
  exact ⟨outcome, hzip⟩

/-- Objects and outcomes of which two values agree pair by pair have the same values. -/
theorem map_eq_map_of_zip {α : Type} {f : Desired → α} {g : Outcome → α}
    (hlength : outcomes.length = ds.length)
    (hpairs : ∀ pair ∈ ds.zip outcomes, f pair.1 = g pair.2) :
    ds.map f = outcomes.map g := by
  have hzip : (ds.zip outcomes).map (f ∘ Prod.fst) = (ds.zip outcomes).map (g ∘ Prod.snd) :=
    List.map_congr_left hpairs
  rw [← List.map_map, ← List.map_map, List.map_fst_zip (Nat.le_of_eq hlength.symm),
    List.map_snd_zip (Nat.le_of_eq hlength)] at hzip
  exact hzip

theorem Context.mem_zip_owned {c : Context} {pair : Desired × Outcome}
    (hmem : pair ∈ c.desired.zip outcomes) :
    (pair.1.ownedBy c.agent.ownerReference, pair.2) ∈ c.owned.zip outcomes := by
  unfold Context.owned
  rw [List.zip_map_left]
  exact List.mem_map.mpr ⟨pair, hmem, rfl⟩

theorem Reached.of_isReconciled (hreached : Reached d outcome s)
    (hchange : outcome.change.isReconciled = true) :
    ∃ live, s.get? d.place = some live ∧ outcome.uid = live.metadata.uid := by
  unfold Reached at hreached
  cases hcase : outcome.change <;> simp_all [Change.isReconciled]

theorem Reached.get?_eq_none_iff (hreached : Reached d outcome s) :
    s.get? d.place = none ↔ outcome.change = .immutableConflict := by
  unfold Reached at hreached
  cases hchange : outcome.change with
  | immutableConflict => simpa [hchange] using hreached
  | failed => simp [hchange] at hreached
  | created | updated | unchanged =>
      simp only [hchange] at hreached
      obtain ⟨live, hlive, -⟩ := hreached
      simp [hlive]

theorem Reached.isReconciled_of_some (hreached : Reached d outcome s)
    (hget : s.get? d.place = some object) : outcome.change.isReconciled = true := by
  unfold Reached at hreached
  cases hcase : outcome.change <;> simp_all [Change.isReconciled]

/-- The identities that were reconciled are those of what stands at the places of
the desired objects. -/
theorem AppliedAll.mem_reconciled_iff (hall : AppliedAll s ds applied.outcomes v)
    (hs : s.Sound) (hds : ∀ d ∈ ds, d.IsBuilt) (hplaces : PlacesDistinct ds)
    (hget : v.get? key = some object) {uid : String}
    (huid : object.metadata.uid = some uid) :
    uid ∈ applied.reconciled ↔ key ∈ ds.map Desired.place := by
  have hreached := hall.reached hs hds hplaces
  rw [ApplyReport.mem_reconciled]
  constructor
  · rintro ⟨outcome, hmem, hchange, houtcome⟩
    obtain ⟨d, hzip⟩ := exists_mem_zip_right hall.length_eq hmem
    obtain ⟨live, hlive, hlives⟩ := (hreached _ hzip).of_isReconciled hchange
    have hkey : key = d.place := by
      refine (hall.sound hs hds).distinct hget hlive ?_
      rw [huid, ← hlives, houtcome]
    exact List.mem_map.mpr ⟨d, (List.of_mem_zip hzip).1, hkey.symm⟩
  · intro hmem
    obtain ⟨d, hd, rfl⟩ := List.mem_map.mp hmem
    obtain ⟨outcome, hzip⟩ := exists_mem_zip_left hall.length_eq hd
    have hchange := (hreached _ hzip).isReconciled_of_some hget
    obtain ⟨live, hlive, houtcome⟩ := (hreached _ hzip).of_isReconciled hchange
    obtain rfl := Option.some.inj (hget.symm.trans hlive)
    exact ⟨outcome, (List.of_mem_zip hzip).2, hchange, houtcome.trans huid⟩

/-! ## Stores in which nothing is left over -/

/-- Nothing but the desired objects belongs to the agent. -/
def Clean (agent : Agent) (ds : List Desired) (s : Store) : Prop :=
  ∀ key object, s.get? key = some object → Belongs agent key object →
    key ∈ ds.map Desired.place

theorem Clean.congr (hclean : Clean agent ds s) (hget : ∀ key, t.get? key = s.get? key) :
    Clean agent ds t := by
  intro key object hkey hbelongs
  rw [hget] at hkey
  exact hclean key object hkey hbelongs

/-- What belongs to an agent does not depend on its status. -/
theorem Clean.withStatus (hclean : Clean agent ds s) (status : Option Status) :
    Clean { agent with status := status } ds s := by
  intro key object hget hbelongs
  have hold : Belongs agent key object :=
    ⟨hbelongs.namespaced, hbelongs.space, hbelongs.selected, hbelongs.unnamed⟩
  exact hclean key object hget hold

/-- Nothing is an orphan of a run over a store in which nothing was left over. -/
theorem AppliedAll.not_isOrphan (hall : AppliedAll s ds applied.outcomes v) (hs : s.Sound)
    (hds : ∀ d ∈ ds, d.IsBuilt) (hplaces : PlacesDistinct ds) (hclean : Clean agent ds s)
    (hget : v.get? key = some object) : ¬ IsOrphan agent applied.reconciled key object := by
  intro horphan
  have hmem : key ∈ ds.map Desired.place := by
    by_cases hplace : key ∈ ds.map Desired.place
    · exact hplace
    · have hbefore : s.get? key = some object := by
        rw [← hget, hall.get?_of_forall_ne]
        intro d hd heq
        exact hplace (List.mem_map.mpr ⟨d, hd, heq.symm⟩)
      exact hclean key object hbefore horphan.belongs
  obtain ⟨n, -, huid⟩ := (hall.sound hs hds).numbered hget
  exact horphan.forgotten _ huid
    ((hall.mem_reconciled_iff hs hds hplaces hget huid).mpr hmem)

/-- What a collection leaves it found. -/
theorem Collected.get?_eq {reconciled : List String}
    (hcollected : Collected agent reconciled s t) (hget : t.get? key = some object) :
    s.get? key = some object ∧ ¬ IsOrphan agent reconciled key object := by
  cases hbefore : s.get? key with
  | none =>
      have hsame : t.get? key = s.get? key := hcollected.other (by simp [hbefore])
      rw [hget, hbefore] at hsame
      simp at hsame
  | some old =>
      by_cases horphan : IsOrphan agent reconciled key old
      · rw [hcollected.orphan hbefore horphan] at hget
        simp at hget
      · have hsame : t.get? key = s.get? key :=
          hcollected.other (by simpa [hbefore] using horphan)
        rw [hget, hbefore] at hsame
        obtain rfl := Option.some.inj hsame
        exact ⟨rfl, horphan⟩

theorem Collected.clean (hcollected : Collected agent applied.reconciled v t)
    (hall : AppliedAll s ds applied.outcomes v) (hs : s.Sound)
    (hds : ∀ d ∈ ds, d.IsBuilt) (hplaces : PlacesDistinct ds) : Clean agent ds t := by
  intro key object hget hbelongs
  obtain ⟨hbefore, hkept⟩ := hcollected.get?_eq hget
  obtain ⟨n, -, huid⟩ := (hall.sound hs hds).numbered hbefore
  rw [← hall.mem_reconciled_iff hs hds hplaces hbefore huid]
  by_cases hmem : Store.uidOf n ∈ applied.reconciled
  · exact hmem
  · refine absurd ⟨hbelongs, ?_⟩ hkept
    intro uid hother
    have heq : Store.uidOf n = uid := Option.some.inj (huid.symm.trans hother)
    rwa [← heq]

/-- A collection leaves what was applied. -/
theorem Collected.get?_place (hcollected : Collected agent applied.reconciled v t)
    (hall : AppliedAll s ds applied.outcomes v) (hs : s.Sound)
    (hds : ∀ d ∈ ds, d.IsBuilt) (hplaces : PlacesDistinct ds) (hd : d ∈ ds) :
    t.get? d.place = v.get? d.place := by
  apply hcollected.other
  intro object hget horphan
  obtain ⟨n, -, huid⟩ := (hall.sound hs hds).numbered hget
  refine horphan.forgotten _ huid ?_
  exact (hall.mem_reconciled_iff hs hds hplaces hget huid).mpr (List.mem_map_of_mem hd)

/-! ## After a pass -/

theorem get?_withReport (report : PassReport) (status : Status) (s : Store)
    (key : StoreKey) :
    (withReport report (withStatus agent status s)).get? key = s.get? key := by
  unfold withReport withStatus
  split <;> split <;> rfl

theorem sameFaults_withReport (report : PassReport) (status : Status) (s : Store) :
    s.SameFaults (withReport report (withStatus agent status s)) := by
  unfold withReport withStatus
  split <;> split <;> exact ⟨rfl, rfl, rfl, rfl⟩

theorem sound_withReport (hs : s.Sound) (report : PassReport) (status : Status) :
    (withReport report (withStatus agent status s)).Sound := by
  unfold withReport withStatus
  split <;> split <;> exact hs.of_objects_eq rfl (Nat.le_refl _)

namespace PassSettings

theorem isBuilt_owned (settings : PassSettings) (agent : Agent) :
    ∀ d ∈ (settings.context agent).owned, d.IsBuilt :=
  fun _ hd => Context.isBuilt_of_mem_owned hd

theorem placesDistinct_owned (settings : PassSettings) (agent : Agent) :
    PlacesDistinct (settings.context agent).owned :=
  Context.placesDistinct_owned (Context.namesDistinct_ofAgent _ _ _)

/-- Applying the objects of an agent always succeeds, and is a run of steps. -/
theorem run_applyAll_each (settings : PassSettings) (agent : Agent) (hs : s.Placed) :
    ∃ applied t,
      Action.run (applyAll Store.cluster agent.ownerReference settings.maxAttempts
        (settings.context agent).desired) s = (.ok applied, t) ∧
      AppliedEach s (settings.context agent).owned applied.outcomes applied.failures t := by
  obtain ⟨outcomes, failures, t, hrun, heach⟩ :=
    run_applyRecorded_each hs settings.maxAttempts {}
  rw [applyAll_eq]
  exact ⟨_, t, hrun, heach⟩

end PassSettings

namespace Passed

theorem appliedAll_of_placed (hpassed : Passed settings agent s report t applied s₁ pruned s₂)
    (hs : s.Placed) :
    AppliedAll s (settings.context agent).owned applied.outcomes s₁ := by
  obtain ⟨applied', v, hrun, heach⟩ := settings.run_applyAll_each agent hs
  obtain ⟨hresult, rfl⟩ := Prod.mk.inj (hrun.symm.trans hpassed.apply)
  obtain rfl := Except.ok.inj hresult
  exact heach.all hpassed.failures

theorem appliedAll (hpassed : Passed settings agent s report t applied s₁ pruned s₂)
    (hs : s.Sound) :
    AppliedAll s (settings.context agent).owned applied.outcomes s₁ :=
  hpassed.appliedAll_of_placed hs.arranged.placed

theorem collected (hpassed : Passed settings agent s report t applied s₁ pruned s₂)
    (hs : s.Sound) : Collected agent applied.reconciled s₁ s₂ :=
  collected_of_run ((hpassed.appliedAll hs).sound hs (settings.isBuilt_owned agent))
    hpassed.collect

theorem get?_eq (hpassed : Passed settings agent s report t applied s₁ pruned s₂)
    (key : StoreKey) : t.get? key = s₂.get? key := by
  rw [hpassed.store_eq, get?_withReport]

theorem sameFaults (hpassed : Passed settings agent s report t applied s₁ pruned s₂)
    (hs : s.Sound) : s₁.SameFaults t := by
  rw [hpassed.store_eq]
  exact (hpassed.collected hs).sameFaults.trans (sameFaults_withReport _ _ _)

theorem sound (hpassed : Passed settings agent s report t applied s₁ pruned s₂)
    (hs : s.Sound) : t.Sound := by
  rw [hpassed.store_eq]
  exact sound_withReport (hpassed.collected hs).sound _ _

theorem omitsEmpty (hpassed : Passed settings agent s report t applied s₁ pruned s₂)
    (hs : s.Sound) : t.omitsEmpty = s.omitsEmpty :=
  (hpassed.sameFaults hs).omitsEmpty.trans (hpassed.appliedAll hs).omitsEmpty

theorem faultless (hpassed : Passed settings agent s report t applied s₁ pruned s₂)
    (hs : s.Sound) (hfaultless : s.Faultless) : t.Faultless :=
  (hpassed.sameFaults hs).faultless ((hpassed.appliedAll hs).faultless hfaultless)

theorem listable (hpassed : Passed settings agent s report t applied s₁ pruned s₂)
    (hs : s.Sound) : Listable t := by
  unfold Listable
  rw [(hpassed.sameFaults hs).unlistable]
  exact (hpassed.collected hs).listable

theorem get?_place (hpassed : Passed settings agent s report t applied s₁ pruned s₂)
    (hs : s.Sound) (hd : d ∈ (settings.context agent).owned) :
    t.get? d.place = s₁.get? d.place := by
  rw [hpassed.get?_eq]
  exact (hpassed.collected hs).get?_place (hpassed.appliedAll hs) hs
    (settings.isBuilt_owned agent) (settings.placesDistinct_owned agent) hd

/-- After a pass each outcome holds of the place of its object. -/
theorem reached (hpassed : Passed settings agent s report t applied s₁ pruned s₂)
    (hs : s.Sound) :
    ∀ pair ∈ (settings.context agent).owned.zip applied.outcomes,
      Reached pair.1 pair.2 t := by
  intro pair hmem
  have hreached := (hpassed.appliedAll hs).reached hs (settings.isBuilt_owned agent)
    (settings.placesDistinct_owned agent) pair hmem
  exact hreached.congr (hpassed.get?_place hs (List.of_mem_zip hmem).1)

/-- Each desired object was applied in one step, which found its place as it was before
the pass and left it as it is after it. -/
theorem exists_applied (hpassed : Passed settings agent s report t applied s₁ pruned s₂)
    (hs : s.Sound) (hd : d ∈ (settings.context agent).owned) :
    ∃ change uid u v, Applied d u change uid v ∧ u.Sound ∧
      u.get? d.place = s.get? d.place ∧ u.omitsEmpty = s.omitsEmpty ∧
        t.get? d.place = v.get? d.place := by
  have hall := hpassed.appliedAll hs
  obtain ⟨outcome, hzip⟩ := exists_mem_zip_left hall.length_eq hd
  obtain ⟨change, uid, u, v, -, happlied, hu, hbefore, homits, hafter⟩ :=
    hall.exists_applied hs (settings.isBuilt_owned agent)
      (settings.placesDistinct_owned agent) _ hzip
  refine ⟨change, uid, u, v, happlied, hu, hbefore, homits, ?_⟩
  rw [hpassed.get?_place hs hd]
  exact hafter

/-- What a pass leaves at the place of a desired object is settled. -/
theorem settled_of_get? (hpassed : Passed settings agent s report t applied s₁ pruned s₂)
    (hs : s.Sound) (homits : s.omitsEmpty = false)
    (hd : d ∈ (settings.context agent).owned) (hbody : Overwritable d s) {live : Object}
    (hlive : t.get? d.place = some live) : Settled d live := by
  obtain ⟨change, uid, u, v, happlied, hu, hbefore, hkept, hafter⟩ :=
    hpassed.exists_applied hs hd
  have hbefore : Overwritable d u := by
    unfold Overwritable
    rw [hbefore]
    exact hbody
  exact happlied.settled (hkept.trans homits) hu (settings.isBuilt_owned agent d hd) hbefore
    (hafter ▸ hlive)

/-- After a pass the desired objects stand as they were applied, and those are absent
of which an immutable field disagreed. -/
theorem get?_desired (hpassed : Passed settings agent s report t applied s₁ pruned s₂)
    (hs : s.Sound) :
    ∀ pair ∈ (settings.context agent).desired.zip applied.outcomes,
      (t.get? pair.1.place = none ↔ pair.2.change = .immutableConflict) ∧
        t.get? pair.1.place = s₁.get? pair.1.place := by
  intro pair hmem
  have hzip := Context.mem_zip_owned hmem
  have hreached := hpassed.reached hs _ hzip
  have hplace := hpassed.get?_place hs (List.of_mem_zip hzip).1
  have habsent := hreached.get?_eq_none_iff
  rw [Desired.ownedBy_place] at hplace habsent
  exact ⟨habsent, hplace⟩

/-- After a pass nothing but the desired objects belongs to the agent. -/
theorem clean (hpassed : Passed settings agent s report t applied s₁ pruned s₂)
    (hs : s.Sound) : Clean agent (settings.context agent).owned t :=
  ((hpassed.collected hs).clean (hpassed.appliedAll hs) hs (settings.isBuilt_owned agent)
    (settings.placesDistinct_owned agent)).congr hpassed.get?_eq

end Passed

/-! ## A pass over objects that are free or settled -/

theorem run_reconcile_of_ready (hs : s.Sound) (hvalid : agent.spec.isValid = true)
    (hlistable : Listable s) (hclean : Clean agent (settings.context agent).owned s)
    (hready : ∀ d ∈ (settings.context agent).owned, Ready d s) :
    ∃ report t applied s₁, Passed settings agent s report t applied s₁ 0 s₁ ∧
      applied.outcomes.map Outcome.change =
        (settings.context agent).owned.map (readyChange s) ∧
      ((∀ d ∈ (settings.context agent).owned, (s.get? d.place).isSome) → s₁ = s) := by
  obtain ⟨outcomes, s₁, hrun, hall, hchanges, hstays⟩ := run_applyRecorded_all_of_ready
    (settings.placesDistinct_owned agent) hready settings.maxAttempts {}
  let applied : ApplyReport := { outcomes }
  have hall : AppliedAll s (settings.context agent).owned applied.outcomes s₁ := hall
  have hs₁ := hall.sound hs (settings.isBuilt_owned agent)
  have hlistable₁ : Listable s₁ := by
    unfold Listable
    rw [hall.unlistable]
    exact hlistable
  have hcollect : Action.run (collectGarbage Store.cluster agent applied.reconciled) s₁ =
      (.ok 0, s₁) := by
    apply run_collectGarbage_of_clean hs₁ hlistable₁
    intro key object hget
    exact hall.not_isOrphan hs (settings.isBuilt_owned agent)
      (settings.placesDistinct_owned agent) hclean hget
  refine ⟨_, _, applied, s₁, ⟨hvalid, ?_, rfl, hcollect, rfl, rfl⟩, hchanges, hstays⟩
  rw [applyAll_eq]
  exact hrun

/-- A pass over an empty store succeeds if the spec is valid. -/
theorem run_reconcile_of_empty (settings : PassSettings) (hvalid : agent.spec.isValid = true) :
    ∃ report t applied s₁, Passed settings agent {} report t applied s₁ 0 s₁ := by
  have hlistable : Listable {} := fun _ _ => rfl
  have hclean : Clean agent (settings.context agent).owned {} := by
    intro key object hget
    simp [Store.get?] at hget
  have hready : ∀ d ∈ (settings.context agent).owned, Ready d {} := fun _ _ =>
    .inl ⟨rfl, Store.faultless_empty⟩
  obtain ⟨report, t, applied, s₁, hpassed, -⟩ :=
    run_reconcile_of_ready Store.Sound.empty hvalid hlistable hclean hready
  exact ⟨report, t, applied, s₁, hpassed⟩

end AgentOperator
