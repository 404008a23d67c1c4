import AgentOperator.Proofs.Reconcile.Runs

/-!
# Objects that fit what is desired

A live object fits a desired one when it has the desired value wherever a field cannot
change, and an address if it is a service.  What is made of a desired object fits it,
and what is written over an object that fits, fits and has the same address.  Over an
object that fits there is no conflict, and the server does not refuse the replacement.
-/

namespace AgentOperator

open Json (Path)

variable {d e : Desired} {s t : Store} {live target : Object} {path : Path}
  {wanted ip : Json}

/-- Neither an immutable field of the live object nor its address is in the way of the
desired one. -/
structure Fits (d : Desired) (live : Object) : Prop where
  agrees : ∀ {path wanted}, path ∈ d.kind.immutableFields →
    d.object.body.at? path = some wanted → live.body.at? path = some wanted
  addressed : d.kind = .service →
    ∃ ip : Json, live.body.at? ["spec", "clusterIP"] = some ip ∧ ip.IsTextual

theorem Fits.congr (hfits : Fits e live) (halike : e.Alike d) : Fits d live := by
  constructor
  · intro path wanted hmem hwanted
    rw [← halike.immutable path hmem] at hwanted
    exact hfits.agrees (halike.kind ▸ hmem) hwanted
  · intro hkind
    exact hfits.addressed (halike.kind.trans hkind)

/-! ## What is stored -/

theorem Store.at?_stored (s : Store) {object : Object} (htextual : wanted.IsTextual)
    (hat : object.body.at? path = some wanted) :
    (s.stored object).body.at? path = some wanted := by
  unfold stored
  split
  · exact htextual.at?_stripEmpty hat
  · exact hat

theorem Desired.IsBuilt.isTextual_addressOf (hd : d.IsBuilt) (hkind : d.kind = .service)
    (number : Nat) : (Store.addressOf number d.object.body).IsTextual := by
  unfold Store.addressOf
  cases hip : d.object.body.at? ["spec", "clusterIP"] with
  | none => exact .str _ (by simp)
  | some ip => exact hd.textual (by rw [hkind]; decide) hip

theorem Desired.IsBuilt.fits_newObject (hd : d.IsBuilt) (s : Store) :
    Fits d (s.newObject d.kind d.object) := by
  by_cases hkind : d.kind = .service
  · have hbody := hd.addressable hkind
    have htextual := hd.isTextual_addressOf hkind (s.counter + 1)
    have hip : (s.newObject d.kind d.object).body.at? ["spec", "clusterIP"] =
        some (Store.addressOf (s.counter + 1) d.object.body) := by
      unfold Store.newObject Store.completed
      rw [if_pos hkind]
      exact Store.at?_stored s htextual (hbody.at?_allocate_clusterIP _)
    refine ⟨?_, fun _ => ⟨_, hip, htextual⟩⟩
    intro path wanted hmem hwanted
    rw [hkind] at hmem
    simp only [Kind.immutableFields, List.mem_cons, List.not_mem_nil, or_false] at hmem
    rcases hmem with rfl | rfl
    · rw [hip]
      unfold Store.addressOf
      rw [hwanted]
      rfl
    · rw [hbody.addresses] at hwanted
      simp at hwanted
  · refine ⟨?_, fun hservice => absurd hservice hkind⟩
    intro path wanted hmem hwanted
    unfold Store.newObject Store.completed
    rw [if_neg hkind]
    exact Store.at?_stored s (hd.textual hmem hwanted) hwanted

/-! ## What is written over an object that fits -/

theorem at?_updatedObject (hlive : live.IsProper) (hd : d.IsBuilt)
    (hmerge : mergeImmutable d.kind live d.object = (none, target))
    (hmem : path ∈ d.kind.immutableFields)
    (hcarried : carriedValue (live.body.at? path) (d.object.body.at? path) = some wanted) :
    (updatedObject live target).body.at? path = some wanted := by
  obtain ⟨hfields, -⟩ := mergeImmutable_eq hmerge
  have htakes := takesFields_immutableFields hd.object.body d.kind
  obtain ⟨hvalue, -⟩ := mergeFields_eq_none htakes hfields path hmem
  rw [hcarried] at hvalue
  have htarget := mergeImmutable_isBuilt hlive hd.object hmerge
  obtain ⟨field, rfl⟩ := Kind.immutableFields_below_spec hmem
  rcases at?_overlayBody live.body htarget.body field with hsame | ⟨hnone, -⟩
  · exact hsame.trans hvalue
  · rw [hnone] at hvalue
    simp at hvalue

namespace Fits

theorem exists_merge (hfits : Fits d live) (hd : d.IsBuilt) :
    ∃ target, mergeImmutable d.kind live d.object = (none, target) := by
  have hagree : ∀ path ∈ d.kind.immutableFields, ∀ value wanted,
      Json.content? (live.body.at? path) = some value →
      Json.content? (d.object.body.at? path) = some wanted → (wanted == value) = true := by
    intro path hmem value wanted hvalue hwanted
    have hagrees := hfits.agrees hmem (Json.content?_eq_some_iff.mp hwanted).1
    rw [(Json.content?_eq_some_iff.mp hvalue).1] at hagrees
    obtain rfl := Option.some.inj hagrees
    exact Json.beq_self value
  obtain ⟨merged, hmerged⟩ := exists_mergeFields_eq
    (takesFields_immutableFields hd.object.body d.kind) hagree
  refine ⟨{ d.object with body := merged }, ?_⟩
  unfold mergeImmutable
  rw [hmerged]

/-- A replacement over an object that fits has the desired value wherever a field cannot
change. -/
theorem at?_updated (hd : d.IsBuilt) (hlive : live.IsProper)
    (hmerge : mergeImmutable d.kind live d.object = (none, target))
    (hmem : path ∈ d.kind.immutableFields) (hwanted : d.object.body.at? path = some wanted) :
    (updatedObject live target).body.at? path = some wanted := by
  have hcontent : Json.content? (d.object.body.at? path) = some wanted :=
    Json.content?_eq_some_iff.mpr ⟨hwanted, (hd.textual hmem hwanted).isEmpty⟩
  exact at?_updatedObject hlive hd hmerge hmem
    ((carriedValue_of_content hcontent).trans hwanted)

theorem address_updated (hfits : Fits d live) (hd : d.IsBuilt) (hlive : live.IsProper)
    (hmerge : mergeImmutable d.kind live d.object = (none, target)) (hkind : d.kind = .service)
    (hip : live.body.at? ["spec", "clusterIP"] = some ip) (htextual : ip.IsTextual) :
    (updatedObject live target).body.at? ["spec", "clusterIP"] = some ip := by
  have hmem : ["spec", "clusterIP"] ∈ d.kind.immutableFields := by
    rw [hkind]
    decide
  cases hwanted : d.object.body.at? ["spec", "clusterIP"] with
  | some wanted =>
      have hagrees := hfits.agrees hmem hwanted
      rw [hip] at hagrees
      obtain rfl := Option.some.inj hagrees
      exact at?_updated hd hlive hmerge hmem hwanted
  | none =>
      refine at?_updatedObject hlive hd hmerge hmem ?_
      have hcontent : Json.content? (some ip) = some ip :=
        Json.content?_eq_some_iff.mpr ⟨rfl, htextual.isEmpty⟩
      rw [hwanted, hip]
      simp [carriedValue, hcontent]

theorem nextObject (hfits : Fits d live) (hd : d.IsBuilt) (hlive : live.IsProper)
    (hmerge : mergeImmutable d.kind live d.object = (none, target)) (s : Store) :
    Fits d (s.nextObject live (updatedObject live target)) := by
  constructor
  · intro path wanted hmem hwanted
    exact Store.at?_stored s (hd.textual hmem hwanted) (at?_updated hd hlive hmerge hmem hwanted)
  · intro hkind
    obtain ⟨ip, hip, htextual⟩ := hfits.addressed hkind
    exact ⟨ip, Store.at?_stored s htextual
      (hfits.address_updated hd hlive hmerge hkind hip htextual), htextual⟩

theorem address_nextObject (hfits : Fits d live) (hd : d.IsBuilt) (hlive : live.IsProper)
    (hmerge : mergeImmutable d.kind live d.object = (none, target)) (hkind : d.kind = .service)
    (s : Store) :
    (s.nextObject live (updatedObject live target)).body.at? ["spec", "clusterIP"] =
      live.body.at? ["spec", "clusterIP"] := by
  obtain ⟨ip, hip, htextual⟩ := hfits.addressed hkind
  rw [hip]
  exact Store.at?_stored s htextual
    (hfits.address_updated hd hlive hmerge hkind hip htextual)

theorem replaced_eq (hfits : Fits d live) (hd : d.IsBuilt) (hs : s.Sound)
    (hlive : s.get? d.place = some live)
    (hmerge : mergeImmutable d.kind live d.object = (none, target)) :
    ∃ written, (Store.replaced d.kind (updatedObject live target) s).1 = .ok written := by
  have hsame : Store.changesAddress d.kind live (updatedObject live target) = false := by
    unfold Store.changesAddress
    by_cases hkind : d.kind = .service
    · obtain ⟨ip, hip, htextual⟩ := hfits.addressed hkind
      rw [hip, hfits.address_updated hd (hs.proper hlive) hmerge hkind hip htextual]
      simp
    · simp [hkind]
  unfold Store.replaced
  simp only [place_updatedObject hs hlive target, hlive, hsame]
  simp [updatedObject]

end Fits

end AgentOperator
