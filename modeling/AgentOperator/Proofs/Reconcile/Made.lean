import AgentOperator.Proofs.Manifest.Alike
import AgentOperator.Proofs.Reconcile.Settled

/-!
# Objects as the server made them

What the server makes of a desired object differs from it by no more than an
address.  Where an object stands as it was made of one desired object and another
one like it is desired, the two merge, and whether the pass leaves the object
alone is decided by the two desired objects.
-/

namespace AgentOperator

variable {d e : Desired} {live : Object}

/-- The live object is what the server made of the desired one. -/
structure Made (d : Desired) (live : Object) : Prop where
  body : ∃ number, live.body =
    if d.kind = .service then Store.allocate number d.object.body else d.object.body
  labels : live.metadata.labels = d.object.metadata.labels
  annotations : live.metadata.annotations = d.object.metadata.annotations
  owners : live.metadata.ownerReferences = d.object.metadata.ownerReferences

/-! ## Bodies with one field -/

theorem Kind.segmentsOf_bodyKey {kind : Kind} {key : String}
    (hkey : kind.bodyKey? = some key) : Json.segmentsOf key = [key] := by
  have hcases : key = "data" ∨ key = "spec" := by
    cases kind <;> simp [bodyKey?] at hkey <;> simp [hkey]
  rcases hcases with rfl | rfl
  · decide
  · exact Json.segmentsOf_spec

/-- Where both bodies have one and the same field, what is written is what is
desired. -/
theorem overlayBody_of_hasOnly (kind : Kind) {live desired : Json}
    (hlive : live.HasOnly kind.bodyKey?) (hdesired : desired.HasOnly kind.bodyKey?) :
    overlayBody live desired = desired := by
  cases hkey : kind.bodyKey? with
  | none =>
      rw [hkey] at hlive hdesired
      rw [hlive, hdesired]
      rfl
  | some key =>
      have hplain := Kind.segmentsOf_bodyKey hkey
      rw [hkey] at hlive hdesired
      obtain ⟨value, rfl⟩ := hlive
      obtain ⟨wanted, rfl⟩ := hdesired
      simp [overlayBody, hplain, Keyed.insert]

/-- The body of a service has a spec and nothing else. -/
theorem Desired.IsBuilt.exists_ofSpec (hd : d.IsBuilt) (hkind : d.kind = .service) :
    ∃ spec, d.object.body = .ofSpec spec := by
  have hfield := hd.field
  rw [hkind] at hfield
  obtain ⟨value, hbody⟩ := hfield
  have hvalue : value = .obj value.fieldsOrNone := by
    apply hd.object.body.spec
    rw [hbody]
    rfl
  refine ⟨value.fieldsOrNone, ?_⟩
  rw [hbody, Json.ofSpec, ← hvalue]

/-! ## Merging with what was made -/

/-- The bodies meet: the live one merges with the desired one without conflict, the
outcome is the desired one but for the address, it is what would be written, and
the live one holds it just when the body that it was made of holds what is
desired. -/
structure Meets (kind : Kind) (live old wanted merged : Json) : Prop where
  merge : mergeFields live kind.immutableFields wanted = (none, merged)
  contains : live.contains merged = old.contains wanted
  own_live : ownBody kind live = ownBody kind old
  own_merged : ownBody kind merged = ownBody kind wanted
  overlay : overlayBody live merged = merged

theorem meets_service {old wanted : List (String × Json)}
    (hold : IsAddressable (.ofSpec old)) (hwanted : IsAddressable (.ofSpec wanted))
    (hsame : (Json.ofSpec old).at? ["spec", "clusterIP"] =
      (Json.ofSpec wanted).at? ["spec", "clusterIP"]) (number : Nat) :
    Meets .service (Store.allocate number (.ofSpec old)) (.ofSpec old) (.ofSpec wanted)
      (Store.addressed number (.ofSpec wanted)) := by
  have haddress := Store.addressOf_congr number hsame
  constructor
  · apply hwanted.mergeFields_eq
    · rw [hold.at?_allocate_clusterIP, haddress]
    · rw [hold.at?_allocate_clusterIPs, haddress]
  · exact hold.contains_allocate hwanted hsame number
  · exact hold.withoutSpecFields_allocate number
  · exact IsAddressable.withoutSpecFields_addressed wanted number
  · rw [hold.allocate_eq, IsAddressable.addressed_ofSpec, IsAddressable.addressed_ofSpec,
      Json.setAt_ofSpec]
    exact overlayBody_of_hasOnly .service ⟨_, rfl⟩ ⟨_, rfl⟩

theorem meets_other {kind : Kind} {old wanted : Json}
    (hold : old.HasOnly kind.bodyKey?) (hwanted : wanted.HasOnly kind.bodyKey?)
    (hsame : ∀ path ∈ kind.immutableFields, old.at? path = wanted.at? path) :
    Meets kind old old wanted wanted :=
  ⟨mergeFields_self hsame, rfl, rfl, rfl, overlayBody_of_hasOnly kind hold hwanted⟩

/-- What was made of an object meets any object like it. -/
theorem Made.exists_meets (hmade : Made e live) (he : e.IsBuilt) (hd : d.IsBuilt)
    (halike : e.Alike d) :
    ∃ merged, Meets d.kind live.body e.object.body d.object.body merged := by
  obtain ⟨number, hbody⟩ := hmade.body
  by_cases hkind : d.kind = .service
  · have hkind' : e.kind = .service := halike.kind.trans hkind
    obtain ⟨old, hold⟩ := he.exists_ofSpec hkind'
    obtain ⟨wanted, hwanted⟩ := hd.exists_ofSpec hkind
    have hsame := halike.immutable ["spec", "clusterIP"] (by rw [hkind]; decide)
    have haddress := he.addressable hkind'
    have haddress' := hd.addressable hkind
    rw [if_pos hkind'] at hbody
    rw [hold] at hbody hsame haddress ⊢
    rw [hwanted] at hsame haddress' ⊢
    rw [hbody, hkind]
    exact ⟨_, meets_service haddress haddress' hsame number⟩
  · have hkind' : e.kind ≠ .service := halike.kind ▸ hkind
    rw [if_neg hkind'] at hbody
    rw [hbody]
    have hfield := he.field
    rw [halike.kind] at hfield
    exact ⟨_, meets_other hfield hd.field halike.immutable⟩

namespace Meets

variable {merged : Json}

theorem mergeImmutable_eq (hmeets : Meets d.kind live.body e.object.body d.object.body merged) :
    mergeImmutable d.kind live d.object = (none, { d.object with body := merged }) := by
  unfold mergeImmutable
  rw [hmeets.merge]

/-- Whether the object is left alone is decided by the two desired ones. -/
theorem isUnchanged_eq (hmeets : Meets d.kind live.body e.object.body d.object.body merged)
    (hmade : Made e live) :
    isUnchanged live { d.object with body := merged } = isUnchanged e.object d.object := by
  unfold isUnchanged
  rw [hmade.owners, hmade.labels, hmade.annotations, hmeets.contains]

end Meets

theorem isUnchanged_self {object : Object} (hbody : object.body.Canonical) :
    isUnchanged object object = true := by
  unfold isUnchanged
  simp only [Bool.and_eq_true]
  exact ⟨⟨⟨hasOwners_self _, hasEntries_self _⟩, hasEntries_self _⟩, hbody.contains_self⟩

/-- What was made is settled. -/
theorem Made.settled (hmade : Made d live) (hd : d.IsBuilt) : Settled d live := by
  obtain ⟨merged, hmeets⟩ := hmade.exists_meets hd hd (.refl d)
  refine ⟨_, hmeets.mergeImmutable_eq, ?_⟩
  rw [hmeets.isUnchanged_eq hmade]
  exact isUnchanged_self hd.object.body.canonical

end AgentOperator
