import AgentOperator.Proofs.Reconcile.Merge

/-!
# Settled objects

The fixed points on which repeated passes rest.  A live object is settled for a
desired one when the two merge and the live one holds the outcome already.  What
a pass writes over a live object is settled.
-/

namespace AgentOperator

open Json (Path)

/-! ## What is written over a live object -/

/-- What is written over the live body is an object: the live body is one, or there is a
field to write into it. -/
def BecomesObject (live desired : Json) : Prop :=
  live.IsObject ∨ desired.fieldsOrNone ≠ []

theorem overlayBody_of_nil (live : Json) {desired : Json} (hnone : desired.fieldsOrNone = []) :
    overlayBody live desired = live := by
  unfold overlayBody
  rw [hnone]
  rfl

/-- A live body counts as an object as soon as a field is written into it. -/
theorem overlayBody_eq {live desired : Json} (hobject : BecomesObject live desired)
    (hplain : ∀ entry ∈ desired.fieldsOrNone, Json.segmentsOf entry.1 = [entry.1]) :
    overlayBody live desired =
      .obj (Keyed.merge live.fieldsOrNone desired.fieldsOrNone) := by
  unfold BecomesObject at hobject
  unfold overlayBody
  generalize desired.fieldsOrNone = fields at hobject hplain
  induction fields generalizing live with
  | nil => exact hobject.resolve_right fun hne => hne rfl
  | cons entry rest ih =>
      rw [List.foldl_cons, hplain entry List.mem_cons_self, Json.setAt_single,
        ih (.inl (Json.isObject_obj _)) fun other hmem => hplain other (List.mem_cons_of_mem _ hmem)]
      rfl

theorem get?_overlayBody {live desired : Json} (hobject : BecomesObject live desired)
    (hdesired : desired.IsBody)
    (hplain : ∀ entry ∈ desired.fieldsOrNone, Json.segmentsOf entry.1 = [entry.1])
    (key : String) :
    Keyed.get? key (overlayBody live desired).fieldsOrNone =
      (Keyed.get? key desired.fieldsOrNone).or (Keyed.get? key live.fieldsOrNone) := by
  rw [overlayBody_eq hobject hplain, Json.fieldsOrNone_obj]
  exact Keyed.get?_merge hdesired.canonical.fieldsOrNone.ordered key

theorem overlayBody_isBody {live desired : Json} (hobject : BecomesObject live desired)
    (hlive : live.Canonical) (hdesired : desired.IsBody)
    (hplain : ∀ entry ∈ desired.fieldsOrNone, Json.segmentsOf entry.1 = [entry.1]) :
    (overlayBody live desired).IsBody := by
  rw [overlayBody_eq hobject hplain]
  refine ⟨rfl, ?_⟩
  exact hlive.fieldsOrNone.merge fun entry hmem =>
    hdesired.canonical.fieldsOrNone.of_mem hmem

theorem overlayBody_canonical {live desired : Json} (hlive : live.Canonical)
    (hdesired : desired.IsBody)
    (hplain : ∀ entry ∈ desired.fieldsOrNone, Json.segmentsOf entry.1 = [entry.1]) :
    (overlayBody live desired).Canonical := by
  by_cases hnone : desired.fieldsOrNone = []
  · rwa [overlayBody_of_nil live hnone]
  · exact (overlayBody_isBody (.inr hnone) hlive hdesired hplain).canonical

theorem contains_overlayBody {live desired : Json} (hobject : BecomesObject live desired)
    (hdesired : desired.IsBody)
    (hplain : ∀ entry ∈ desired.fieldsOrNone, Json.segmentsOf entry.1 = [entry.1]) :
    (overlayBody live desired).contains desired = true := by
  rw [overlayBody_eq hobject hplain, hdesired.isObject, Json.fieldsOrNone_obj,
    Json.contains, Json.containsFields_iff]
  intro entry hmem
  rw [Keyed.get?_merge_of_mem hdesired.canonical.fieldsOrNone.ordered.distinct hmem]
  exact (hdesired.canonical.fieldsOrNone.of_mem hmem).contains_self

/-- Nothing but an object holds an object, also one without fields. -/
theorem Json.isObject_of_contains {live : Json} {fields : List (String × Json)}
    (hheld : live.contains (.obj fields) = true) : live.IsObject := by
  cases live with
  | obj fields => exact Json.isObject_obj fields
  | _ => simp [Json.contains, BEq.beq, Json.same] at hheld

/-- At a field of the spec what is written has the desired value, unless no spec
is desired. -/
theorem at?_overlayBody (live : Json) {desired : Json} (hdesired : desired.IsBuiltBody)
    (field : String) :
    (overlayBody live desired).at? ["spec", field] = desired.at? ["spec", field] ∨
      desired.at? ["spec", field] = none ∧
        (overlayBody live desired).at? ["spec", field] = live.at? ["spec", field] := by
  have hbelow : ∀ body : Json, body.at? ["spec", field] =
      (Keyed.get? "spec" body.fieldsOrNone).bind fun inner => inner.at? [field] := by
    intro body
    rw [← Json.at?_asObject, Json.asObject, Json.at?_obj_cons]
  by_cases hnone : desired.fieldsOrNone = []
  · refine .inr ⟨?_, ?_⟩
    · rw [hbelow, hnone]
      rfl
    · rw [overlayBody_of_nil live hnone]
  · rw [hbelow (overlayBody live desired), hbelow desired, hbelow live,
      get?_overlayBody (.inr hnone) hdesired.toIsBody hdesired.plain]
    cases Keyed.get? "spec" desired.fieldsOrNone with
    | none => exact .inr ⟨rfl, rfl⟩
    | some value => exact .inl rfl

theorem hasEntries_self (entries : Option (Dict String)) : hasEntries entries entries := by
  unfold hasEntries
  rw [List.all_eq_true]
  intro entry hmem
  rw [Dict.get?_of_mem _ hmem]
  exact beq_self_eq_true _

theorem hasEntries_overlayEntries (live desired : Option (Dict String)) :
    hasEntries (overlayEntries live desired) desired := by
  cases desired with
  | none => rfl
  | some entries =>
      unfold hasEntries overlayEntries
      rw [List.all_eq_true]
      intro entry hmem
      have hget : entries.get? entry.1 = some entry.2 := Dict.get?_of_mem _ hmem
      rw [Option.getD_some, Dict.get?_merge, hget, Option.some_or]
      exact beq_self_eq_true _

theorem hasOwners_self (owners : Option (List OwnerReference)) : hasOwners owners owners := by
  unfold hasOwners
  rw [List.all_eq_true]
  intro owner hmem
  exact List.contains_iff_mem.mpr hmem

theorem hasOwners_orElse (live desired : Option (List OwnerReference)) :
    hasOwners (desired <|> live) desired := by
  cases desired with
  | none => rfl
  | some owners => exact hasOwners_self (some owners)

/-! ## Settled objects -/

/-- The live object already holds what is desired: a pass leaves it alone. -/
def Settled (d : Desired) (live : Object) : Prop :=
  ∃ target, mergeImmutable d.kind live d.object = (none, target) ∧
    isUnchanged live target = true

theorem mergeImmutable_eq {kind : Kind} {live desired target : Object}
    {conflict : Option Path} (hmerge : mergeImmutable kind live desired = (conflict, target)) :
    mergeFields live.body kind.immutableFields desired.body = (conflict, target.body) ∧
      target = { desired with body := target.body } := by
  unfold mergeImmutable at hmerge
  obtain ⟨rfl, rfl⟩ := Prod.mk.inj hmerge
  exact ⟨rfl, rfl⟩

theorem mergeImmutable_isBuilt {kind : Kind} {live desired target : Object}
    {conflict : Option Path} (hlive : live.IsProper) (hdesired : desired.IsBuilt)
    (hmerge : mergeImmutable kind live desired = (conflict, target)) : target.IsBuilt := by
  obtain ⟨hbody, htarget⟩ := mergeImmutable_eq hmerge
  refine ⟨?_, ?_⟩
  · rw [htarget]
    exact hdesired.named
  · have hpaths : ∀ path ∈ kind.immutableFields, ∃ field, path = ["spec", field] :=
      fun _ hmem => Kind.immutableFields_below_spec hmem
    have hbuilt := mergeFields_isBuiltBody hpaths hlive.body hdesired.body
    rwa [hbody] at hbuilt

theorem updatedObject_isProper {live target : Object} (hlive : live.IsProper)
    (htarget : target.IsBuilt) : (updatedObject live target).IsProper :=
  ⟨hlive.named, overlayBody_canonical hlive.body htarget.body.toIsBody htarget.body.plain⟩

theorem isUnchanged_updatedObject {live target : Object}
    (hobject : BecomesObject live.body target.body) (htarget : target.body.IsBody)
    (hplain : ∀ entry ∈ target.body.fieldsOrNone, Json.segmentsOf entry.1 = [entry.1]) :
    isUnchanged (updatedObject live target) target = true := by
  unfold isUnchanged updatedObject
  simp only [Bool.and_eq_true]
  exact ⟨⟨⟨hasOwners_orElse _ _, hasEntries_overlayEntries _ _⟩,
    hasEntries_overlayEntries _ _⟩,
    contains_overlayBody hobject htarget hplain⟩

/-- What was written holds all that is desired exactly if its body became an object. -/
theorem isUnchanged_updatedObject_iff {live target : Object} (htarget : target.body.IsBody)
    (hplain : ∀ entry ∈ target.body.fieldsOrNone, Json.segmentsOf entry.1 = [entry.1]) :
    isUnchanged (updatedObject live target) target = true ↔
      BecomesObject live.body target.body := by
  refine ⟨fun hheld => ?_, fun hobject => isUnchanged_updatedObject hobject htarget hplain⟩
  by_cases hnone : target.body.fieldsOrNone = []
  · unfold isUnchanged at hheld
    simp only [Bool.and_eq_true] at hheld
    have hbody : (overlayBody live.body target.body).contains target.body = true := hheld.2
    rw [overlayBody_of_nil live.body hnone, htarget.isObject] at hbody
    exact .inl (Json.isObject_of_contains hbody)
  · exact .inr hnone

/-- Merging with what was written gives what was written. -/
theorem mergeImmutable_updatedObject {kind : Kind} {live desired target : Object}
    (hlive : live.IsProper) (hdesired : desired.IsBuilt)
    (hmerge : mergeImmutable kind live desired = (none, target)) :
    mergeImmutable kind (updatedObject live target) desired = (none, target) := by
  have htarget := mergeImmutable_isBuilt hlive hdesired hmerge
  obtain ⟨hfields, heq⟩ := mergeImmutable_eq hmerge
  have htakes := takesFields_immutableFields hdesired.body kind
  have hcarried := mergeFields_eq_none htakes hfields
  have hagain : mergeFields (updatedObject live target).body kind.immutableFields
      desired.body = (none, target.body) := by
    refine mergeFields_congr htakes ?_ hfields
    intro path hmem
    obtain ⟨hvalue, -⟩ := hcarried path hmem
    obtain ⟨field, rfl⟩ := Kind.immutableFields_below_spec hmem
    have hat := at?_overlayBody live.body htarget.body field
    rw [hvalue] at hat
    change (overlayBody live.body target.body).at? _ = _ ∨ _ ∧
      (overlayBody live.body target.body).at? _ = _ at hat
    constructor
    · intro hnone
      rcases hat with hsame | ⟨-, hlive⟩
      · exact (congrArg Json.content? hsame).trans (content?_carriedValue_of_none hnone)
      · exact congrArg Json.content? hlive
    · intro value wanted hother hwanted
      rw [carriedValue_of_content hwanted] at hat
      rcases hat with hsame | ⟨hnone, -⟩
      · obtain rfl : wanted = value := by
          refine Option.some.inj (hwanted.symm.trans ?_)
          exact (congrArg Json.content? hsame).symm.trans hother
        exact Json.beq_self wanted
      · rw [hnone] at hwanted
        simp at hwanted
  unfold mergeImmutable
  rw [hagain, heq]

/-- A merge takes no field away. -/
theorem BecomesObject.merged {kind : Kind} {live desired target : Object}
    {conflict : Option Path} (hobject : BecomesObject live.body desired.body)
    (hmerge : mergeImmutable kind live desired = (conflict, target)) :
    BecomesObject live.body target.body := by
  obtain ⟨hfields, -⟩ := mergeImmutable_eq hmerge
  refine hobject.imp_right fun hsome => ?_
  have hset : ∀ path ∈ kind.immutableFields, ∀ value, live.body.at? path = some value →
      ∀ body : Json, body.fieldsOrNone ≠ [] → (body.setAt path value).fieldsOrNone ≠ [] := by
    intro path hmem value _ body _ hnil
    obtain ⟨field, rfl⟩ := Kind.immutableFields_below_spec hmem
    have hspec := Keyed.get?_insert_self "spec"
      (((Keyed.get? "spec" body.fieldsOrNone).getD .empty).setAt [field] value)
      body.fieldsOrNone
    rw [Json.setAt_cons, Json.fieldsOrNone_obj] at hnil
    rw [hnil] at hspec
    simp [Keyed.get?] at hspec
  have hkept := mergeFields_preserves (fun body => body.fieldsOrNone ≠ []) hset hsome
  rwa [hfields] at hkept

/-- What was written over a live object is settled, if its body became an object. -/
theorem settled_updatedObject {d : Desired} {live target : Object} (hlive : live.IsProper)
    (hdesired : d.object.IsBuilt) (hobject : BecomesObject live.body d.object.body)
    (hmerge : mergeImmutable d.kind live d.object = (none, target)) :
    Settled d (updatedObject live target) := by
  have htarget := mergeImmutable_isBuilt hlive hdesired hmerge
  exact ⟨target, mergeImmutable_updatedObject hlive hdesired hmerge,
    isUnchanged_updatedObject (hobject.merged hmerge) htarget.body.toIsBody
      htarget.body.plain⟩

theorem Settled.isObject {d : Desired} {live : Object} (hsettled : Settled d live)
    (hlive : live.IsProper) (hdesired : d.object.IsBuilt) : live.body.IsObject := by
  obtain ⟨target, hmerge, hunchanged⟩ := hsettled
  have htarget := mergeImmutable_isBuilt hlive hdesired hmerge
  unfold isUnchanged at hunchanged
  simp only [Bool.and_eq_true] at hunchanged
  have hheld := hunchanged.2
  rw [htarget.body.isObject] at hheld
  exact Json.isObject_of_contains hheld

/-! ## Immutable fields of settled objects -/

/-- A settled object has the desired value at every immutable field for which the
desired object has a text. -/
theorem Settled.at?_eq {d : Desired} {live : Object} (hsettled : Settled d live)
    (hdesired : d.object.IsBuilt) {path : Path}
    (hmem : path ∈ d.kind.immutableFields) {wanted : Json}
    (hwanted : d.object.body.at? path = some wanted)
    (htextual : wanted.IsTextual) : live.body.at? path = some wanted := by
  obtain ⟨target, hmerge, hunchanged⟩ := hsettled
  obtain ⟨hfields, -⟩ := mergeImmutable_eq hmerge
  have htakes := takesFields_immutableFields hdesired.body d.kind
  obtain ⟨hvalue, hagree⟩ := mergeFields_eq_none htakes hfields path hmem
  have hcontent : Json.content? (d.object.body.at? path) = some wanted :=
    Json.content?_eq_some_iff.mpr ⟨hwanted, htextual.isEmpty⟩
  rw [carriedValue_of_content hcontent, hwanted] at hvalue
  have hholds : ∃ value, live.body.at? path = some value ∧
      value.contains wanted = true := by
    unfold isUnchanged at hunchanged
    simp only [Bool.and_eq_true] at hunchanged
    exact Json.contains_at? hunchanged.2 hvalue htextual.isOmissible
  obtain ⟨value, hlive, hcontains⟩ := hholds
  have hliveContent : Json.content? (live.body.at? path) = some value :=
    Json.content?_eq_some_iff.mpr ⟨hlive, htextual.isEmpty_of_contains hcontains⟩
  have hsame := hagree value wanted hliveContent hcontent
  rw [hlive, htextual.eq_of_same value hsame]

end AgentOperator