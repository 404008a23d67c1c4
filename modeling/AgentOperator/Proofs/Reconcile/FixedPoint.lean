import AgentOperator.Proofs.Json.Record
import AgentOperator.Proofs.Reconcile.Settled

/-!
# Updates as fixed points

What is written over a live object is the live object wherever nothing is desired, so
what others put into it stays, and writing the same over it again gives the same object.
It holds all that is desired, unless there was no object and no field to make one of.  And
an object that does not hold what is desired is another one after the write, also for a
server that tells zeros of either sign not apart.
-/

namespace AgentOperator

variable {live desired : Object}

/-! ## What is kept -/

theorem get?_overlayEntries (live desired : Option (Dict String)) (key : String) :
    ((overlayEntries live desired).getD ∅).get? key =
      ((desired.getD ∅).get? key).or ((live.getD ∅).get? key) := by
  cases desired with
  | none => rfl
  | some entries => exact Dict.get?_merge (live.getD ∅) entries key

theorem field?_overlayBody {live desired : Json} (hlive : live.IsBody)
    (hdesired : desired.IsBody)
    (hplain : ∀ entry ∈ desired.fieldsOrNone, Json.segmentsOf entry.1 = [entry.1])
    (key : String) :
    (overlayBody live desired).field? key = (desired.field? key).or (live.field? key) := by
  have hfield : ∀ {body : Json}, body = .obj body.fieldsOrNone →
      body.field? key = Keyed.get? key body.fieldsOrNone := by
    intro body hbody
    rw [hbody]
    rfl
  have hobject : BecomesObject live desired := .inl hlive.isObject
  rw [hfield (overlayBody_isBody hobject hlive.canonical hdesired hplain).isObject,
    hfield hdesired.isObject, hfield hlive.isObject]
  exact get?_overlayBody hobject hdesired hplain key

/-- Of the metadata nothing changes but the labels, the annotations and the owners.
Each label, each annotation and each field of the body is the desired one where there
is one and the live one elsewhere, and so are the owners as a whole. -/
theorem updatedObject_overlays (hlive : live.body.IsBody) (hdesired : desired.body.IsBody)
    (hslash : ∀ entry ∈ desired.body.fieldsOrNone, '/' ∉ entry.1.toList) :
    let updated := updatedObject live desired
    ({ updated.metadata with
        labels := live.metadata.labels
        annotations := live.metadata.annotations
        ownerReferences := live.metadata.ownerReferences } = live.metadata) ∧
    (∀ key, (updated.metadata.labels.getD ∅).get? key =
      ((desired.metadata.labels.getD ∅).get? key).or
        ((live.metadata.labels.getD ∅).get? key)) ∧
    (∀ key, (updated.metadata.annotations.getD ∅).get? key =
      ((desired.metadata.annotations.getD ∅).get? key).or
        ((live.metadata.annotations.getD ∅).get? key)) ∧
    updated.metadata.ownerReferences =
      desired.metadata.ownerReferences.or live.metadata.ownerReferences ∧
    updated.body.IsBody ∧
    ∀ key, updated.body.field? key =
      (desired.body.field? key).or (live.body.field? key) := by
  have hplain : ∀ entry ∈ desired.body.fieldsOrNone, Json.segmentsOf entry.1 = [entry.1] :=
    fun entry hmem => Json.segmentsOf_of_notMem (hslash entry hmem)
  refine ⟨rfl, get?_overlayEntries _ _, get?_overlayEntries _ _, ?_, ?_, ?_⟩
  · exact Option.orElse_eq_or
  · exact overlayBody_isBody (.inl hlive.isObject) hlive.canonical hdesired hplain
  · exact field?_overlayBody hlive hdesired hplain

/-! ## A config map that has drifted -/

def ConfigMap.stating (text : String) (others : List (String × Json)) : Object :=
  { types := none
    metadata := { name := some "a", namespaceName := some "ns" }
    body := .mkObj (("data", .mkObj [("text", .str text)]) :: others) }

theorem updatedObject_overlays_drifted :
    let live := (ConfigMap.stating "old" [("binaryData", .empty)]).withMetadata
      { name := some "a", resourceVersion := some "7", labels := some (.ofList [("team", "x")]) }
    let desired := (ConfigMap.stating "new" []).withMetadata
      { name := some "a", labels := some (.ofList [("app", "a")]) }
    let updated := updatedObject live desired
    updated.metadata.resourceVersion = some "7" ∧
    (updated.metadata.labels.getD ∅).get? "team" = some "x" ∧
    (updated.metadata.labels.getD ∅).get? "app" = some "a" ∧
    updated.body.field? "binaryData" = some .empty ∧
    updated.body.field? "data" = some (.mkObj [("text", .str "new")]) := by
  intro live desired updated
  have hlive : live.body.IsBody :=
    ⟨rfl, by simp [live, Object.withMetadata, ConfigMap.stating, Json.canonical_empty]⟩
  have hdesired : desired.body.IsBody :=
    ⟨rfl, by simp [desired, Object.withMetadata, ConfigMap.stating]⟩
  have hslash : ∀ entry ∈ desired.body.fieldsOrNone, '/' ∉ entry.1.toList := by decide
  obtain ⟨hmetadata, hlabels, -, -, -, hfields⟩ :=
    updatedObject_overlays hlive hdesired hslash
  refine ⟨congrArg Metadata.resourceVersion hmetadata, ?_, ?_, ?_, ?_⟩
  · exact (hlabels "team").trans (by decide)
  · exact (hlabels "app").trans (by decide)
  · exact (hfields "binaryData").trans (by decide)
  · exact (hfields "data").trans (by decide)

/-! ## Writing again -/

theorem overlayEntries_overlayEntries (live desired : Option (Dict String)) :
    overlayEntries (overlayEntries live desired) desired = overlayEntries live desired := by
  cases desired with
  | none => rfl
  | some entries =>
      show some (((live.getD ∅).merge entries).merge entries) = _
      rw [Dict.merge_merge_self]
      rfl

theorem overlayBody_overlayBody {live desired : Json} (hlive : live.Canonical)
    (hdesired : desired.IsBody)
    (hplain : ∀ entry ∈ desired.fieldsOrNone, Json.segmentsOf entry.1 = [entry.1]) :
    overlayBody (overlayBody live desired) desired = overlayBody live desired := by
  by_cases hnone : desired.fieldsOrNone = []
  · rw [overlayBody_of_nil live hnone, overlayBody_of_nil live hnone]
  · rw [overlayBody_eq (.inr hnone) hplain, overlayBody_eq (.inr hnone) hplain,
      Json.fieldsOrNone_obj,
      hlive.fieldsOrNone.ordered.merge_merge_self hdesired.canonical.fieldsOrNone.ordered]

theorem updatedObject_updatedObject (hlive : live.body.Canonical)
    (hdesired : desired.body.IsBody)
    (hplain : ∀ entry ∈ desired.body.fieldsOrNone, Json.segmentsOf entry.1 = [entry.1]) :
    updatedObject (updatedObject live desired) desired = updatedObject live desired := by
  have hbody := overlayBody_overlayBody hlive hdesired hplain
  have htypes : (desired.types <|> (desired.types <|> live.types)) =
      (desired.types <|> live.types) := by
    cases desired.types <;> rfl
  have howners : (desired.metadata.ownerReferences <|>
      (desired.metadata.ownerReferences <|> live.metadata.ownerReferences)) =
      (desired.metadata.ownerReferences <|> live.metadata.ownerReferences) := by
    cases desired.metadata.ownerReferences <;> rfl
  unfold updatedObject
  simp only [hbody, htypes, howners, overlayEntries_overlayEntries]

theorem isUnchanged_congr {live other : Object} (hmetadata : live.metadata = other.metadata)
    (hbody : (live.body == other.body) = true) (desired : Object) :
    isUnchanged live desired = isUnchanged other desired := by
  unfold isUnchanged
  rw [hmetadata, Json.contains_congr_left hbody]

/-- What is written over a live object holds all that is desired, unless the live body is
no object and no field is written into it.  Writing it again changes nothing, and it
differs from a live object that does not hold all that is desired: in its metadata, or in
its body also where zeros of either sign are equal. -/
theorem updatedObject_settles (hlive : live.body.Canonical) (hdesired : desired.body.IsBody)
    (hslash : ∀ entry ∈ desired.body.fieldsOrNone, '/' ∉ entry.1.toList) :
    (isUnchanged (updatedObject live desired) desired = true ↔
      live.body.IsObject ∨ desired.body.fieldsOrNone ≠ []) ∧
    updatedObject (updatedObject live desired) desired = updatedObject live desired ∧
    (live.body.IsObject ∨ desired.body.fieldsOrNone ≠ [] →
      isUnchanged live desired = false →
        (updatedObject live desired).metadata ≠ live.metadata ∨
          ((updatedObject live desired).body == live.body) = false) := by
  have hplain : ∀ entry ∈ desired.body.fieldsOrNone, Json.segmentsOf entry.1 = [entry.1] :=
    fun entry hmem => Json.segmentsOf_of_notMem (hslash entry hmem)
  refine ⟨isUnchanged_updatedObject_iff hdesired hplain, ?_, ?_⟩
  · exact updatedObject_updatedObject hlive hdesired hplain
  · intro hobject hdrifted
    have hheld := isUnchanged_updatedObject hobject hdesired hplain
    by_cases hmetadata : (updatedObject live desired).metadata = live.metadata
    · refine .inr ?_
      cases hequal : (updatedObject live desired).body == live.body with
      | false => rfl
      | true =>
          have hsame := isUnchanged_congr hmetadata hequal desired
          rw [hheld, hdrifted] at hsame
          simp at hsame
    · exact .inl hmetadata

theorem updatedObject_settles_drifted :
    let live := ConfigMap.stating "old" [("binaryData", .empty)]
    let desired := ConfigMap.stating "new" []
    isUnchanged live desired = false ∧
    isUnchanged (updatedObject live desired) desired = true ∧
    updatedObject (updatedObject live desired) desired = updatedObject live desired ∧
    ((updatedObject live desired).metadata ≠ live.metadata ∨
      ((updatedObject live desired).body == live.body) = false) := by
  intro live desired
  have hlive : live.body.Canonical := by
    simp [live, ConfigMap.stating, Json.canonical_empty]
  have hdesired : desired.body.IsBody := ⟨rfl, by simp [desired, ConfigMap.stating]⟩
  have hslash : ∀ entry ∈ desired.body.fieldsOrNone, '/' ∉ entry.1.toList := by decide
  have hdrifted : isUnchanged live desired = false := by decide
  have hobject : live.body.IsObject ∨ desired.body.fieldsOrNone ≠ [] := .inl rfl
  obtain ⟨hheld, hagain, hdiffers⟩ := updatedObject_settles hlive hdesired hslash
  exact ⟨hdrifted, hheld.mpr hobject, hagain, hdiffers hobject hdrifted⟩

/-- An object without a body is as it was when a body without fields was written over it,
and still does not hold that body. -/
theorem updatedObject_leaves_bodiless :
    let live : Object := { types := none, metadata := { name := some "a" }, body := .null }
    let desired : Object := { live with body := .empty }
    desired.body.IsObject ∧ (∀ entry ∈ desired.body.fieldsOrNone, '/' ∉ entry.1.toList) ∧
    isUnchanged live desired = false ∧
    updatedObject live desired = live ∧
    isUnchanged (updatedObject live desired) desired = false :=
  ⟨rfl, by decide, by decide, rfl, by decide⟩

end AgentOperator

