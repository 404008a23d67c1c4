import AgentOperator.Proofs.Json.Strip

/-!
# Fields that lose their content

Dropping the fields without content works from the inside out, so an object all of
whose fields go is left without content itself and goes too.  Whether a missing field
may be missing is judged of the desired field as it is, from the outside.  The two agree
on every field but these: what is left of a value holds all that the value asks for
exactly when no field in it, however deep, is an object that has fields and loses all of
them.
-/

namespace AgentOperator.Json

variable {value : Json} {fields : List (String × Json)} {key : String}

mutual

/-- An object that has fields, each of which is without content or becomes so. -/
def isHollow : Json → Bool
  | obj fields => !fields.isEmpty && loseContent fields
  | _ => false

def loseContent : List (String × Json) → Bool
  | [] => true
  | (_, value) :: rest => (value.isEmpty || isHollow value) && loseContent rest

end

mutual

/-- Whether a field of an object in the value, at any depth, is hollow. -/
def hasHollow : Json → Bool
  | arr elements => elementsHaveHollow elements
  | obj fields => fieldsHaveHollow fields
  | _ => false

def elementsHaveHollow : List Json → Bool
  | [] => false
  | element :: rest => hasHollow element || elementsHaveHollow rest

def fieldsHaveHollow : List (String × Json) → Bool
  | [] => false
  | (_, value) :: rest => isHollow value || hasHollow value || fieldsHaveHollow rest

end

/-! ## What is left without content -/

mutual

theorem isEmpty_stripEmpty (value : Json) :
    value.stripEmpty.isEmpty = (value.isEmpty || value.isHollow) := by
  cases value with
  | obj fields =>
      rw [stripEmpty, isEmpty, isEmpty, isHollow, isEmpty_stripFields fields]
      cases fields <;> rfl
  | arr elements => cases elements <;> rfl
  | _ => simp [stripEmpty, isHollow]

theorem isEmpty_stripFields (fields : List (String × Json)) :
    (stripFields fields).isEmpty = loseContent fields := by
  match fields with
  | [] => rfl
  | (key, value) :: rest =>
      rw [stripFields, loseContent, ← isEmpty_stripEmpty value, ← isEmpty_stripFields rest]
      cases value.stripEmpty.isEmpty <;> rfl

end

theorem isHollow_of_isEmpty (hempty : value.isEmpty = true) : value.isHollow = false := by
  cases value with
  | obj fields =>
      rw [isEmpty] at hempty
      rw [isHollow, hempty]
      rfl
  | _ => rfl

theorem hasHollow_of_isEmpty (hempty : value.isEmpty = true) : value.hasHollow = false := by
  cases value with
  | obj fields =>
      obtain rfl := List.isEmpty_iff.mp hempty
      rfl
  | arr elements =>
      obtain rfl := List.isEmpty_iff.mp hempty
      rfl
  | _ => rfl

/-- A hollow value may not be missing, although it is dropped. -/
theorem isOmissible_of_isHollow (hhollow : value.isHollow = true) :
    value.isOmissible = false := by
  cases value with
  | obj fields =>
      rw [isHollow, Bool.and_eq_true] at hhollow
      simpa [isOmissible, isEmpty] using hhollow.1
  | _ => simp [isHollow] at hhollow

/-! ## Look-ups in what is left -/

theorem mem_of_mem_stripFields {entry : String × Json} (hmem : entry ∈ stripFields fields) :
    ∃ value, (entry.1, value) ∈ fields ∧ entry.2 = value.stripEmpty := by
  rw [stripFields_eq] at hmem
  obtain ⟨hmap, -⟩ := List.mem_filter.mp hmem
  obtain ⟨⟨key, value⟩, hold, rfl⟩ := List.mem_map.mp hmap
  exact ⟨value, hold, rfl⟩

theorem get?_stripFields_of_none (hget : Keyed.get? key fields = none) :
    Keyed.get? key (stripFields fields) = none := by
  cases hstripped : Keyed.get? key (stripFields fields) with
  | none => rfl
  | some found =>
      obtain ⟨value, hmem, -⟩ := mem_of_mem_stripFields (Keyed.mem_of_get? hstripped)
      exact absurd rfl (Keyed.forall_ne_of_get?_eq_none hget _ hmem)

/-- A field that is left without content is gone, where no other has its key. -/
theorem get?_stripFields_of_isEmpty (hordered : Keyed.Ordered fields)
    (hget : Keyed.get? key fields = some value) (hempty : value.stripEmpty.isEmpty = true) :
    Keyed.get? key (stripFields fields) = none := by
  cases hstripped : Keyed.get? key (stripFields fields) with
  | none => rfl
  | some found =>
      have hmem := Keyed.mem_of_get? hstripped
      obtain ⟨other, hother, hfound⟩ := mem_of_mem_stripFields hmem
      have hsame : some value = some other := hget.symm.trans (hordered.get?_of_mem hother)
      obtain rfl := Option.some.inj hsame
      rw [stripFields_eq] at hmem
      have hcontent := (List.mem_filter.mp hmem).2
      rw [hfound, hempty] at hcontent
      simp at hcontent

/-- What is left at a key was stripped. -/
theorem exists_get?_of_stripFields (hordered : Keyed.Ordered fields)
    (hget : Keyed.get? key (stripFields fields) = some value) :
    ∃ old, Keyed.get? key fields = some old ∧ value = old.stripEmpty := by
  obtain ⟨old, hmem, hvalue⟩ := mem_of_mem_stripFields (Keyed.mem_of_get? hget)
  exact ⟨old, hordered.get?_of_mem hmem, hvalue⟩

theorem Canonical.exists_child?_of_stripEmpty (hcanonical : value.Canonical)
    {segment : String} {inner : Json} (hchild : value.stripEmpty.child? segment = some inner) :
    ∃ old, value.child? segment = some old ∧ inner = old.stripEmpty := by
  cases value with
  | obj fields => exact exists_get?_of_stripFields hcanonical.ordered hchild
  | arr elements =>
      rw [Json.stripEmpty, stripElements_eq] at hchild
      obtain ⟨i, hindex, hget⟩ := Option.bind_eq_some_iff.mp hchild
      rw [List.getElem?_map] at hget
      obtain ⟨old, hold, rfl⟩ := Option.map_eq_some_iff.mp hget
      exact ⟨old, Option.bind_eq_some_iff.mpr ⟨i, hindex, hold⟩, rfl⟩
  | _ => simp [Json.stripEmpty, Json.child?] at hchild

/-- Where something is left there was something before. -/
theorem Canonical.exists_at?_of_stripEmpty (hcanonical : value.Canonical) {path : Path}
    {inner : Json} (hat : value.stripEmpty.at? path = some inner) :
    ∃ old, value.at? path = some old ∧ inner = old.stripEmpty := by
  induction path generalizing value with
  | nil => exact ⟨value, rfl, (Option.some.inj hat).symm⟩
  | cons segment rest ih =>
      obtain ⟨next, hchild, hrest⟩ := Option.bind_eq_some_iff.mp hat
      obtain ⟨old, hold, rfl⟩ := hcanonical.exists_child?_of_stripEmpty hchild
      obtain ⟨found, hfound, hinner⟩ := ih (hcanonical.child? hold) hrest
      exact ⟨found, Option.bind_eq_some_iff.mpr ⟨old, hold, hfound⟩, hinner⟩

/-- A place at which there is a text, or something made of texts, or nothing, is left
as it was. -/
theorem Canonical.at?_stripEmpty_eq (hcanonical : value.Canonical) {path : Path}
    (htextual : ∀ wanted, value.at? path = some wanted → wanted.IsTextual) :
    value.stripEmpty.at? path = value.at? path := by
  cases hat : value.at? path with
  | some wanted => exact (htextual wanted hat).at?_stripEmpty hat
  | none =>
      cases hleft : value.stripEmpty.at? path with
      | none => rfl
      | some inner =>
          obtain ⟨old, hold, -⟩ := hcanonical.exists_at?_of_stripEmpty hleft
          rw [hat] at hold
          simp at hold

/-- Whether a value with content is put in before or after the empty fields are dropped
makes no difference. -/
theorem stripFields_insert (hordered : Keyed.Ordered fields) (key : String)
    (hstrip : value.stripEmpty = value) (hcontent : value.isEmpty = false) :
    stripFields (Keyed.insert key value fields) =
      Keyed.insert key value (stripFields fields) := by
  have hhead : ∀ rest, stripFields ((key, value) :: rest) = (key, value) :: stripFields rest := by
    intro rest
    rw [stripFields, hstrip, hcontent]
    rfl
  have hfirst : ∀ {rest : List (String × Json)}, (∀ entry ∈ rest, key < entry.1) →
      Keyed.insert key value (stripFields rest) = (key, value) :: stripFields rest := by
    intro rest hlt
    refine Keyed.insert_of_forall_gt (fun entry hmem => ?_) value
    obtain ⟨old, hold, -⟩ := mem_of_mem_stripFields hmem
    exact hlt (entry.1, old) hold
  induction fields with
  | nil => exact hhead []
  | cons head rest ih =>
      obtain ⟨other, old⟩ := head
      have hbehind : ∀ entry ∈ rest, other < entry.1 := fun _ hmem =>
        List.rel_of_pairwise_cons hordered hmem
      rw [Keyed.insert]
      by_cases hlt : key < other
      · rw [if_pos hlt, hhead, hfirst]
        exact List.forall_mem_cons.mpr
          ⟨hlt, fun entry hmem => String.lt_trans hlt (hbehind entry hmem)⟩
      · rw [if_neg hlt]
        by_cases heq : other = key
        · subst heq
          rw [if_pos rfl, hhead, stripFields]
          cases old.stripEmpty.isEmpty with
          | true => exact (hfirst hbehind).symm
          | false => simp [Keyed.insert]
        · rw [if_neg heq, stripFields, stripFields, ih (List.Pairwise.of_cons hordered)]
          cases old.stripEmpty.isEmpty with
          | true => rfl
          | false => simp [Keyed.insert, hlt, heq]

/-! ## Holding what was dropped -/

theorem containsElements_stripElements {elements : List Json}
    (heach : ∀ element ∈ elements,
      contains element.stripEmpty element = true ↔ element.hasHollow = false) :
    containsElements (stripElements elements) elements = true ↔
      elementsHaveHollow elements = false := by
  induction elements with
  | nil => simp [stripElements, containsElements, elementsHaveHollow]
  | cons element rest ih =>
      rw [List.forall_mem_cons] at heach
      rw [stripElements, containsElements, elementsHaveHollow, Bool.and_eq_true,
        Bool.or_eq_false_iff, heach.1, ih heach.2]

theorem fieldsHaveHollow_eq_false_iff :
    fieldsHaveHollow fields = false ↔
      ∀ entry ∈ fields, entry.2.isHollow = false ∧ entry.2.hasHollow = false := by
  induction fields with
  | nil => simp [fieldsHaveHollow]
  | cons entry rest ih =>
      obtain ⟨key, value⟩ := entry
      rw [fieldsHaveHollow, Bool.or_eq_false_iff, Bool.or_eq_false_iff, ih,
        List.forall_mem_cons]

/-- What is left of a value holds all of it exactly when no field in it is hollow. -/
theorem Canonical.contains_stripEmpty_iff (hcanonical : value.Canonical) :
    contains value.stripEmpty value = true ↔ value.hasHollow = false := by
  induction hcanonical with
  | arr elements _ ih =>
      rw [Json.stripEmpty, contains, hasHollow]
      exact containsElements_stripElements ih
  | obj fields hordered _ ih =>
      rw [Json.stripEmpty, contains, containsFields_iff, hasHollow, fieldsHaveHollow_eq_false_iff]
      refine forall_congr' fun entry => forall_congr' fun hmem => ?_
      have hget := hordered.get?_of_mem hmem
      have hleft := isEmpty_stripEmpty entry.2
      cases hempty : entry.2.stripEmpty.isEmpty with
      | false =>
          rw [hempty] at hleft
          obtain ⟨-, hhollow⟩ := Bool.or_eq_false_iff.mp hleft.symm
          rw [get?_stripFields hget hempty, hhollow]
          simpa using ih entry hmem
      | true =>
          rw [hempty] at hleft
          rw [get?_stripFields_of_isEmpty hordered hget hempty]
          rcases (Bool.or_eq_true _ _).mp hleft.symm with hvalue | hhollow
          · simp [isOmissible_of_isEmpty hvalue, isHollow_of_isEmpty hvalue,
              hasHollow_of_isEmpty hvalue]
          · simp [isOmissible_of_isHollow hhollow, hhollow]
  | _ => simp [Json.stripEmpty, contains, hasHollow]

end AgentOperator.Json
