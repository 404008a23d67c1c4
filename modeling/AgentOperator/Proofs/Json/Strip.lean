import AgentOperator.Proofs.Json.Drift

/-!
# Values without empty fields

A store may drop the fields without content from what it keeps.  A value made of
texts with content is not touched by this, and it is found where it was, since no
value on the way to it is without content either.
-/

namespace AgentOperator.Json

variable {value wanted : Json}

theorem stripFields_eq (fields : List (String × Json)) :
    stripFields fields =
      (fields.map fun entry => (entry.1, entry.2.stripEmpty)).filter
        fun entry => !entry.2.isEmpty := by
  induction fields with
  | nil => rfl
  | cons head rest ih =>
      obtain ⟨key, value⟩ := head
      rw [stripFields, List.map_cons, List.filter_cons, ih]
      cases value.stripEmpty.isEmpty <;> rfl

theorem stripElements_eq (elements : List Json) :
    stripElements elements = elements.map stripEmpty := by
  induction elements with
  | nil => rfl
  | cons value rest ih => rw [stripElements, ih, List.map_cons]

theorem isOmissible_of_isEmpty (hempty : value.isEmpty = true) : value.isOmissible = true := by
  cases value <;> simp_all [isOmissible, isEmpty]

/-- A value that something not to be omitted is in has content. -/
theorem isEmpty_of_at? {path : Path} (hat : value.at? path = some wanted)
    (hwanted : wanted.isOmissible = false) : value.isEmpty = false := by
  refine Bool.eq_false_iff.mpr fun hempty => ?_
  have homissible := isOmissible_of_isEmpty hempty
  rw [isOmissible_of_at? hat hwanted] at homissible
  simp at homissible

theorem get?_stripFields {fields : List (String × Json)} {key : String}
    (hget : Keyed.get? key fields = some value)
    (hcontent : value.stripEmpty.isEmpty = false) :
    Keyed.get? key (stripFields fields) = some value.stripEmpty := by
  induction fields with
  | nil => simp [Keyed.get?] at hget
  | cons head rest ih =>
      obtain ⟨other, inner⟩ := head
      rw [Keyed.get?] at hget
      rw [stripFields]
      by_cases hkey : other = key
      · rw [if_pos hkey] at hget
        obtain rfl := Option.some.inj hget
        simp [hcontent, hkey]
      · rw [if_neg hkey] at hget
        have hrest := ih hget
        cases hinner : inner.stripEmpty.isEmpty with
        | true => simpa [hinner] using hrest
        | false => simpa [hinner, Keyed.get?, hkey] using hrest

theorem child?_stripEmpty {segment : String} (hchild : value.child? segment = some wanted)
    (hcontent : wanted.stripEmpty.isEmpty = false) :
    value.stripEmpty.child? segment = some wanted.stripEmpty := by
  cases value with
  | obj fields =>
      rw [stripEmpty]
      exact get?_stripFields hchild hcontent
  | arr elements =>
      obtain ⟨i, hindex, hget⟩ := Option.bind_eq_some_iff.mp hchild
      rw [stripEmpty, stripElements_eq, child?, hindex]
      simp [hget]
  | _ => simp [child?] at hchild

namespace IsTextual

theorem stripEmpty_eq (htextual : wanted.IsTextual) : wanted.stripEmpty = wanted := by
  induction htextual with
  | str s _ => rfl
  | obj fields _ inside ih =>
      have hmap : fields.map (fun entry => (entry.1, entry.2.stripEmpty)) = fields := by
        refine (List.map_congr_left fun entry hmem => ?_).trans (List.map_id fields)
        rw [ih entry hmem]
        rfl
      rw [stripEmpty, stripFields_eq, hmap, List.filter_eq_self.mpr]
      intro entry hmem
      rw [(inside entry hmem).isEmpty]
      rfl

/-- Where a value made of texts was, it is without the empty fields. -/
theorem at?_stripEmpty (htextual : wanted.IsTextual) {path : Path}
    (hat : value.at? path = some wanted) : value.stripEmpty.at? path = some wanted := by
  induction path generalizing value with
  | nil =>
      obtain rfl := Option.some.inj hat
      rw [htextual.stripEmpty_eq]
      rfl
  | cons segment rest ih =>
      obtain ⟨inner, hchild, hrest⟩ := Option.bind_eq_some_iff.mp hat
      have hinner := ih hrest
      have hcontent := isEmpty_of_at? hinner htextual.isOmissible
      rw [at?, child?_stripEmpty hchild hcontent]
      exact hinner

end IsTextual

end AgentOperator.Json
