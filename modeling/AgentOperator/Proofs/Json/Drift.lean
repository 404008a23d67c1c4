import AgentOperator.Json.Drift
import AgentOperator.Proofs.Json.Path

/-!
# Drift of canonical values

Equality of values is reflexive, so a canonical value holds everything that it
asks for itself.  Canonicity is what makes this true: where a key is given
twice, a look-up finds only one of its values.  A value made of texts with
content is held by no value but one with content, and equal to no other.
-/

namespace AgentOperator

@[simp] theorem Decimal.Binary64.same_self (x : Decimal.Binary64) : x.same x = true := by
  simp [Decimal.Binary64.same]

theorem Decimal.Binary64.same_of_isZero {x : Decimal.Binary64} (hzero : x.isZero = true)
    (y : Decimal.Binary64) : x.same y = y.isZero := by
  rw [Bool.eq_iff_iff]
  simp only [Decimal.Binary64.same, Bool.or_eq_true, decide_eq_true_eq, Bool.and_eq_true,
    hzero, true_and]
  constructor
  · rintro (rfl | hy)
    · exact hzero
    · exact hy
  · exact .inr

theorem Decimal.Binary64.same_congr_left {x y : Decimal.Binary64} (hsame : x.same y = true)
    (z : Decimal.Binary64) : x.same z = y.same z := by
  simp only [Decimal.Binary64.same, Bool.or_eq_true, decide_eq_true_eq,
    Bool.and_eq_true] at hsame
  rcases hsame with rfl | ⟨hx, hy⟩
  · rfl
  · rw [Decimal.Binary64.same_of_isZero hx, Decimal.Binary64.same_of_isZero hy]

namespace Json

mutual

theorem same_self (value : Json) : same value value = true := by
  cases value with
  | arr elements => simpa only [same] using sameElements_self elements
  | obj fields => simpa only [same] using sameFields_self fields
  | _ => simp [same]

theorem sameElements_self (elements : List Json) :
    sameElements elements elements = true := by
  match elements with
  | [] => simp [sameElements]
  | value :: rest => simp [sameElements, same_self value, sameElements_self rest]

theorem sameFields_self (fields : List (String × Json)) :
    sameFields fields fields = true := by
  match fields with
  | [] => simp [sameFields]
  | (key, value) :: rest => simp [sameFields, same_self value, sameFields_self rest]

end

@[simp] theorem beq_self (value : Json) : (value == value) = true := same_self value

/-- The live fields hold the desired ones as soon as each look-up does. -/
theorem containsFields_iff {live desired : List (String × Json)} :
    containsFields live desired = true ↔
      ∀ entry ∈ desired,
        match Keyed.get? entry.1 live with
        | none => entry.2.isOmissible = true
        | some value => contains value entry.2 = true := by
  induction desired with
  | nil => simp [containsFields]
  | cons head rest ih =>
      obtain ⟨key, wanted⟩ := head
      rw [containsFields, Bool.and_eq_true, ih, List.forall_mem_cons]
      cases Keyed.get? key live <;> simp

theorem containsElements_self {elements : List Json}
    (hself : ∀ value ∈ elements, contains value value = true) :
    containsElements elements elements = true := by
  induction elements with
  | nil => simp [containsElements]
  | cons value rest ih =>
      rw [containsElements, Bool.and_eq_true]
      exact ⟨hself value List.mem_cons_self,
        ih fun other hmem => hself other (List.mem_cons_of_mem _ hmem)⟩

theorem Canonical.contains_self {value : Json} (hcanonical : value.Canonical) :
    contains value value = true := by
  induction hcanonical with
  | null => simp [contains]
  | bool b => simp [contains]
  | int n => simp [contains]
  | real x => simp [contains]
  | str s => simp [contains]
  | arr elements _ ih =>
      rw [contains]
      exact containsElements_self ih
  | obj fields hordered _ ih =>
      rw [contains, containsFields_iff]
      intro entry hmem
      have hget : Keyed.get? entry.1 fields = some entry.2 := hordered.get?_of_mem hmem
      rw [hget]
      exact ih entry hmem

/-! ## Holding what is written on both sides -/

/-- Fields in order are held as soon as each of their look-ups is. -/
theorem containsFields_iff_get? {live desired : List (String × Json)}
    (hordered : Keyed.Ordered desired) :
    containsFields live desired = true ↔
      ∀ key wanted, Keyed.get? key desired = some wanted →
        match Keyed.get? key live with
        | none => wanted.isOmissible = true
        | some value => contains value wanted = true := by
  rw [containsFields_iff]
  constructor
  · intro hentries key wanted hget
    exact hentries (key, wanted) (Keyed.mem_of_get? hget)
  · intro hlookups entry hmem
    exact hlookups entry.1 entry.2 (hordered.get?_of_mem hmem)

/-- What both sides agree on at a key may be written over on both. -/
theorem containsFields_insert {live desired : List (String × Json)}
    (hdesired : (obj desired).Canonical) {key : String}
    (hsame : Keyed.get? key live = Keyed.get? key desired) {value : Json}
    (hvalue : value.Canonical) :
    containsFields (Keyed.insert key value live) (Keyed.insert key value desired) =
      containsFields live desired := by
  rw [Bool.eq_iff_iff, containsFields_iff_get? (hdesired.ordered.insert key value),
    containsFields_iff_get? hdesired.ordered]
  constructor
  · intro hwritten other wanted hget
    by_cases heq : other = key
    · subst heq
      rw [hsame, hget]
      exact (hdesired.of_get? hget).contains_self
    · have hother := hwritten other wanted
      rw [Keyed.get?_insert_of_ne heq, Keyed.get?_insert_of_ne heq] at hother
      exact hother hget
  · intro hbefore other wanted hget
    by_cases heq : other = key
    · subst heq
      rw [Keyed.get?_insert_self] at hget ⊢
      obtain rfl := Option.some.inj hget
      exact hvalue.contains_self
    · rw [Keyed.get?_insert_of_ne heq] at hget ⊢
      exact hbefore other wanted hget

/-- What is not desired at a key may be written there. -/
theorem containsFields_insert_left {live desired : List (String × Json)}
    (hordered : Keyed.Ordered desired) {key : String}
    (hnone : Keyed.get? key desired = none) (value : Json) :
    containsFields (Keyed.insert key value live) desired = containsFields live desired := by
  have hne : ∀ other wanted, Keyed.get? other desired = some wanted → other ≠ key := by
    rintro other wanted hget rfl
    rw [hnone] at hget
    simp at hget
  rw [Bool.eq_iff_iff, containsFields_iff_get? hordered, containsFields_iff_get? hordered]
  constructor
  · intro hwritten other wanted hget
    have hother := hwritten other wanted hget
    rwa [Keyed.get?_insert_of_ne (hne other wanted hget)] at hother
  · intro hbefore other wanted hget
    rw [Keyed.get?_insert_of_ne (hne other wanted hget)]
    exact hbefore other wanted hget

/-! ## Live values that are equal -/

theorem sameFields_get? {a b : List (String × Json)} (hsame : sameFields a b = true)
    (key : String) :
    (Keyed.get? key a = none ∧ Keyed.get? key b = none) ∨
      ∃ x y, Keyed.get? key a = some x ∧ Keyed.get? key b = some y ∧ same x y = true := by
  induction a generalizing b with
  | nil =>
      cases b with
      | nil => exact .inl ⟨rfl, rfl⟩
      | cons _ _ => simp [sameFields] at hsame
  | cons head rest ih =>
      cases b with
      | nil => simp [sameFields] at hsame
      | cons other others =>
          obtain ⟨k, x⟩ := head
          obtain ⟨l, y⟩ := other
          simp only [sameFields, Bool.and_eq_true, beq_iff_eq] at hsame
          obtain ⟨⟨rfl, hvalue⟩, hrest⟩ := hsame
          by_cases heq : k = key
          · subst heq
            exact .inr ⟨x, y, Keyed.get?_cons_self _ _ _, Keyed.get?_cons_self _ _ _, hvalue⟩
          · rw [Keyed.get?_cons_of_ne heq, Keyed.get?_cons_of_ne heq]
            exact ih hrest

mutual

/-- Equal live values hold the same. -/
theorem contains_congr_left {a b : Json} (hsame : same a b = true) (desired : Json) :
    contains a desired = contains b desired := by
  cases desired with
  | obj fields =>
      cases a <;> cases b <;> simp only [same, Bool.false_eq_true] at hsame
      case obj.obj =>
        rw [contains, contains]
        exact containsFields_congr_left hsame fields
      all_goals simp [contains, BEq.beq, same]
  | arr elements =>
      cases a <;> cases b <;> simp only [same, Bool.false_eq_true] at hsame
      case arr.arr =>
        rw [contains, contains]
        exact containsElements_congr_left hsame elements
      all_goals simp [contains, BEq.beq, same]
  | real x =>
      cases a <;> cases b <;> simp only [same, Bool.false_eq_true] at hsame
      case real.real =>
        have hreal := Decimal.Binary64.same_congr_left hsame x
        simpa [contains, BEq.beq, same] using hreal
      all_goals simp [contains, BEq.beq, same]
  | _ =>
      cases a <;> cases b <;> simp only [same, Bool.false_eq_true] at hsame
      all_goals simp_all [contains, BEq.beq, same]

theorem containsFields_congr_left {a b : List (String × Json)} (hsame : sameFields a b = true)
    (desired : List (String × Json)) : containsFields a desired = containsFields b desired := by
  match desired with
  | [] => simp [containsFields]
  | (key, wanted) :: rest =>
      rw [containsFields, containsFields, containsFields_congr_left hsame rest]
      rcases sameFields_get? hsame key with ⟨ha, hb⟩ | ⟨x, y, ha, hb, hvalue⟩
      · rw [ha, hb]
      · rw [ha, hb]
        simp only
        rw [contains_congr_left hvalue wanted]

theorem containsElements_congr_left {a b : List Json} (hsame : sameElements a b = true)
    (desired : List Json) : containsElements a desired = containsElements b desired := by
  match a, b, desired with
  | [], [], _ => rfl
  | [], _ :: _, _ => simp [sameElements] at hsame
  | _ :: _, [], _ => simp [sameElements] at hsame
  | _ :: _, _ :: _, [] => simp [containsElements]
  | x :: xs, y :: ys, wanted :: rest =>
      rw [sameElements, Bool.and_eq_true] at hsame
      rw [containsElements, containsElements, contains_congr_left hsame.1 wanted,
        containsElements_congr_left hsame.2 rest]

end

/-! ## Paths into what is held -/

/-- A value with something inside that may not be left out may not be left out. -/
theorem isOmissible_of_at? {value inner : Json} {path : Path}
    (hat : value.at? path = some inner) (hinner : inner.isOmissible = false) :
    value.isOmissible = false := by
  cases path with
  | nil =>
      obtain rfl := Option.some.inj hat
      exact hinner
  | cons segment rest =>
      obtain ⟨next, hchild, -⟩ := Option.bind_eq_some_iff.mp hat
      cases value with
      | obj fields =>
          have hne : fields ≠ [] := by
            rintro rfl
            simp [child?, Keyed.get?] at hchild
          simpa [isOmissible, isEmpty] using hne
      | arr elements =>
          have hne : elements ≠ [] := by
            rintro rfl
            simp [child?] at hchild
          simpa [isOmissible, isEmpty] using hne
      | _ => simp [child?] at hchild

theorem containsElements_getElem? {lives elements : List Json}
    (hcontains : containsElements lives elements = true) {i : Nat} {inner : Json}
    (hget : elements[i]? = some inner) :
    ∃ live, lives[i]? = some live ∧ contains live inner = true := by
  induction elements generalizing lives i with
  | nil => simp at hget
  | cons element rest ih =>
      cases lives with
      | nil => simp [containsElements] at hcontains
      | cons live lives =>
          rw [containsElements, Bool.and_eq_true] at hcontains
          cases i with
          | zero =>
              obtain rfl := Option.some.inj hget
              exact ⟨live, rfl, hcontains.1⟩
          | succ i => exact ih hcontains.2 hget

/-- A field or element of a desired value that may not be left out is held by that of
the live value. -/
theorem contains_child? {live target inner : Json} {segment : String}
    (hcontains : contains live target = true) (hchild : target.child? segment = some inner)
    (hinner : inner.isOmissible = false) :
    ∃ value, live.child? segment = some value ∧ contains value inner = true := by
  cases target with
  | obj fields =>
      cases live with
      | obj lives =>
          rw [contains, containsFields_iff] at hcontains
          have hentry := hcontains (segment, inner) (Keyed.mem_of_get? hchild)
          cases hlive : Keyed.get? segment lives with
          | some value =>
              simp only [hlive] at hentry
              exact ⟨value, hlive, hentry⟩
          | none =>
              simp only [hlive] at hentry
              rw [hinner] at hentry
              simp at hentry
      | _ => simp [contains, BEq.beq, same] at hcontains
  | arr elements =>
      cases live with
      | arr lives =>
          rw [contains] at hcontains
          obtain ⟨i, hindex, hget⟩ := Option.bind_eq_some_iff.mp hchild
          obtain ⟨value, hlive, hheld⟩ := containsElements_getElem? hcontains hget
          exact ⟨value, Option.bind_eq_some_iff.mpr ⟨i, hindex, hlive⟩, hheld⟩
      | _ => simp [contains, BEq.beq, same] at hcontains
  | _ => simp [child?] at hchild

/-- A live value that holds a desired one has something at each path at which the
desired one has a value that may not be left out, and holds that value there. -/
theorem contains_at? {live target wanted : Json} {path : Path}
    (hcontains : contains live target = true) (hat : target.at? path = some wanted)
    (hwanted : wanted.isOmissible = false) :
    ∃ value, live.at? path = some value ∧ contains value wanted = true := by
  induction path generalizing live target with
  | nil =>
      obtain rfl := Option.some.inj hat
      exact ⟨live, rfl, hcontains⟩
  | cons segment rest ih =>
      obtain ⟨inner, hchild, hrest⟩ := Option.bind_eq_some_iff.mp hat
      obtain ⟨next, hnext, hheld⟩ :=
        contains_child? hcontains hchild (isOmissible_of_at? hrest hwanted)
      obtain ⟨value, hvalue, hin⟩ := ih hheld hrest
      exact ⟨value, Option.bind_eq_some_iff.mpr ⟨next, hnext, hvalue⟩, hin⟩

theorem eq_of_contains_str {value : Json} {text : String}
    (hcontains : contains value (.str text) = true) : value = .str text := by
  cases value with
  | str other =>
      have heq : other = text := by simpa [contains, BEq.beq, same] using hcontains
      rw [heq]
  | _ => simp [contains, BEq.beq, same] at hcontains

/-! ## Values made of texts -/

/-- The value is made of texts, and no part of it is without content. -/
inductive IsTextual : Json → Prop
  | str (s : String) (hne : s ≠ "") : IsTextual (str s)
  | obj (fields : List (String × Json)) (hne : fields ≠ [])
    (inside : ∀ entry ∈ fields, IsTextual entry.2) : IsTextual (obj fields)

namespace IsTextual

variable {value wanted : Json}

theorem isOmissible (htextual : wanted.IsTextual) : wanted.isOmissible = false := by
  cases htextual with
  | str s hne => simpa [Json.isOmissible, Json.isEmpty] using hne
  | obj fields hne _ => simpa [Json.isOmissible, Json.isEmpty] using hne

theorem isEmpty (htextual : wanted.IsTextual) : wanted.isEmpty = false := by
  cases htextual with
  | str s hne => simpa [Json.isEmpty] using hne
  | obj fields hne _ => simpa [Json.isEmpty] using hne

/-- What holds such a value has content. -/
theorem isEmpty_of_contains (htextual : wanted.IsTextual)
    (hcontains : contains value wanted = true) : value.isEmpty = false := by
  cases htextual with
  | str s hne =>
      rw [eq_of_contains_str hcontains]
      simpa [Json.isEmpty] using hne
  | obj fields hne inside =>
      cases value with
      | obj live =>
          cases live with
          | cons head rest => rfl
          | nil =>
              obtain ⟨entry, rest, rfl⟩ := List.exists_cons_of_ne_nil hne
              rw [contains, containsFields_iff] at hcontains
              have hfirst := hcontains entry List.mem_cons_self
              rw [Keyed.get?] at hfirst
              have homissible := (inside entry List.mem_cons_self).isOmissible
              rw [homissible] at hfirst
              simp at hfirst
      | _ => simp [contains, BEq.beq, same] at hcontains

theorem sameFields_eq {fields live : List (String × Json)}
    (ih : ∀ entry ∈ fields, ∀ value, same entry.2 value = true → value = entry.2)
    (hsame : sameFields fields live = true) : live = fields := by
  induction fields generalizing live with
  | nil =>
      cases live with
      | nil => rfl
      | cons _ _ => simp [sameFields] at hsame
  | cons entry rest ihRest =>
      cases live with
      | nil => simp [sameFields] at hsame
      | cons other others =>
          obtain ⟨key, wanted⟩ := entry
          obtain ⟨key', value⟩ := other
          simp only [sameFields, Bool.and_eq_true, beq_iff_eq] at hsame
          obtain ⟨⟨hkey, hvalue⟩, hrest⟩ := hsame
          have hhead : value = wanted := ih (key, wanted) List.mem_cons_self value hvalue
          have htail : others = rest :=
            ihRest (fun entry hmem => ih entry (List.mem_cons_of_mem _ hmem)) hrest
          rw [hkey, hhead, htail]

/-- Among such values equality is identity. -/
theorem eq_of_same (htextual : wanted.IsTextual) :
    ∀ value, same wanted value = true → value = wanted := by
  induction htextual with
  | str s _ =>
      intro value hsame
      cases value with
      | str t =>
          have heq : s = t := by simpa [same] using hsame
          rw [heq]
      | _ => simp [same] at hsame
  | obj fields _ _ ih =>
      intro value hsame
      cases value with
      | obj live =>
          rw [same] at hsame
          rw [sameFields_eq ih hsame]
      | _ => simp [same] at hsame

end IsTextual

end Json

end AgentOperator
