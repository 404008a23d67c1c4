import AgentOperator.Proofs.Json.Drift
import AgentOperator.Proofs.Json.Record

/-!
# Drift as an overlay

To lay a desired value over a live one is to write into the live value what the
desired one asks for: its fields where both are objects, its elements where both
are arrays of one length, and otherwise the desired value itself, with nothing
written for a field that the live object lacks and that asks for nothing.  A live
value holds a desired one exactly when this leaves it as it is, so it is judged
without drift exactly when there is nothing to write.  Nothing is read for this
but the part of the live value that the desired one has fields for.
-/

namespace AgentOperator

theorem Decimal.Binary64.same_comm (x y : Decimal.Binary64) : x.same y = y.same x := by
  rw [Decimal.Binary64.same, Decimal.Binary64.same, Bool.and_comm x.isZero]
  simp only [eq_comm]

namespace Json

variable {live desired : Json}

mutual

/-- The live value with the desired one laid over it. -/
def overlay : Json → Json → Json
  | live, null => live
  | obj live, obj desired => obj (overlayFields live desired)
  | arr live, arr desired =>
    if live.length = desired.length then arr (overlayElements live desired) else arr desired
  | _, desired => desired

/-- The live fields with each desired one laid over the one of its key. What asks
for nothing is not added. -/
def overlayFields (live : List (String × Json)) :
    List (String × Json) → List (String × Json)
  | [] => live
  | (key, wanted) :: rest =>
    match Keyed.get? key live with
    | some value => Keyed.insert key (overlay value wanted) (overlayFields live rest)
    | none =>
      if wanted.isOmissible then overlayFields live rest
      else Keyed.insert key wanted (overlayFields live rest)

def overlayElements : List Json → List Json → List Json
  | live :: lives, wanted :: rest => overlay live wanted :: overlayElements lives rest
  | _, _ => []

end

mutual

/-- The live value without the fields of its objects that the desired object in
the same place lacks. -/
def restrictedTo : Json → Json → Json
  | obj live, obj desired => obj (restrictedFields live desired)
  | arr live, arr desired => arr (restrictedElements live desired)
  | live, _ => live

def restrictedFields : List (String × Json) → List (String × Json) → List (String × Json)
  | [], _ => []
  | (key, value) :: rest, desired =>
    match Keyed.get? key desired with
    | some wanted => (key, restrictedTo value wanted) :: restrictedFields rest desired
    | none => restrictedFields rest desired

def restrictedElements : List Json → List Json → List Json
  | live :: lives, wanted :: rest => restrictedTo live wanted :: restrictedElements lives rest
  | lives, _ => lives

end

/-! ## Equality of values -/

mutual

theorem same_comm (a b : Json) : same a b = same b a := by
  cases a with
  | arr elements =>
      cases b with
      | arr others => simpa only [same] using sameElements_comm elements others
      | _ => simp [same]
  | obj fields =>
      cases b with
      | obj others => simpa only [same] using sameFields_comm fields others
      | _ => simp [same]
  | real x =>
      cases b with
      | real y => exact Decimal.Binary64.same_comm x y
      | _ => simp [same]
  | _ => cases b <;> simp [same, Bool.beq_comm]

theorem sameElements_comm (as bs : List Json) : sameElements as bs = sameElements bs as := by
  match as, bs with
  | [], [] => rfl
  | [], _ :: _ => simp [sameElements]
  | _ :: _, [] => simp [sameElements]
  | a :: as, b :: bs => rw [sameElements, sameElements, same_comm a b, sameElements_comm as bs]

theorem sameFields_comm (as bs : List (String × Json)) :
    sameFields as bs = sameFields bs as := by
  match as, bs with
  | [], [] => rfl
  | [], _ :: _ => simp [sameFields]
  | _ :: _, [] => simp [sameFields]
  | (k, a) :: as, (l, b) :: bs =>
      rw [sameFields, sameFields, same_comm a b, sameFields_comm as bs, BEq.comm]

end

theorem length_eq_of_sameElements {as bs : List Json} (hsame : sameElements as bs = true) :
    as.length = bs.length := by
  induction as generalizing bs with
  | nil =>
      cases bs with
      | nil => rfl
      | cons _ _ => simp [sameElements] at hsame
  | cons a as ih =>
      cases bs with
      | nil => simp [sameElements] at hsame
      | cons b bs =>
          rw [sameElements, Bool.and_eq_true] at hsame
          rw [List.length_cons, List.length_cons, ih hsame.2]

/-- Fields in key order are equal as soon as every look-up agrees. -/
theorem sameFields_of_get? {as bs : List (String × Json)} (has : Keyed.Ordered as)
    (hbs : Keyed.Ordered bs)
    (hlookups : ∀ key,
      (Keyed.get? key as = none ∧ Keyed.get? key bs = none) ∨
        ∃ x y, Keyed.get? key as = some x ∧ Keyed.get? key bs = some y ∧ same x y = true) :
    sameFields as bs = true := by
  induction as generalizing bs with
  | nil =>
      cases bs with
      | nil => rfl
      | cons other _ =>
          obtain ⟨l, b⟩ := other
          have hlookup := hlookups l
          simp at hlookup
  | cons head as ih =>
      obtain ⟨k, a⟩ := head
      cases bs with
      | nil => simpa using hlookups k
      | cons other bs =>
          obtain ⟨l, b⟩ := other
          -- Both lists hold both first keys, and neither holds one before its own.
          obtain ⟨a', b', hak, hbk, hhead⟩ : ∃ x y, Keyed.get? k ((k, a) :: as) = some x ∧
              Keyed.get? k ((l, b) :: bs) = some y ∧ same x y = true := by
            simpa using hlookups k
          obtain ⟨x, -, hal, -, -⟩ : ∃ x y, Keyed.get? l ((k, a) :: as) = some x ∧
              Keyed.get? l ((l, b) :: bs) = some y ∧ same x y = true := by
            simpa using hlookups l
          obtain rfl : k = l :=
            String.le_antisymm (String.not_lt.mp (has.not_lt_head hal))
              (String.not_lt.mp (hbs.not_lt_head hbk))
          rw [Keyed.get?_cons_self] at hak hbk
          obtain rfl := Option.some.inj hak
          obtain rfl := Option.some.inj hbk
          have htail : sameFields as bs = true := by
            refine ih (List.Pairwise.of_cons has) (List.Pairwise.of_cons hbs) fun key => ?_
            by_cases heq : k = key
            · subst heq
              exact .inl ⟨has.get?_tail, hbs.get?_tail⟩
            · simpa [heq] using hlookups key
          simp [sameFields, hhead, htail]

/-! ## What is laid over -/

section Fields

variable {lives fields : List (String × Json)}

theorem ordered_overlayFields (hordered : Keyed.Ordered lives)
    (fields : List (String × Json)) : Keyed.Ordered (overlayFields lives fields) := by
  induction fields with
  | nil => exact hordered
  | cons head rest ih =>
      obtain ⟨key, wanted⟩ := head
      rw [overlayFields]
      cases Keyed.get? key lives with
      | some value => exact ih.insert _ _
      | none =>
          cases wanted.isOmissible with
          | true => exact ih
          | false => exact ih.insert _ _

/-- A field that is not desired stays. -/
theorem get?_overlayFields_of_none {key : String} (hnone : Keyed.get? key fields = none) :
    Keyed.get? key (overlayFields lives fields) = Keyed.get? key lives := by
  induction fields with
  | nil => rfl
  | cons head rest ih =>
      obtain ⟨other, wanted⟩ := head
      rw [Keyed.get?] at hnone
      split at hnone
      · simp at hnone
      next hne =>
        rw [overlayFields]
        have hinsert (value : Json) :
            Keyed.get? key (Keyed.insert other value (overlayFields lives rest)) =
              Keyed.get? key lives :=
          (Keyed.get?_insert_of_ne (Ne.symm hne) _ _).trans (ih hnone)
        cases Keyed.get? other lives with
        | some value => exact hinsert _
        | none =>
            cases wanted.isOmissible with
            | true => exact ih hnone
            | false => exact hinsert _

/-- A desired field is laid over the live one of its key. -/
theorem get?_overlayFields_of_some (hordered : Keyed.Ordered fields) {key : String}
    {wanted : Json} (hget : Keyed.get? key fields = some wanted) :
    Keyed.get? key (overlayFields lives fields) =
      match Keyed.get? key lives with
      | some value => some (overlay value wanted)
      | none => if wanted.isOmissible then none else some wanted := by
  induction fields with
  | nil => simp at hget
  | cons head rest ih =>
      obtain ⟨other, first⟩ := head
      by_cases heq : other = key
      · subst heq
        rw [Keyed.get?_cons_self] at hget
        obtain rfl := Option.some.inj hget
        rw [overlayFields]
        cases hlive : Keyed.get? other lives with
        | some value => simp
        | none =>
            cases first.isOmissible with
            | true => simpa using (get?_overlayFields_of_none hordered.get?_tail).trans hlive
            | false => simp
      · rw [Keyed.get?_cons_of_ne heq] at hget
        have hrest := ih (List.Pairwise.of_cons hordered) hget
        rw [overlayFields, ← hrest]
        cases Keyed.get? other lives with
        | some value => exact Keyed.get?_insert_of_ne (Ne.symm heq) _ _
        | none =>
            cases first.isOmissible with
            | true => rfl
            | false => exact Keyed.get?_insert_of_ne (Ne.symm heq) _ _

/-- The desired fields are held as soon as laying each over the live one changes
nothing, which is so when no look-up in the whole tells the difference. -/
theorem containsFields_eq_overlayFields (hlives : Keyed.Ordered lives)
    (hfields : Keyed.Ordered fields)
    (heach : ∀ key wanted value, Keyed.get? key fields = some wanted →
      Keyed.get? key lives = some value →
        contains value wanted = same (overlay value wanted) value) :
    containsFields lives fields = sameFields (overlayFields lives fields) lives := by
  rw [Bool.eq_iff_iff, containsFields_iff_get? hfields]
  constructor
  · intro hheld
    refine sameFields_of_get? (ordered_overlayFields hlives fields) hlives fun key => ?_
    cases hwanted : Keyed.get? key fields with
    | none =>
        rw [get?_overlayFields_of_none hwanted]
        cases Keyed.get? key lives with
        | none => exact .inl ⟨rfl, rfl⟩
        | some value => exact .inr ⟨value, value, rfl, rfl, same_self value⟩
    | some wanted =>
        have hkey := hheld key wanted hwanted
        rw [get?_overlayFields_of_some hfields hwanted]
        cases hlive : Keyed.get? key lives with
        | none =>
            rw [hlive] at hkey
            exact .inl ⟨if_pos hkey, rfl⟩
        | some value =>
            rw [hlive] at hkey
            exact .inr ⟨_, value, rfl, rfl, heach key wanted value hwanted hlive ▸ hkey⟩
  · intro hsame key wanted hwanted
    have hkey := sameFields_get? hsame key
    rw [get?_overlayFields_of_some hfields hwanted] at hkey
    cases hlive : Keyed.get? key lives with
    | none => simpa [hlive] using hkey
    | some value =>
        have hlaid : same (overlay value wanted) value = true := by
          simpa [hlive] using hkey
        exact (heach key wanted value hwanted hlive).trans hlaid

end Fields

theorem containsElements_eq_overlayElements {lives elements : List Json}
    (hlength : lives.length = elements.length)
    (heach : ∀ value ∈ lives, ∀ wanted ∈ elements,
      contains value wanted = same (overlay value wanted) value) :
    containsElements lives elements = sameElements (overlayElements lives elements) lives := by
  induction lives generalizing elements with
  | nil =>
      obtain rfl := List.length_eq_zero_iff.mp hlength.symm
      rfl
  | cons value lives ih =>
      cases elements with
      | nil => simp at hlength
      | cons wanted rest =>
          rw [containsElements, overlayElements, sameElements,
            heach value List.mem_cons_self wanted List.mem_cons_self,
            ih (Nat.succ.inj hlength) fun other hother inner hinner =>
              heach other (List.mem_cons_of_mem _ hother) inner
                (List.mem_cons_of_mem _ hinner)]

theorem length_eq_of_containsElements {lives elements : List Json}
    (hcontains : containsElements lives elements = true) : lives.length = elements.length := by
  induction lives generalizing elements with
  | nil =>
      cases elements with
      | nil => rfl
      | cons _ _ => simp [containsElements] at hcontains
  | cons value lives ih =>
      cases elements with
      | nil => simp [containsElements] at hcontains
      | cons wanted rest =>
          rw [containsElements, Bool.and_eq_true] at hcontains
          rw [List.length_cons, List.length_cons, ih hcontains.2]

/-- Holding a desired value is being left alone by it. -/
theorem Canonical.contains_eq_overlay (hdesired : desired.Canonical) (hlive : live.Canonical) :
    contains live desired = same (overlay live desired) live := by
  induction hdesired generalizing live with
  | null =>
      rw [overlay, same_self]
      cases live <;> rfl
  | obj fields hordered _ ih =>
      cases live with
      | obj lives =>
          rw [contains, overlay, same]
          exact containsFields_eq_overlayFields hlive.ordered hordered
            fun key wanted value hwanted hvalue =>
              ih (key, wanted) (Keyed.mem_of_get? hwanted) (hlive.of_get? hvalue)
      | _ => simp [contains, overlay, BEq.beq, same]
  | arr elements _ ih =>
      cases live with
      | arr lives =>
          have hinside : ∀ value ∈ lives, value.Canonical := canonical_arr_iff.mp hlive
          rw [contains, overlay]
          split
          next hlength =>
            rw [same]
            exact containsElements_eq_overlayElements hlength
              fun value hvalue wanted hwanted => ih wanted hwanted (hinside value hvalue)
          next hlength =>
            have hheld : containsElements lives elements = false :=
              Bool.eq_false_iff.mpr fun hheld => hlength (length_eq_of_containsElements hheld)
            have hsame : sameElements elements lives = false :=
              Bool.eq_false_iff.mpr fun hsame =>
                hlength (length_eq_of_sameElements hsame).symm
            rw [same, hheld, hsame]
      | _ => simp [contains, overlay, BEq.beq, same]
  | _ => cases live <;> simp [contains, overlay, BEq.beq, same_comm]

/-! ## What the live value is read for -/

theorem get?_restrictedFields (lives fields : List (String × Json)) (key : String) :
    Keyed.get? key (restrictedFields lives fields) =
      (Keyed.get? key fields).bind fun wanted =>
        (Keyed.get? key lives).map fun value => value.restrictedTo wanted := by
  induction lives with
  | nil => simp [restrictedFields]
  | cons head rest ih =>
      obtain ⟨other, value⟩ := head
      by_cases heq : other = key
      · subst heq
        rw [restrictedFields]
        cases hwanted : Keyed.get? other fields with
        | none => simpa [hwanted] using ih
        | some wanted => simp
      · rw [restrictedFields, Keyed.get?_cons_of_ne heq, ← ih]
        cases Keyed.get? other fields with
        | none => rfl
        | some wanted => exact Keyed.get?_cons_of_ne heq _ _

theorem containsElements_restrictedElements {elements : List Json} (lives : List Json)
    (heach : ∀ wanted ∈ elements, ∀ value,
      contains (restrictedTo value wanted) wanted = contains value wanted) :
    containsElements (restrictedElements lives elements) elements =
      containsElements lives elements := by
  induction elements generalizing lives with
  | nil => cases lives <;> rfl
  | cons wanted rest ih =>
      cases lives with
      | nil => rfl
      | cons value lives =>
          rw [restrictedElements, containsElements, containsElements,
            heach wanted List.mem_cons_self value,
            ih lives fun other hmem => heach other (List.mem_cons_of_mem _ hmem)]

/-- What the desired value has no field for is not read. -/
theorem Canonical.contains_restrictedTo (hdesired : desired.Canonical) (live : Json) :
    contains (live.restrictedTo desired) desired = contains live desired := by
  induction hdesired generalizing live with
  | obj fields hordered _ ih =>
      cases live with
      | obj lives =>
          rw [restrictedTo, contains, contains, Bool.eq_iff_iff,
            containsFields_iff_get? hordered, containsFields_iff_get? hordered]
          refine forall_congr' fun key => forall_congr' fun wanted =>
            forall_congr' fun hwanted => ?_
          rw [get?_restrictedFields, hwanted, Option.bind_some]
          cases Keyed.get? key lives with
          | none => rfl
          | some value =>
              have hkey := ih (key, wanted) (Keyed.mem_of_get? hwanted) value
              simp only [Option.map_some, hkey]
      | _ => rfl
  | arr elements _ ih =>
      cases live with
      | arr lives =>
          rw [restrictedTo, contains, contains]
          exact containsElements_restrictedElements lives ih
      | _ => rfl
  | _ => cases live <;> rfl

/-- Drift is what a desired value would change when laid over the live one: none
exactly when the live value equals its overlay.  A value shows no drift from itself,
and live values that agree on all that the desired one has fields for are judged
alike. -/
theorem contains_iff_overlay_same (hlive : live.Canonical) (hdesired : desired.Canonical) :
    (live.contains desired = true ↔ (live.overlay desired == live) = true) ∧
      live.contains live = true ∧
      ∀ other : Json, other.restrictedTo desired = live.restrictedTo desired →
        other.contains desired = live.contains desired := by
  refine ⟨?_, hlive.contains_self, fun other hagree => ?_⟩
  · rw [hdesired.contains_eq_overlay hlive]
    rfl
  · calc
      other.contains desired = (other.restrictedTo desired).contains desired :=
        (hdesired.contains_restrictedTo other).symm
      _ = (live.restrictedTo desired).contains desired := by rw [hagree]
      _ = live.contains desired := hdesired.contains_restrictedTo live

/-! ## A service that a server has filled in -/

def served : Json :=
  .mkObj [("clusterIP", .str "10.0.0.1"), ("ports", .arr [.mkObj [("port", .int 80)]])]

def asked : Json :=
  .mkObj [("ports", .arr [.mkObj [("name", .str ""), ("port", .int 80)]]), ("selector", .empty)]

theorem contains_iff_overlay_same_served :
    served.contains asked = true ∧ (served.overlay asked == served) = true ∧
      served.contains served = true ∧
      ∀ other : Json, other.restrictedTo asked = served.restrictedTo asked →
        other.contains asked = true := by
  have hserved : served.Canonical := by simp [served]
  have hasked : asked.Canonical := by simp [asked, canonical_empty]
  have hheld : served.contains asked = true := by decide
  obtain ⟨hoverlay, hself, hagreeing⟩ := contains_iff_overlay_same hserved hasked
  refine ⟨hheld, hoverlay.mp hheld, hself, fun other hagree => ?_⟩
  exact (hagreeing other hagree).trans hheld

end Json

end AgentOperator
