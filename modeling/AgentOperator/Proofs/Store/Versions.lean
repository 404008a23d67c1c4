import AgentOperator.Proofs.Store.Steps

/-!
# Versions

Each version is made from the counter, and the counter only grows, so no version is
given out twice: not to another object, not when an object is deleted and made again.
Whatever others do to a store, what is at a place afterwards is what was there before,
or it is gone, or its version is later than any that was given out before.
-/

namespace AgentOperator

/-- Changes to an object that leave it at its place and in its version. -/
structure Object.SameVersion (before after : Object) : Prop extends before.SamePlace after where
  resourceVersion : after.metadata.resourceVersion = before.metadata.resourceVersion

namespace Store

variable {s t : Store} {key : StoreKey} {touched : Option StoreKey} {number : Nat}
  {object : Object} {op : Operation} {ops : List Operation}

/-! ## Versions that were given out -/

def Versioned (s : Store) : Prop :=
  ∀ key object, s.get? key = some object →
    ∃ n ≤ s.counter, object.metadata.resourceVersion = some (toString n)

/-- What is at a place that a step touched has the number that was given out last. -/
theorem Step.version_of_touched (hstep : s.Step (some key) t) (hget : t.get? key = some object) :
    s.counter < t.counter ∧
      object.metadata.resourceVersion = some (toString t.counter) := by
  cases hstep with
  | written hobjects hcounter _ hversion =>
      rw [get?_of_putEntry hobjects] at hget
      obtain rfl := Option.some.inj hget
      rw [hcounter]
      exact ⟨Nat.lt_succ_self _, hversion⟩
  | removed hobjects =>
      rw [get?_congr hobjects, get?_remove_self] at hget
      simp at hget

theorem Step.versioned (hstep : s.Step touched t) (hs : s.Versioned) : t.Versioned := by
  intro key object hget
  by_cases hkey : touched = some key
  · subst hkey
    exact ⟨t.counter, Nat.le_refl _, (hstep.version_of_touched hget).2⟩
  · rw [hstep.get?_of_ne hkey] at hget
    obtain ⟨n, hn, hversion⟩ := hs key object hget
    exact ⟨n, Nat.le_trans hn hstep.counter_le, hversion⟩

theorem Versioned.edit (hs : s.Versioned) {change : Object → Object}
    (hchange : ∀ object, s.get? key = some object → object.SameVersion (change object)) :
    (s.edit key change).Versioned := by
  have hcounter : (s.edit key change).counter = s.counter := by
    unfold Store.edit
    cases s.get? key <;> rfl
  intro other object hget
  rw [hcounter]
  by_cases hother : other = key
  · subst hother
    rw [get?_edit_self] at hget
    obtain ⟨live, hlive, rfl⟩ := Option.map_eq_some_iff.mp hget
    rw [(hchange live hlive).resourceVersion]
    exact hs other live hlive
  · rw [get?_edit_of_ne s change hother] at hget
    exact hs other object hget

theorem ReachableBy.versioned {puts : Object → Prop}
    (hs : s.ReachableBy puts Object.SameVersion) : s.Versioned := by
  have hempty : Versioned {} := by
    intro key object hget
    simp [get?] at hget
  exact hs.invariant hempty (fun _ _ _ => Step.versioned) fun _ _ _ hchange hversioned =>
    hversioned.edit hchange

/-! ## Operations one after the other -/

/-- What is at the place, if anything is, has a version that is later than the number. -/
def IsLater (number : Nat) (key : StoreKey) (s : Store) : Prop :=
  ∀ object, s.get? key = some object →
    ∃ n > number, object.metadata.resourceVersion = some (toString n)

theorem Step.isLater (hstep : s.Step touched t) (hnumber : number ≤ s.counter)
    (hkey : touched = some key ∨ s.IsLater number key) : t.IsLater number key := by
  intro object hget
  by_cases htouched : touched = some key
  · subst htouched
    obtain ⟨hcounter, hversion⟩ := hstep.version_of_touched hget
    exact ⟨t.counter, Nat.lt_of_le_of_lt hnumber hcounter, hversion⟩
  · rw [hstep.get?_of_ne htouched] at hget
    exact (hkey.resolve_left htouched) object hget

namespace Operation

/-- Some operation of the list wrote, deleted or made the object at a place. -/
def Touched (key : StoreKey) : List Operation → Store → Prop
  | [], _ => False
  | op :: ops, s => (op.perform s).1 = true ∧ op.place = key ∨ Touched key ops (op.perform s).2

theorem performAll_cons (op : Operation) (ops : List Operation) (s : Store) :
    performAll (op :: ops) s = performAll ops (op.perform s).2 := rfl

theorem touchedPlace_eq_some_iff :
    op.touchedPlace s = some key ↔ (op.perform s).1 = true ∧ op.place = key := by
  unfold touchedPlace
  split <;> simp_all

theorem get?_performAll_of_not_touched (hkept : ¬ Touched key ops s) :
    (performAll ops s).get? key = s.get? key := by
  induction ops generalizing s with
  | nil => rfl
  | cons op ops ih =>
      obtain ⟨hhead, htail⟩ := not_or.mp hkept
      have hstep := op.step_perform s
      rw [performAll_cons, ih htail,
        hstep.get?_of_ne fun htouched => hhead (touchedPlace_eq_some_iff.mp htouched)]

/-- What is at a place that others touched is later than what was given out before, if it
is not gone. -/
theorem isLater_performAll (hnumber : number ≤ s.counter)
    (hkey : Touched key ops s ∨ s.IsLater number key) :
    (performAll ops s).IsLater number key := by
  induction ops generalizing s with
  | nil => exact hkey.resolve_left id
  | cons op ops ih =>
      have hstep := op.step_perform s
      rw [performAll_cons]
      -- A touch makes what is there later for good, and until then it is still to come.
      refine ih (Nat.le_trans hnumber hstep.counter_le) ?_
      rcases hkey with (htouched | htail) | hlater
      · exact .inr (hstep.isLater hnumber (.inl (touchedPlace_eq_some_iff.mpr htouched)))
      · exact .inl htail
      · exact .inr (hstep.isLater hnumber (.inr hlater))

theorem resourceVersion_ne_of_touched (hs : s.Versioned) {live : Object}
    (hlive : s.get? key = some live) (htouched : Touched key ops s)
    (hget : (performAll ops s).get? key = some object) :
    object.metadata.resourceVersion ≠ live.metadata.resourceVersion := by
  obtain ⟨old, hold, hliveVersion⟩ := hs key live hlive
  obtain ⟨new, hnew, hversion⟩ :=
    isLater_performAll (Nat.le_refl s.counter) (.inl htouched) object hget
  intro hsame
  rw [hversion, hliveVersion] at hsame
  have hnumbers : new = old := Text.eq_of_toString_eq (Option.some.inj hsame)
  omega

end Operation

end Store

end AgentOperator
