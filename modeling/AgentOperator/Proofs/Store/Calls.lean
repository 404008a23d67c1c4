import AgentOperator.Proofs.Action
import AgentOperator.Proofs.Store.Lookup

/-!
# What the calls of a store do

One equation for each way in which a call can end.  A write that succeeds leaves
the conflicts as they were; one that fails changes nothing but the number of
conflicts that are still to come.
-/

namespace AgentOperator.Store

variable {s t u : Store} {kind : Kind} {object live made : Object}

/-- A new object as a store keeps it. -/
def newObject (s : Store) (kind : Kind) (object : Object) : Object :=
  s.stored (completed kind (s.counter + 1)
    { object with
      metadata := {
        object.metadata with
        resourceVersion := some (toString (s.counter + 1))
        uid := some ("uid-" ++ toString (s.counter + 1)) } })

/-- An object as a store keeps it in the place of another. -/
def nextObject (s : Store) (live object : Object) : Object :=
  s.stored
    { object with
      metadata := {
        object.metadata with
        resourceVersion := some (toString (s.counter + 1))
        uid := live.metadata.uid } }

/-- The store after an object was written at a place. -/
def withWritten (s : Store) (key : StoreKey) (object : Object) : Store :=
  { s with
    objects := putEntry key object s.objects
    counter := s.counter + 1
    writes := s.writes + 1 }

/-- The store after the object at a place was deleted. -/
def withDeleted (s : Store) (key : StoreKey) : Store :=
  { s with
    objects := (s.remove key).objects
    writes := s.writes + 1
    deleted := s.deleted ++ [key] }

theorem get?_withDeleted_self (s : Store) (key : StoreKey) :
    (s.withDeleted key).get? key = none :=
  (get?_congr (t := s.withDeleted key) (s := s.remove key) rfl key).trans
    (get?_remove_self s key)

theorem get?_withDeleted_of_ne (s : Store) {key other : StoreKey} (hne : other ≠ key) :
    (s.withDeleted key).get? other = s.get? other :=
  (get?_congr (t := s.withDeleted key) (s := s.remove key) rfl other).trans
    (get?_remove_of_ne s hne)

theorem stored_metadata (s : Store) (object : Object) :
    (s.stored object).metadata = object.metadata := by
  unfold stored
  split <;> rfl

theorem completed_metadata (kind : Kind) (number : Nat) (object : Object) :
    (completed kind number object).metadata = object.metadata := by
  unfold completed
  split <;> rfl

theorem stored_types (s : Store) (object : Object) : (s.stored object).types = object.types := by
  unfold stored
  split <;> rfl

theorem completed_types (kind : Kind) (number : Nat) (object : Object) :
    (completed kind number object).types = object.types := by
  unfold completed
  split <;> rfl

theorem stored_body (s : Store) (object : Object) :
    (s.stored object).body = if s.omitsEmpty then object.body.stripEmpty else object.body := by
  unfold stored
  split <;> rfl

theorem completed_body (kind : Kind) (number : Nat) (object : Object) :
    (completed kind number object).body =
      if kind = .service then allocate number object.body else object.body := by
  unfold completed
  split <;> rfl

theorem newObject_types (s : Store) (kind : Kind) (object : Object) :
    (s.newObject kind object).types = object.types := by
  unfold newObject
  rw [stored_types, completed_types]

theorem newObject_body (s : Store) (kind : Kind) (object : Object) :
    (s.newObject kind object).body =
      if s.omitsEmpty then
        (if kind = .service then allocate (s.counter + 1) object.body
          else object.body).stripEmpty
      else
        if kind = .service then allocate (s.counter + 1) object.body else object.body := by
  unfold newObject
  rw [stored_body, completed_body]

theorem newObject_metadata (s : Store) (kind : Kind) (object : Object) :
    (s.newObject kind object).metadata = {
      object.metadata with
      resourceVersion := some (toString (s.counter + 1))
      uid := some ("uid-" ++ toString (s.counter + 1)) } := by
  unfold newObject
  rw [stored_metadata, completed_metadata]

theorem nextObject_metadata (s : Store) (live object : Object) :
    (s.nextObject live object).metadata = {
      object.metadata with
      resourceVersion := some (toString (s.counter + 1))
      uid := live.metadata.uid } := by
  unfold nextObject
  rw [stored_metadata]

theorem created_of_some (hget : s.get? (.ofObject kind object) = some live) :
    created kind object s = (.error (fault 409 "AlreadyExists"), s) := by
  simp only [created, hget]

theorem created_of_none (hget : s.get? (.ofObject kind object) = none) :
    created kind object s =
      (.ok (s.newObject kind object),
        s.withWritten (.ofObject kind object) (s.newObject kind object)) := by
  simp only [created, hget]
  rfl

theorem replaced_of_none (hget : s.get? (.ofObject kind object) = none) :
    replaced kind object s = (.error (fault 404 "NotFound"), s) := by
  simp only [replaced, hget]

/-- A replacement is made over the live object or fails and changes nothing. -/
theorem replaced_of_some (hget : s.get? (.ofObject kind object) = some live) :
    replaced kind object s =
        (.ok (s.nextObject live object),
          s.withWritten (.ofObject kind object) (s.nextObject live object)) ∨
      ∃ failure, replaced kind object s = (.error failure, s) := by
  simp only [replaced, hget]
  split
  · exact .inr ⟨_, rfl⟩
  · split
    · exact .inr ⟨_, rfl⟩
    · exact .inl rfl

/-- A replacement that bears the version of the live object is made, unless it would
change the address of a service. -/
theorem replaced_of_live (hget : s.get? (.ofObject kind object) = some live)
    (hversion : object.metadata.resourceVersion = live.metadata.resourceVersion) :
    replaced kind object s =
      if changesAddress kind live object then (.error (fault 422 "Invalid"), s)
      else
        (.ok (s.nextObject live object),
          s.withWritten (.ofObject kind object) (s.nextObject live object)) := by
  simp only [replaced, hget, hversion]
  rw [if_neg (fun hne => hne rfl)]
  rfl

theorem replaced_of_stale (hget : s.get? (.ofObject kind object) = some live)
    (hversion : live.metadata.resourceVersion ≠ object.metadata.resourceVersion) :
    replaced kind object s = (.error (fault 409 "Conflict"), s) := by
  simp only [replaced, hget]
  rw [if_pos hversion]

theorem replaced_of_error {failure : Failure}
    (hfails : (replaced kind object s).1 = .error failure) :
    (replaced kind object s).2 = s ∧
      (failure.isConflict = true → failure = fault 409 "Conflict") := by
  cases hget : s.get? (.ofObject kind object) with
  | none =>
      rw [replaced_of_none hget] at hfails ⊢
      obtain rfl := Except.error.inj hfails
      exact ⟨rfl, fun hconflict => by simp [fault, Failure.isConflict] at hconflict⟩
  | some live =>
      by_cases hversion : object.metadata.resourceVersion = live.metadata.resourceVersion
      · rw [replaced_of_live hget hversion] at hfails ⊢
        split at hfails
        next hchanges =>
          rw [if_pos hchanges]
          obtain rfl := Except.error.inj hfails
          exact ⟨rfl, fun hconflict => by simp [fault, Failure.isConflict] at hconflict⟩
        · simp at hfails
      · rw [replaced_of_stale hget fun hsame => hversion hsame.symm] at hfails ⊢
        obtain rfl := Except.error.inj hfails
        exact ⟨rfl, fun _ => rfl⟩

theorem deletedAt_of_none {key : StoreKey} (hget : s.get? key = none) :
    deletedAt key s = (.ok (), s) := by
  unfold deletedAt
  rw [hget]

theorem deletedAt_of_some {key : StoreKey} (hget : s.get? key = some live) :
    deletedAt key s = (.ok (), s.withDeleted key) := by
  unfold deletedAt
  rw [hget]
  rfl

/-! ## Faults -/

/-- The stores differ at most in the conflicts that are still to come, and of those
only some were used up. -/
structure SameButConflicts (s t : Store) : Prop where
  eq : ∃ conflicts, t = { s with conflicts }
  usedUp : ∀ name left, t.conflicts.get? name = some (left + 1) →
    ∃ more, s.conflicts.get? name = some (more + 1)

theorem SameButConflicts.refl (s : Store) : s.SameButConflicts s :=
  ⟨⟨s.conflicts, rfl⟩, fun _ left hget => ⟨left, hget⟩⟩

theorem SameButConflicts.trans (hst : s.SameButConflicts t) (htu : t.SameButConflicts u) :
    s.SameButConflicts u := by
  constructor
  · obtain ⟨_, rfl⟩ := hst.eq
    obtain ⟨conflicts, rfl⟩ := htu.eq
    exact ⟨conflicts, rfl⟩
  · intro name left hget
    obtain ⟨more, hmore⟩ := htu.usedUp name left hget
    exact hst.usedUp name more hmore

theorem inject_cases (s : Store) (name : String) :
    s.inject name = (none, s) ∨
      ∃ failure u, s.inject name = (some failure, u) ∧ s.SameButConflicts u := by
  unfold inject
  split
  · exact .inr ⟨_, s, rfl, .refl s⟩
  · split
    next left hleft =>
      refine .inr ⟨_, _, rfl, ⟨_, rfl⟩, ?_⟩
      intro other more hget
      by_cases hother : other = name
      · subst hother
        exact ⟨left, hleft⟩
      · rw [Dict.get?_insert_of_ne _ hother] at hget
        exact ⟨more, hget⟩
    · exact .inl rfl

theorem run_guarded_of_fault {α : Type} {name : String} {failure : Failure}
    (hinject : s.inject name = (some failure, t))
    (write : Store → Except Failure α × Store) :
    Action.run (guarded name write) s = (.error failure, t) := by
  show guarded name write s = _
  unfold guarded
  rw [hinject]

theorem run_guarded_of_none {α : Type} {name : String} (hinject : s.inject name = (none, t))
    (write : Store → Except Failure α × Store) :
    Action.run (guarded name write) s = write t := by
  show guarded name write s = _
  unfold guarded
  rw [hinject]

/-- A write is tried from the very store, or it fails by a fault that may use up a
conflict. -/
theorem run_guarded {α : Type} (name : String) (write : Store → Except Failure α × Store)
    (s : Store) :
    Action.run (guarded name write) s = write s ∨
      ∃ failure u, Action.run (guarded name write) s = (.error failure, u) ∧
        s.SameButConflicts u := by
  rcases inject_cases s name with hnone | ⟨failure, u, hfault, hsame⟩
  · exact .inl (run_guarded_of_none hnone write)
  · exact .inr ⟨failure, u, run_guarded_of_fault hfault write, hsame⟩

/-- How many more writes of a name end in a conflict. -/
def pending (s : Store) (name : String) : Nat := (s.conflicts.get? name).getD 0

theorem pending_lt_of_quiet (hquiet : ∀ name, s.pending name = 0) (maxAttempts : Nat)
    (name : String) : s.pending name < max 1 maxAttempts := by
  rw [hquiet]
  omega

def withConflicts (s : Store) (conflicts : Dict Nat) : Store := { s with conflicts }

theorem created_withConflicts (kind : Kind) (object : Object) (s : Store)
    (conflicts : Dict Nat) :
    created kind object (s.withConflicts conflicts) =
      ((created kind object s).1, (created kind object s).2.withConflicts conflicts) := by
  have hsame : (s.withConflicts conflicts).get? (.ofObject kind object) =
      s.get? (.ofObject kind object) := rfl
  cases hget : s.get? (.ofObject kind object) with
  | none =>
      rw [created_of_none hget, created_of_none (hsame.trans hget)]
      rfl
  | some live => rw [created_of_some hget, created_of_some (hsame.trans hget)]

theorem replaced_withConflicts (kind : Kind) (object : Object) (s : Store)
    (conflicts : Dict Nat) :
    replaced kind object (s.withConflicts conflicts) =
      ((replaced kind object s).1, (replaced kind object s).2.withConflicts conflicts) := by
  have hsame : (s.withConflicts conflicts).get? (.ofObject kind object) =
      s.get? (.ofObject kind object) := rfl
  cases hget : s.get? (.ofObject kind object) with
  | none => rw [replaced_of_none hget, replaced_of_none (hsame.trans hget)]
  | some live =>
      by_cases hversion : object.metadata.resourceVersion = live.metadata.resourceVersion
      · rw [replaced_of_live hget hversion, replaced_of_live (hsame.trans hget) hversion]
        split <;> rfl
      · have hstale := fun hsame => hversion (Eq.symm hsame)
        rw [replaced_of_stale hget hstale, replaced_of_stale (hsame.trans hget) hstale]

theorem deletedAt_withConflicts (key : StoreKey) (s : Store) (conflicts : Dict Nat) :
    deletedAt key (s.withConflicts conflicts) =
      ((deletedAt key s).1, (deletedAt key s).2.withConflicts conflicts) := by
  have hsame : (s.withConflicts conflicts).get? key = s.get? key := rfl
  cases hget : s.get? key with
  | none => rw [deletedAt_of_none hget, deletedAt_of_none (hsame.trans hget)]
  | some live =>
      rw [deletedAt_of_some hget, deletedAt_of_some (hsame.trans hget)]
      rfl

theorem pending_insert_self (s : Store) (name : String) (left : Nat) :
    (s.withConflicts (s.conflicts.insert name left)).pending name = left := by
  unfold pending withConflicts
  rw [Dict.get?_insert_self]
  rfl

theorem pending_insert_le {name : String} {left : Nat} (hleft : left ≤ s.pending name)
    (other : String) :
    (s.withConflicts (s.conflicts.insert name left)).pending other ≤ s.pending other := by
  unfold pending withConflicts at *
  by_cases hother : other = name
  · subst hother
    rw [Dict.get?_insert_self]
    exact hleft
  · have hkept := Dict.get?_insert_of_ne s.conflicts hother left
    exact Nat.le_of_eq (by rw [hkept])

/-- A store that has no more conflicts to come differs only in those that were used up. -/
theorem sameButConflicts_withConflicts {conflicts : Dict Nat}
    (hfewer : ∀ name, (s.withConflicts conflicts).pending name ≤ s.pending name) :
    s.SameButConflicts (s.withConflicts conflicts) := by
  refine ⟨⟨conflicts, rfl⟩, ?_⟩
  intro name left hget
  have hpending := hfewer name
  unfold pending at hpending
  rw [hget] at hpending
  cases hbefore : s.conflicts.get? name with
  | none => simp [hbefore] at hpending
  | some before =>
      cases before with
      | zero => simp [hbefore] at hpending
      | succ more => exact ⟨more, rfl⟩

theorem inject_of_failing {name : String} (hfailing : s.failing.contains name = true) :
    s.inject name = (some (fault 500 "InternalError"), s) := by
  unfold inject
  rw [if_pos hfailing]

theorem inject_of_pending_eq_zero {name : String} (hfailing : s.failing.contains name = false)
    (hnone : s.pending name = 0) : s.inject name = (none, s) := by
  unfold inject
  unfold pending at hnone
  rw [hfailing]
  cases hget : s.conflicts.get? name with
  | none => rfl
  | some left =>
      rw [hget] at hnone
      obtain rfl : left = 0 := hnone
      rfl

theorem inject_of_pending_eq_succ {name : String} {left : Nat}
    (hfailing : s.failing.contains name = false) (hleft : s.pending name = left + 1) :
    s.inject name =
      (some (fault 409 "Conflict"), s.withConflicts (s.conflicts.insert name left)) := by
  unfold inject
  unfold pending at hleft
  rw [hfailing]
  cases hget : s.conflicts.get? name with
  | none => simp [hget] at hleft
  | some more =>
      rw [hget] at hleft
      obtain rfl : more = left + 1 := hleft
      rfl

/-- The failures with which writes are made to fail. -/
def IsInjected (failure : Failure) : Prop :=
  failure = fault 500 "InternalError" ∨ failure = fault 409 "Conflict"

theorem isInjected_of_inject {name : String} {failure : Failure}
    (hinject : s.inject name = (some failure, t)) : IsInjected failure := by
  unfold inject at hinject
  split at hinject
  · exact .inl (Option.some.inj (Prod.mk.inj hinject).1).symm
  · split at hinject
    · exact .inr (Option.some.inj (Prod.mk.inj hinject).1).symm
    · simp at hinject

theorem run_guarded_or_injected {α : Type} (name : String)
    (write : Store → Except Failure α × Store) (s : Store) :
    Action.run (guarded name write) s = write s ∨
      ∃ failure u, Action.run (guarded name write) s = (.error failure, u) ∧
        s.SameButConflicts u ∧ IsInjected failure := by
  rcases inject_cases s name with hnone | ⟨failure, u, hfault, hsame⟩
  · exact .inl (run_guarded_of_none hnone write)
  · have hinjected := isInjected_of_inject hfault
    exact .inr ⟨failure, u, run_guarded_of_fault hfault write, hsame, hinjected⟩

/-- A write that would succeed fails only where it is made to fail. -/
theorem isInjected_of_guarded {α : Type} {name : String} {a : α} {failure : Failure}
    {write : Store → Except Failure α × Store} (hwrite : (write s).1 = .ok a)
    (hfails : (Action.run (guarded name write) s).1 = .error failure) :
    IsInjected failure := by
  rcases run_guarded_or_injected name write s with hrun | ⟨fault, u, hrun, -, hinjected⟩
  · rw [hrun, hwrite] at hfails
    simp at hfails
  · rw [hrun] at hfails
    obtain rfl := Except.error.inj hfails
    exact hinjected

/-- No write is to fail. -/
structure Faultless (s : Store) : Prop where
  failing : s.failing = []
  conflicts : ∀ name left, s.conflicts.get? name ≠ some (left + 1)
  unlistable : s.unlistable = []

theorem faultless_empty : Faultless {} := by
  refine ⟨rfl, ?_, rfl⟩
  intro name left hget
  have hnone : ({} : Store).conflicts.get? name = none := rfl
  rw [hnone] at hget
  simp at hget

theorem Faultless.run_guarded {α : Type} (hs : s.Faultless) (name : String)
    (write : Store → Except Failure α × Store) :
    Action.run (guarded name write) s = write s := by
  have hinject : s.inject name = (none, s) := by
    unfold inject
    rw [hs.failing]
    cases hget : s.conflicts.get? name with
    | none => simp
    | some left =>
        cases left with
        | zero => simp
        | succ left => exact absurd hget (hs.conflicts name left)
  exact run_guarded_of_none hinject write

theorem SameButConflicts.omitsEmpty (hsame : s.SameButConflicts t) :
    t.omitsEmpty = s.omitsEmpty := by
  obtain ⟨_, rfl⟩ := hsame.eq
  rfl

theorem SameButConflicts.faultless (hsame : s.SameButConflicts t) (hs : s.Faultless) :
    t.Faultless := by
  obtain ⟨⟨conflicts, rfl⟩, husedUp⟩ := hsame
  refine ⟨hs.failing, ?_, hs.unlistable⟩
  intro name left hget
  obtain ⟨more, hmore⟩ := husedUp name left hget
  exact hs.conflicts name more hmore

/-- The faults of the stores are the same, and whether fields are dropped. -/
structure SameFaults (s t : Store) : Prop where
  failing : t.failing = s.failing
  conflicts : t.conflicts = s.conflicts
  unlistable : t.unlistable = s.unlistable
  omitsEmpty : t.omitsEmpty = s.omitsEmpty

theorem SameFaults.refl (s : Store) : s.SameFaults s := ⟨rfl, rfl, rfl, rfl⟩

theorem SameFaults.trans (hst : s.SameFaults t) (htu : t.SameFaults u) : s.SameFaults u :=
  ⟨htu.failing.trans hst.failing, htu.conflicts.trans hst.conflicts,
    htu.unlistable.trans hst.unlistable, htu.omitsEmpty.trans hst.omitsEmpty⟩

theorem SameFaults.faultless (hsame : s.SameFaults t) (hs : s.Faultless) : t.Faultless :=
  ⟨hsame.failing ▸ hs.failing, hsame.conflicts ▸ hs.conflicts,
    hsame.unlistable ▸ hs.unlistable⟩

theorem sameFaults_deletedAt (s : Store) (key : StoreKey) :
    s.SameFaults (deletedAt key s).2 := by
  cases hget : s.get? key with
  | none =>
      rw [deletedAt_of_none hget]
      exact .refl s
  | some live =>
      rw [deletedAt_of_some hget]
      exact ⟨rfl, rfl, rfl, rfl⟩

end AgentOperator.Store
