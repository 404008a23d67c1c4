import AgentOperator.Proofs.Manifest.Desired
import AgentOperator.Proofs.Store.Steps

/-!
# What becomes of one object

An attempt decides what to do from what stands at the place of its object, and makes one
write at most.  A write that ends in a conflict uses up one of the conflicts to come and
changes nothing else, so the next attempt decides the same.  What becomes of an object is
therefore decided by the store apart from its conflicts, as long as there are fewer of
them than attempts.
-/

namespace AgentOperator

variable {d : Desired} {s : Store} {more : Nat}

/-- How bringing an object to its target state ended. -/
abbrev Ending : Type := Except Failure (Change × Option String)

/-! ## Writes and their answers -/

/-- A write whose answer is passed on. -/
def answering {α β : Type} (f : α → β) (write : Store → Except Failure α × Store) (s : Store) :
    Except Failure β × Store :=
  ((write s).1.map f, (write s).2)

section

variable {α β : Type} {f : α → β} {write : Store → Except Failure α × Store}

theorem answering_of_error {failure : Failure}
    (hends : (answering f write s).1 = .error failure) : (write s).1 = .error failure := by
  unfold answering at hends
  cases hwrite : (write s).1 with
  | ok a => simp [hwrite, Except.map] at hends
  | error other =>
      rw [hwrite] at hends
      obtain rfl := Except.error.inj hends
      rfl

theorem answering_of_eq {a : α} {t : Store} (hwrite : write s = (.ok a, t)) :
    answering f write s = (.ok (f a), t) := by
  unfold answering
  rw [hwrite]
  rfl

theorem answering_withConflicts {conflicts : Dict Nat}
    (hwrite : write (s.withConflicts conflicts) =
      ((write s).1, (write s).2.withConflicts conflicts)) :
    answering f write (s.withConflicts conflicts) =
      ((answering f write s).1, (answering f write s).2.withConflicts conflicts) := by
  unfold answering
  rw [hwrite]

theorem run_guarded_answering (name : String) (write : Store → Except Failure α × Store)
    (f : α → β) (s : Store) :
    Action.run (Store.guarded name write >>= fun a => pure (f a)) s =
      Action.run (Store.guarded name (answering f write)) s := by
  rcases hinject : s.inject name with ⟨fault, t⟩
  cases fault with
  | some failure =>
      rw [Action.run_bind, Store.run_guarded_of_fault hinject,
        Store.run_guarded_of_fault hinject]
  | none =>
      rw [Action.run_bind, Store.run_guarded_of_none hinject,
        Store.run_guarded_of_none hinject]
      unfold answering
      rcases write t with ⟨answer, u⟩
      cases answer with
      | ok a => rfl
      | error failure => rfl

end

/-! ## Plans -/

/-- What an attempt decides to do. -/
inductive Plan
  | make
  | remove
  | leave (uid : Option String)
  | overwrite (written : Object)

/-- What is decided about an object, from what stands at its place. -/
def Desired.plan (d : Desired) : Option Object → Plan
  | none => .make
  | some live =>
    match mergeImmutable d.kind live d.object with
    | (some _, _) => .remove
    | (none, target) =>
      if isUnchanged live target then .leave live.metadata.uid
      else .overwrite (updatedObject live target)

/-- The name that a plan writes to, if it does. -/
def Plan.name? (d : Desired) : Plan → Option String
  | make | remove => some d.object.name
  | leave _ => none
  | overwrite written => some written.name

/-- What a plan comes to where no fault keeps it from being carried out. -/
def Plan.carryOut (d : Desired) : Plan → Store → Ending × Store
  | make =>
    answering (fun made => (.created, made.metadata.uid)) (Store.created d.kind d.object)
  | remove => answering (fun _ => (.immutableConflict, none)) (Store.deletedAt d.place)
  | leave uid => fun s => (.ok (.unchanged, uid), s)
  | overwrite written =>
    answering (fun made => (.updated, made.metadata.uid)) (Store.replaced d.kind written)

/-- What becomes of an object in the end. -/
def Desired.finish (d : Desired) (s : Store) : Ending × Store :=
  if ((d.plan (s.get? d.place)).name? d).any fun name => s.failing.contains name then
    (.error (Store.fault 500 "InternalError"), s)
  else (d.plan (s.get? d.place)).carryOut d s

theorem Plan.carryOut_withConflicts (plan : Plan) (d : Desired) (s : Store)
    (conflicts : Dict Nat) :
    plan.carryOut d (s.withConflicts conflicts) =
      ((plan.carryOut d s).1, (plan.carryOut d s).2.withConflicts conflicts) := by
  cases plan with
  | make => exact answering_withConflicts (Store.created_withConflicts _ _ s conflicts)
  | remove => exact answering_withConflicts (Store.deletedAt_withConflicts _ s conflicts)
  | leave uid => rfl
  | overwrite written =>
      exact answering_withConflicts (Store.replaced_withConflicts _ written s conflicts)

theorem Desired.finish_withConflicts (d : Desired) (s : Store) (conflicts : Dict Nat) :
    d.finish (s.withConflicts conflicts) =
      ((d.finish s).1, (d.finish s).2.withConflicts conflicts) := by
  have hget : (s.withConflicts conflicts).get? d.place = s.get? d.place := rfl
  have hfailing : (s.withConflicts conflicts).failing = s.failing := rfl
  unfold finish
  rw [hget, hfailing]
  split
  · rfl
  · exact Plan.carryOut_withConflicts _ d s conflicts

theorem Desired.plan_some_ne_make (d : Desired) (live : Object) : d.plan (some live) ≠ .make := by
  rcases hmerge : mergeImmutable d.kind live d.object with ⟨_ | field, target⟩
  · cases hsame : isUnchanged live target <;> simp [plan, hmerge, hsame]
  · simp [plan, hmerge]

/-- An object that failed left the store as it was, and if it failed by a conflict this
is the conflict that a stale version makes. -/
theorem Desired.finish_of_error {failure : Failure} (hends : (d.finish s).1 = .error failure) :
    (d.finish s).2 = s ∧
      (failure.isConflict = true → failure = Store.fault 409 "Conflict") := by
  unfold finish at hends ⊢
  split at hends
  next hfails =>
    rw [if_pos hfails]
    obtain rfl := Except.error.inj hends
    exact ⟨rfl, fun hconflict => by simp [Store.fault, Failure.isConflict] at hconflict⟩
  next hfaultless =>
    rw [if_neg hfaultless]
    cases hget : s.get? d.place with
    | none =>
        rw [hget] at hends
        have hwrite := answering_of_error hends
        rw [Store.created_of_none hget] at hwrite
        simp at hwrite
    | some live =>
        rw [hget] at hends
        cases hplan : d.plan (some live) with
        | make => exact absurd hplan (d.plan_some_ne_make live)
        | remove =>
            rw [hplan] at hends
            have hwrite := answering_of_error hends
            rw [Store.deletedAt_of_some hget] at hwrite
            simp at hwrite
        | leave uid => simp [hplan, Plan.carryOut] at hends
        | overwrite written =>
            rw [hplan] at hends
            exact Store.replaced_of_error (answering_of_error hends)

/-! ## One attempt -/

theorem run_get_place (d : Desired) (s : Store) :
    Action.run (Store.cluster.get d.kind d.namespaceName d.object.name) s =
      (.ok (s.get? d.place), s) := rfl

/-- An attempt carries out its plan, behind the faults if it is to write. -/
theorem run_applyOne (d : Desired) (s : Store) :
    Action.run (applyOne Store.cluster d) s =
      match (d.plan (s.get? d.place)).name? d with
      | some name =>
        Action.run (Store.guarded name ((d.plan (s.get? d.place)).carryOut d)) s
      | none => (d.plan (s.get? d.place)).carryOut d s := by
  unfold applyOne
  rw [Action.run_bind_of_ok (run_get_place d s)]
  cases s.get? d.place with
  | none => exact run_guarded_answering d.object.name (Store.created d.kind d.object) _ s
  | some live =>
      dsimp only [applyOver, Desired.plan]
      rcases mergeImmutable d.kind live d.object with ⟨_ | field, target⟩
      · dsimp only
        by_cases hsame : isUnchanged live target = true
        · rw [if_pos hsame, if_pos hsame]
          rfl
        · rw [if_neg hsame, if_neg hsame]
          exact run_guarded_answering _ (Store.replaced d.kind (updatedObject live target)) _ s
      · exact run_guarded_answering d.object.name (Store.deletedAt d.place) _ s

/-! ## Repeated attempts -/

/-- An attempt ends as its object ends, or it uses up a conflict of the name that it was
to write to. -/
theorem run_applyOne_or_conflict (d : Desired) (s : Store) :
    Action.run (applyOne Store.cluster d) s = d.finish s ∨
      ∃ name left, (d.plan (s.get? d.place)).name? d = some name ∧
        s.pending name = left + 1 ∧
        Action.run (applyOne Store.cluster d) s =
          (.error (Store.fault 409 "Conflict"),
            s.withConflicts (s.conflicts.insert name left)) := by
  rw [run_applyOne d s]
  unfold Desired.finish
  cases hname : (d.plan (s.get? d.place)).name? d with
  | none => exact .inl rfl
  | some name =>
      dsimp only [Option.any_some]
      by_cases hfailing : s.failing.contains name = true
      · rw [if_pos hfailing]
        exact .inl (Store.run_guarded_of_fault (Store.inject_of_failing hfailing) _)
      · rw [if_neg hfailing]
        rw [Bool.not_eq_true] at hfailing
        cases hpending : s.pending name with
        | zero =>
            exact .inl (Store.run_guarded_of_none
              (Store.inject_of_pending_eq_zero hfailing hpending) _)
        | succ left =>
            exact .inr ⟨name, left, rfl, hpending, Store.run_guarded_of_fault
              (Store.inject_of_pending_eq_succ hfailing hpending) _⟩

/-- Where an object ends in the conflict that a stale version makes, it does so after any
number of attempts. -/
theorem run_retryMore_of_stale
    (hstale : (d.finish s).1 = .error (Store.fault 409 "Conflict")) (more : Nat) :
    ∃ conflicts,
      Action.run ((applyOne Store.cluster d).retryMore more) s =
        (.error (Store.fault 409 "Conflict"), s.withConflicts conflicts) ∧
      ∀ name, (s.withConflicts conflicts).pending name ≤ s.pending name := by
  have hfinish : d.finish s = (.error (Store.fault 409 "Conflict"), s) :=
    Prod.ext hstale (Desired.finish_of_error hstale).1
  induction more generalizing s with
  | zero =>
      rcases run_applyOne_or_conflict d s with hrun | ⟨name, left, -, hleft, hrun⟩
      · exact ⟨s.conflicts, hrun.trans hfinish, fun _ => Nat.le_refl _⟩
      · exact ⟨_, hrun, Store.pending_insert_le (by omega)⟩
  | succ more ih =>
      rw [Action.run_retryMore_succ]
      rcases run_applyOne_or_conflict d s with hrun | ⟨name, left, -, hleft, hrun⟩
      · rw [hrun, hfinish]
        exact ih hstale hfinish
      · rw [hrun]
        have hused : ∀ other, (s.withConflicts (s.conflicts.insert name left)).pending other ≤
            s.pending other := Store.pending_insert_le (by omega)
        have hagain := d.finish_withConflicts s (s.conflicts.insert name left)
        rw [hfinish] at hagain
        obtain ⟨conflicts, hrest, hless⟩ := ih (congrArg Prod.fst hagain) hagain
        exact ⟨conflicts, hrest, fun other => Nat.le_trans (hless other) (hused other)⟩

theorem run_retryMore_of_finish (hrun : Action.run (applyOne Store.cluster d) s = d.finish s)
    (hstale : (d.finish s).1 ≠ .error (Store.fault 409 "Conflict")) (more : Nat) :
    Action.run ((applyOne Store.cluster d).retryMore more) s =
      ((d.finish s).1, (d.finish s).2.withConflicts s.conflicts) := by
  have hfinal : ∀ failure, (d.finish s).1 = .error failure → failure.isConflict = false := by
    intro failure hends
    rw [Bool.eq_false_iff]
    intro hconflict
    rw [(Desired.finish_of_error hends).2 hconflict] at hends
    exact hstale hends
  rw [Action.run_retryMore_of_final hrun hfinal more]
  exact d.finish_withConflicts s s.conflicts

/-- Where the name that is written to has fewer conflicts than there are attempts an object
ends as if there were none, and no more conflicts are to come than before. -/
theorem run_retryMore_applyOne (d : Desired) (s : Store)
    (hfew : ∀ name, (d.plan (s.get? d.place)).name? d = some name → s.pending name ≤ more) :
    ∃ conflicts,
      Action.run ((applyOne Store.cluster d).retryMore more) s =
        ((d.finish s).1, (d.finish s).2.withConflicts conflicts) ∧
      ∀ name, (s.withConflicts conflicts).pending name ≤ s.pending name := by
  by_cases hstale : (d.finish s).1 = .error (Store.fault 409 "Conflict")
  · obtain ⟨conflicts, hrun, hless⟩ := run_retryMore_of_stale hstale more
    refine ⟨conflicts, ?_, hless⟩
    rw [hrun, hstale, (Desired.finish_of_error hstale).1]
  · induction more generalizing s with
    | zero =>
        rcases run_applyOne_or_conflict d s with hrun | ⟨name, left, hname, hleft, -⟩
        · exact ⟨s.conflicts, run_retryMore_of_finish hrun hstale 0, fun _ => Nat.le_refl _⟩
        · have hnone := hfew name hname
          omega
    | succ more ih =>
        rcases run_applyOne_or_conflict d s with hrun | ⟨name, left, hname, hleft, hrun⟩
        · exact ⟨s.conflicts, run_retryMore_of_finish hrun hstale _, fun _ => Nat.le_refl _⟩
        · -- The conflict that the attempt used up is one fewer to come for the next, which
          -- will write to the same name.
          let used := s.conflicts.insert name left
          have hused : ∀ other, (s.withConflicts used).pending other ≤ s.pending other :=
            Store.pending_insert_le (by omega)
          have hfewer : ∀ other, (d.plan (s.get? d.place)).name? d = some other →
              (s.withConflicts used).pending other ≤ more := by
            intro other hother
            rw [hname] at hother
            obtain rfl := Option.some.inj hother
            have hself : (s.withConflicts used).pending name = left :=
              Store.pending_insert_self s name left
            have hbefore := hfew name hname
            omega
          have hagain := d.finish_withConflicts s used
          obtain ⟨conflicts, hrest, hless⟩ :=
            ih (s.withConflicts used) hfewer (by rwa [hagain])
          refine ⟨conflicts, ?_, fun other => Nat.le_trans (hless other) (hused other)⟩
          rw [Action.run_retryMore_succ, hrun]
          rw [hagain] at hrest
          exact hrest

theorem run_retryOnConflict_applyOne (d : Desired) {maxAttempts : Nat}
    (hfew : ∀ name, s.pending name < max 1 maxAttempts) :
    ∃ conflicts,
      Action.run ((applyOne Store.cluster d).retryOnConflict maxAttempts) s =
        ((d.finish s).1, (d.finish s).2.withConflicts conflicts) ∧
      ∀ name, (s.withConflicts conflicts).pending name ≤ s.pending name := by
  refine run_retryMore_applyOne d s fun name _ => ?_
  have hpending := hfew name
  omega

/-! ## Where an attempt writes -/

section

variable {live target : Object}

theorem Desired.plan_of_conflict {field : Json.Path}
    (hmerge : mergeImmutable d.kind live d.object = (some field, target)) :
    d.plan (some live) = .remove := by
  simp only [plan, hmerge]

theorem Desired.plan_of_unchanged
    (hmerge : mergeImmutable d.kind live d.object = (none, target))
    (hsame : isUnchanged live target = true) :
    d.plan (some live) = .leave live.metadata.uid := by
  simp only [plan, hmerge, hsame, if_true]

theorem Desired.plan_of_changed
    (hmerge : mergeImmutable d.kind live d.object = (none, target))
    (hdiffers : isUnchanged live target = false) :
    d.plan (some live) = .overwrite (updatedObject live target) := by
  simp only [plan, hmerge, hdiffers, if_false, Bool.false_eq_true]

/-- What is written over a live object stands where the live object stood. -/
theorem Store.Placed.place_updatedObject (hs : s.Placed) (hlive : s.get? d.place = some live)
    (target : Object) : StoreKey.ofObject d.kind (updatedObject live target) = d.place :=
  (hs _ _ hlive).symm

theorem Plan.carryOut_make (habsent : s.get? d.place = none) :
    make.carryOut d s =
      (.ok (.created, (s.newObject d.kind d.object).metadata.uid),
        s.withWritten d.place (s.newObject d.kind d.object)) :=
  answering_of_eq (Store.created_of_none habsent)

theorem Plan.carryOut_remove (hlive : s.get? d.place = some live) :
    remove.carryOut d s = (.ok (.immutableConflict, none), s.withDeleted d.place) :=
  answering_of_eq (Store.deletedAt_of_some hlive)

theorem Plan.carryOut_overwrite (hlive : s.get? d.place = some live)
    (hplace : StoreKey.ofObject d.kind (updatedObject live target) = d.place) :
    (overwrite (updatedObject live target)).carryOut d s =
      if Store.changesAddress d.kind live (updatedObject live target) then
        (.error (Store.fault 422 "Invalid"), s)
      else
        (.ok (.updated, live.metadata.uid),
          s.withWritten d.place (s.nextObject live (updatedObject live target))) := by
  have hwritten : s.get? (.ofObject d.kind (updatedObject live target)) = some live := by
    rwa [hplace]
  simp only [carryOut, answering]
  rw [Store.replaced_of_live hwritten rfl, hplace]
  split
  · rfl
  · simp only [Except.map, Store.nextObject_metadata]

end

end AgentOperator
