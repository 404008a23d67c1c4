import AgentOperator.Proofs.Reconcile.Attempt
import AgentOperator.Proofs.Reconcile.Made

/-!
# What applying objects does to a store

One relation says everything that bringing a desired object to its target state
can do to a store, guards included, and each fact about a pass is derived from
it.  Applying a list of objects is a run of such steps.  Since the objects have
places of their own, what a step reaches at its place is there at the end of the
run, and all other places are as they were.
-/

namespace AgentOperator

open Store (Sound Placed SameButConflicts SameFaults Faultless)

variable {d : Desired} {ds : List Desired} {s t u v : Store} {change : Change}
  {uid : Option String} {outcome : Outcome} {outcomes : List Outcome} {key : StoreKey}

/-! ## One object -/

/-- What bringing one desired object to its target state does to a store. -/
inductive Applied (d : Desired) (s : Store) : Change → Option String → Store → Prop
  | created (habsent : s.get? d.place = none) :
    Applied d s .created (s.newObject d.kind d.object).metadata.uid
      (s.withWritten d.place (s.newObject d.kind d.object))
  | deleted {live target : Object} {field : Json.Path} (hlive : s.get? d.place = some live)
    (hmerge : mergeImmutable d.kind live d.object = (some field, target)) :
    Applied d s .immutableConflict none (s.withDeleted d.place)
  | unchanged {live target : Object} (hlive : s.get? d.place = some live)
    (hmerge : mergeImmutable d.kind live d.object = (none, target))
    (hsame : isUnchanged live target = true) :
    Applied d s .unchanged live.metadata.uid s
  | updated {live target : Object} (hlive : s.get? d.place = some live)
    (hmerge : mergeImmutable d.kind live d.object = (none, target))
    (hdiffers : isUnchanged live target = false) :
    Applied d s .updated live.metadata.uid
      (s.withWritten d.place (s.nextObject live (updatedObject live target)))

theorem place_updatedObject (hs : s.Sound) {live : Object}
    (hlive : s.get? d.place = some live) (target : Object) :
    StoreKey.ofObject d.kind (updatedObject live target) = d.place :=
  hs.arranged.placed.place_updatedObject hlive target

theorem Plan.applied_of_carryOut (hs : s.Placed)
    (hends : (d.plan (s.get? d.place)).carryOut d s = (.ok (change, uid), t)) :
    Applied d s change uid t := by
  cases hlive : s.get? d.place with
  | none =>
      rw [hlive] at hends
      obtain ⟨hchange, rfl⟩ := Prod.mk.inj ((carryOut_make hlive).symm.trans hends)
      obtain ⟨rfl, rfl⟩ := Prod.mk.inj (Except.ok.inj hchange)
      exact .created hlive
  | some live =>
      rw [hlive] at hends
      rcases hmerge : mergeImmutable d.kind live d.object with ⟨_ | field, target⟩
      · cases hsame : isUnchanged live target with
        | true =>
            rw [Desired.plan_of_unchanged hmerge hsame] at hends
            obtain ⟨hchange, rfl⟩ := Prod.mk.inj hends
            obtain ⟨rfl, rfl⟩ := Prod.mk.inj (Except.ok.inj hchange)
            exact .unchanged hlive hmerge hsame
        | false =>
            rw [Desired.plan_of_changed hmerge hsame,
              carryOut_overwrite hlive (hs.place_updatedObject hlive target)] at hends
            split at hends
            · simp at hends
            · obtain ⟨hchange, rfl⟩ := Prod.mk.inj hends
              obtain ⟨rfl, rfl⟩ := Prod.mk.inj (Except.ok.inj hchange)
              exact .updated hlive hmerge hsame
      · rw [Desired.plan_of_conflict hmerge, carryOut_remove hlive] at hends
        obtain ⟨hchange, rfl⟩ := Prod.mk.inj hends
        obtain ⟨rfl, rfl⟩ := Prod.mk.inj (Except.ok.inj hchange)
        exact .deleted hlive hmerge

/-- An object ends in one of the ways above, or it fails and the store is as it was. -/
theorem Desired.finish_cases (hs : s.Placed) (d : Desired) :
    (∃ change uid t, d.finish s = (.ok (change, uid), t) ∧ Applied d s change uid t) ∨
      ∃ failure, d.finish s = (.error failure, s) := by
  rcases hends : d.finish s with ⟨ending, t⟩
  cases ending with
  | error failure =>
      have hsame : (d.finish s).2 = s := (finish_of_error (congrArg Prod.fst hends)).1
      rw [hends] at hsame
      obtain rfl : t = s := hsame
      exact .inr ⟨failure, rfl⟩
  | ok ending =>
      obtain ⟨change, uid⟩ := ending
      unfold finish at hends
      split at hends
      · simp at hends
      · exact .inl ⟨change, uid, t, rfl, Plan.applied_of_carryOut hs hends⟩

/-- Bringing an object to its target state succeeds in one of the ways above, or
fails and leaves all objects as they were. -/
theorem run_applyOne_cases (hs : s.Placed) (d : Desired) :
    (∃ change uid t, Action.run (applyOne Store.cluster d) s = (.ok (change, uid), t) ∧
      Applied d s change uid t) ∨
    ∃ failure t, Action.run (applyOne Store.cluster d) s = (.error failure, t) ∧
      s.SameButConflicts t := by
  rcases run_applyOne_or_conflict d s with hrun | ⟨name, left, -, hleft, hrun⟩
  · rw [hrun]
    rcases d.finish_cases hs with happlied | ⟨failure, hends⟩
    · exact .inl happlied
    · exact .inr ⟨failure, s, hends, .refl s⟩
  · have hfewer : ∀ other,
        (s.withConflicts (s.conflicts.insert name left)).pending other ≤ s.pending other :=
      Store.pending_insert_le (by omega)
    exact .inr ⟨_, _, hrun, Store.sameButConflicts_withConflicts hfewer⟩

namespace Applied

theorem sound (happlied : Applied d s change uid t) (hs : s.Sound) (hd : d.IsBuilt) :
    t.Sound := by
  cases happlied with
  | created habsent => exact hs.withWritten_new d.kind hd.object.isProper
  | deleted => exact hs.withDeleted _
  | unchanged => exact hs
  | updated hlive hmerge _ =>
      have hproper := updatedObject_isProper (hs.proper hlive)
        (mergeImmutable_isBuilt (hs.proper hlive) hd.object hmerge)
      have hplace := place_updatedObject hs hlive
      have hnext := hs.withWritten_next d.kind hproper (hplace _ ▸ hlive)
      rwa [hplace] at hnext

theorem placed (happlied : Applied d s change uid t) (hs : s.Placed) : t.Placed := by
  cases happlied with
  | created => exact (s.step_withWritten_new d.kind d.object).placed hs
  | deleted => exact (s.step_withDeleted d.place).placed hs
  | unchanged => exact hs
  | @updated live target hlive =>
      have hstep := s.step_withWritten_next d.kind live (updatedObject live target)
      rw [hs.place_updatedObject hlive target] at hstep
      exact hstep.placed hs

theorem get?_of_ne (happlied : Applied d s change uid t) (hne : key ≠ d.place) :
    t.get? key = s.get? key := by
  cases happlied with
  | created => exact Store.get?_of_putEntry_of_ne rfl hne
  | deleted => exact Store.get?_withDeleted_of_ne s hne
  | unchanged => rfl
  | updated => exact Store.get?_of_putEntry_of_ne rfl hne

end Applied

theorem Applied.ne_failed (happlied : Applied d s change uid t) : change ≠ .failed := by
  cases happlied <;> decide

theorem Applied.sameFaults (happlied : Applied d s change uid t) : s.SameFaults t := by
  cases happlied <;> exact ⟨rfl, rfl, rfl, rfl⟩

/-! ## What is reached -/

/-- What an outcome says about the store at the place of its object. -/
def Reached (d : Desired) (outcome : Outcome) (s : Store) : Prop :=
  match outcome.change with
  | .immutableConflict => s.get? d.place = none
  | .failed => False
  | _ => ∃ live, s.get? d.place = some live ∧ outcome.uid = live.metadata.uid

theorem Reached.congr (hreached : Reached d outcome s)
    (hget : t.get? d.place = s.get? d.place) : Reached d outcome t := by
  unfold Reached at *
  rwa [hget]

/-- Writing the desired object over what stands at its place makes an object of its body. -/
def Overwritable (d : Desired) (s : Store) : Prop :=
  ∀ live, s.get? d.place = some live → BecomesObject live.body d.object.body

/-- A service account is the only object whose desired body has no field. -/
theorem Desired.IsBuilt.overwritable (hd : d.IsBuilt)
    (haccount : d.kind = .serviceAccount → ∀ live, s.get? d.place = some live →
      live.body.IsObject) : Overwritable d s := by
  intro live hlive
  by_cases hkind : d.kind = .serviceAccount
  · exact .inl (haccount hkind live hlive)
  · have hfield := hd.field
    cases hkey : d.kind.bodyKey? with
    | none => cases hcase : d.kind <;> simp_all [Kind.bodyKey?]
    | some key =>
        rw [hkey] at hfield
        obtain ⟨value, hbody⟩ := hfield
        refine .inr ?_
        rw [hbody, Json.fieldsOrNone_obj]
        exact List.cons_ne_nil _ _

theorem stored_eq (homits : s.omitsEmpty = false) (object : Object) :
    s.stored object = object := by
  unfold Store.stored
  rw [homits]
  rfl

/-- What a pass makes is an object that was made, unless fields are dropped from it. -/
theorem made_newObject (homits : s.omitsEmpty = false) (d : Desired) :
    Made d (s.newObject d.kind d.object) := by
  unfold Store.newObject
  rw [stored_eq homits]
  unfold Store.completed
  by_cases hkind : d.kind = .service
  · rw [if_pos hkind]
    refine ⟨⟨s.counter + 1, ?_⟩, rfl, rfl, rfl⟩
    rw [if_pos hkind]
  · rw [if_neg hkind]
    refine ⟨⟨0, ?_⟩, rfl, rfl, rfl⟩
    rw [if_neg hkind]

theorem settled_nextObject (homits : s.omitsEmpty = false) (hs : s.Sound) (hd : d.IsBuilt)
    (hbody : Overwritable d s) {live target : Object} (hlive : s.get? d.place = some live)
    (hmerge : mergeImmutable d.kind live d.object = (none, target)) :
    Settled d (s.nextObject live (updatedObject live target)) := by
  unfold Store.nextObject
  rw [stored_eq homits]
  -- Neither the version nor the identity takes part in being settled.
  exact settled_updatedObject (hs.proper hlive) hd.object (hbody live hlive) hmerge

theorem Applied.reached (happlied : Applied d s change uid t) :
    Reached d ⟨d.key, change, uid⟩ t := by
  cases happlied with
  | created => exact ⟨_, Store.get?_of_putEntry rfl, rfl⟩
  | deleted => exact Store.get?_withDeleted_self s d.place
  | unchanged hlive => exact ⟨_, hlive, rfl⟩
  | updated =>
      refine ⟨_, Store.get?_of_putEntry rfl, ?_⟩
      rw [Store.nextObject_metadata]

/-- What applying an object leaves at its place is settled. -/
theorem Applied.settled (happlied : Applied d s change uid t) (homits : s.omitsEmpty = false)
    (hs : s.Sound) (hd : d.IsBuilt) (hbody : Overwritable d s) {live : Object}
    (hlive : t.get? d.place = some live) : Settled d live := by
  cases happlied with
  | created =>
      obtain rfl := Option.some.inj ((Store.get?_of_putEntry rfl).symm.trans hlive)
      exact (made_newObject homits d).settled hd
  | deleted =>
      rw [Store.get?_withDeleted_self] at hlive
      simp at hlive
  | unchanged hbefore hmerge hsame =>
      obtain rfl := Option.some.inj (hbefore.symm.trans hlive)
      exact ⟨_, hmerge, hsame⟩
  | updated hbefore hmerge =>
      obtain rfl := Option.some.inj ((Store.get?_of_putEntry rfl).symm.trans hlive)
      exact settled_nextObject homits hs hd hbody hbefore hmerge

/-- A service account whose body is no object is written over, and keeps that body:
there is no field to write into it. -/
theorem Applied.of_bodiless (happlied : Applied d s change uid t) (hs : s.Sound)
    (hd : d.IsBuilt) (hkind : d.kind = .serviceAccount) {live : Object}
    (hlive : s.get? d.place = some live) (hbody : ¬ live.body.IsObject) :
    change = .updated ∧ ∃ after, t.get? d.place = some after ∧ ¬ after.body.IsObject := by
  have hmerged : mergeImmutable d.kind live d.object = (none, d.object) := by
    rw [hkind]
    rfl
  have hempty : d.object.body = .empty := by
    have hfield := hd.field
    rwa [hkind] at hfield
  cases happlied with
  | created habsent =>
      rw [habsent] at hlive
      simp at hlive
  | deleted hbefore hmerge =>
      obtain rfl := Option.some.inj (hlive.symm.trans hbefore)
      rw [hmerged] at hmerge
      simp at hmerge
  | unchanged hbefore hmerge hsame =>
      obtain rfl := Option.some.inj (hlive.symm.trans hbefore)
      have hsettled : Settled d _ := ⟨_, hmerge, hsame⟩
      exact absurd (hsettled.isObject (hs.proper hbefore) hd.object) hbody
  | updated hbefore hmerge =>
      obtain rfl := Option.some.inj (hlive.symm.trans hbefore)
      rw [hmerged] at hmerge
      obtain ⟨-, rfl⟩ := Prod.mk.inj hmerge
      refine ⟨rfl, _, Store.get?_of_putEntry rfl, fun hobject => hbody ?_⟩
      unfold Store.nextObject at hobject
      rw [Store.stored_body] at hobject
      have hkept : overlayBody live.body d.object.body = live.body :=
        overlayBody_of_nil live.body (by rw [hempty]; rfl)
      simp only [updatedObject, hkept] at hobject
      split at hobject
      · exact hobject.of_stripEmpty
      · exact hobject

/-! ## All objects -/

/-- What bringing all objects of a list to their target states does to a store. -/
inductive AppliedAll : Store → List Desired → List Outcome → Store → Prop
  | nil (s : Store) : AppliedAll s [] [] s
  | cons {s t u v : Store} {d : Desired} {ds : List Desired} {change : Change}
    {uid : Option String} {outcomes : List Outcome} (hsame : s.SameButConflicts t)
    (happlied : Applied d t change uid u) (hrest : AppliedAll u ds outcomes v) :
    AppliedAll s (d :: ds) (⟨d.key, change, uid⟩ :: outcomes) v

theorem get?_of_sameButConflicts (hsame : s.SameButConflicts t) (key : StoreKey) :
    t.get? key = s.get? key := by
  obtain ⟨_, rfl⟩ := hsame.eq
  rfl

namespace AppliedAll

theorem sound (hall : AppliedAll s ds outcomes v) (hs : s.Sound)
    (hds : ∀ d ∈ ds, d.IsBuilt) : v.Sound := by
  induction hall with
  | nil => exact hs
  | cons hsame happlied _ ih =>
      have hnext := happlied.sound (hs.of_sameButConflicts hsame) (hds _ List.mem_cons_self)
      exact ih hnext fun d hmem => hds d (List.mem_cons_of_mem _ hmem)

theorem keys (hall : AppliedAll s ds outcomes v) :
    outcomes.map Outcome.key = ds.map Desired.key := by
  induction hall with
  | nil => rfl
  | cons _ _ _ ih => rw [List.map_cons, List.map_cons, ih]

theorem length_eq (hall : AppliedAll s ds outcomes v) : outcomes.length = ds.length := by
  have hkeys := congrArg List.length hall.keys
  simpa using hkeys

theorem get?_of_forall_ne (hall : AppliedAll s ds outcomes v)
    (hne : ∀ d ∈ ds, key ≠ d.place) : v.get? key = s.get? key := by
  induction hall with
  | nil => rfl
  | cons hsame happlied _ ih =>
      rw [ih fun d hmem => hne d (List.mem_cons_of_mem _ hmem),
        happlied.get?_of_ne (hne _ List.mem_cons_self), get?_of_sameButConflicts hsame]

theorem unlistable (hall : AppliedAll s ds outcomes v) : v.unlistable = s.unlistable := by
  induction hall with
  | nil => rfl
  | cons hsame happlied _ ih =>
      obtain ⟨_, rfl⟩ := hsame.eq
      exact ih.trans happlied.sameFaults.unlistable

theorem omitsEmpty (hall : AppliedAll s ds outcomes v) : v.omitsEmpty = s.omitsEmpty := by
  induction hall with
  | nil => rfl
  | cons hsame happlied _ ih =>
      exact ih.trans (happlied.sameFaults.omitsEmpty.trans hsame.omitsEmpty)

theorem faultless (hall : AppliedAll s ds outcomes v) (hs : s.Faultless) : v.Faultless := by
  induction hall with
  | nil => exact hs
  | cons hsame happlied _ ih => exact ih (happlied.sameFaults.faultless (hsame.faultless hs))

/-- Each object was applied in one step of the run, which found its place as it was
before the run and left it as it is after it. -/
theorem exists_applied (hall : AppliedAll s ds outcomes v) (hs : s.Sound)
    (hds : ∀ d ∈ ds, d.IsBuilt) (hplaces : PlacesDistinct ds) :
    ∀ pair ∈ ds.zip outcomes, ∃ change uid t u,
      pair.2 = ⟨pair.1.key, change, uid⟩ ∧ Applied pair.1 t change uid u ∧ t.Sound ∧
        t.get? pair.1.place = s.get? pair.1.place ∧ t.omitsEmpty = s.omitsEmpty ∧
        v.get? pair.1.place = u.get? pair.1.place := by
  induction hall with
  | nil => simp
  | @cons s t u v d ds change uid outcomes hsame happlied hrest ih =>
      have ht := hs.of_sameButConflicts hsame
      have homits : t.omitsEmpty = s.omitsEmpty := hsame.omitsEmpty
      intro pair hmem
      rcases List.mem_cons.mp hmem with rfl | hzip
      · refine ⟨change, uid, t, u, rfl, happlied, ht, get?_of_sameButConflicts hsame _,
          homits, ?_⟩
        exact hrest.get?_of_forall_ne fun e hmem => List.rel_of_pairwise_cons hplaces hmem
      · have hother : pair.1.place ≠ d.place :=
          (List.rel_of_pairwise_cons hplaces (List.of_mem_zip hzip).1).symm
        have hu := happlied.sound ht (hds d List.mem_cons_self)
        obtain ⟨change', uid', t', u', hpair, hstep, ht', hbefore, homits', hafter⟩ :=
          ih hu (fun e hmem => hds e (List.mem_cons_of_mem _ hmem))
            (List.Pairwise.of_cons hplaces) pair hzip
        refine ⟨change', uid', t', u', hpair, hstep, ht', ?_, ?_, hafter⟩
        · rw [hbefore, happlied.get?_of_ne hother, get?_of_sameButConflicts hsame]
        · rw [homits', happlied.sameFaults.omitsEmpty, homits]

/-- Each outcome holds of the place of its object when all objects are applied. -/
theorem reached (hall : AppliedAll s ds outcomes v) (hs : s.Sound)
    (hds : ∀ d ∈ ds, d.IsBuilt) (hplaces : PlacesDistinct ds) :
    ∀ pair ∈ ds.zip outcomes, Reached pair.1 pair.2 v := by
  intro pair hmem
  obtain ⟨change, uid, t, u, hpair, happlied, -, -, -, hafter⟩ :=
    hall.exists_applied hs hds hplaces pair hmem
  rw [hpair]
  exact happlied.reached.congr hafter

end AppliedAll

/-! ## Runs -/

/-- Recording what becomes of an object always succeeds. -/
theorem run_applyRecorded_cases (hs : s.Placed) (maxAttempts : Nat) (d : Desired)
    (report : ApplyReport) :
    (∃ change uid t u,
      Action.run (applyRecorded Store.cluster maxAttempts d report) s =
        (.ok { report with outcomes := report.outcomes ++ [⟨d.key, change, uid⟩] }, u) ∧
      s.SameButConflicts t ∧ Applied d t change uid u) ∨
    ∃ failure u,
      Action.run (applyRecorded Store.cluster maxAttempts d report) s =
        (.ok {
          outcomes := report.outcomes ++ [⟨d.key, .failed, none⟩]
          failures := report.failures ++ [failure] }, u) ∧
      s.SameButConflicts u := by
  have hkeep : ∀ {t u failure}, s.SameButConflicts t →
      Action.run (applyOne Store.cluster d) t = (.error failure, u) →
      s.SameButConflicts u := by
    intro t u failure hsame hfail
    rcases run_applyOne_cases (hs.of_sameButConflicts hsame) d with
      ⟨_, _, _, hok, -⟩ | ⟨_, _, herror, hafter⟩
    · rw [hok] at hfail
      simp at hfail
    · rw [herror] at hfail
      obtain ⟨-, rfl⟩ := Prod.mk.inj hfail
      exact hsame.trans hafter
  unfold applyRecorded
  rcases hretry : Action.run ((applyOne Store.cluster d).retryOnConflict maxAttempts) s with
    ⟨result, u⟩
  rw [Action.run_bind, Action.run_attempt, hretry]
  obtain ⟨t, hsame, hlast⟩ :=
    Action.last_attempt_of_retryOnConflict hkeep (SameButConflicts.refl s) hretry
  rcases run_applyOne_cases (hs.of_sameButConflicts hsame) d with
    ⟨change, uid, w, hok, happlied⟩ | ⟨failure, w, herror, hafter⟩
  · rw [hok] at hlast
    obtain ⟨rfl, rfl⟩ := Prod.mk.inj hlast
    exact .inl ⟨change, uid, t, w, rfl, hsame, happlied⟩
  · rw [herror] at hlast
    obtain ⟨rfl, rfl⟩ := Prod.mk.inj hlast
    exact .inr ⟨failure.forObject d.key, w, rfl, hsame.trans hafter⟩

/-- What applying the objects of a list does to a store, whether or not each of them
can be applied. -/
inductive AppliedEach : Store → List Desired → List Outcome → List Failure → Store → Prop
  | nil (s : Store) : AppliedEach s [] [] [] s
  | applied {s t u v : Store} {d : Desired} {ds : List Desired} {change : Change}
    {uid : Option String} {outcomes : List Outcome} {failures : List Failure}
    (hsame : s.SameButConflicts t) (happlied : Applied d t change uid u)
    (hrest : AppliedEach u ds outcomes failures v) :
    AppliedEach s (d :: ds) (⟨d.key, change, uid⟩ :: outcomes) failures v
  | failed {s t v : Store} {d : Desired} {ds : List Desired} {outcomes : List Outcome}
    {failures : List Failure} (failure : Failure) (hsame : s.SameButConflicts t)
    (hrest : AppliedEach t ds outcomes failures v) :
    AppliedEach s (d :: ds) (⟨d.key, .failed, none⟩ :: outcomes) (failure :: failures) v

namespace AppliedEach

variable {failures : List Failure}

/-- Where no object failed all were applied. -/
theorem all (heach : AppliedEach s ds outcomes failures v) (hnone : failures = []) :
    AppliedAll s ds outcomes v := by
  induction heach with
  | nil => exact .nil _
  | applied hsame happlied _ ih => exact .cons hsame happlied (ih hnone)
  | failed => simp at hnone

/-- What each step keeps the run keeps, and what each step says of its change holds of
all changes but failures. -/
theorem keeps {P : Store → Prop} {Q : Change → Prop}
    (heach : AppliedEach s ds outcomes failures v)
    (hconflicts : ∀ {t u}, P t → t.SameButConflicts u → P u)
    (hstep : ∀ {d t change uid u}, d ∈ ds → P t → Applied d t change uid u →
      P u ∧ Q change) (hfailed : Q .failed) (hs : P s) :
    P v ∧ ∀ outcome ∈ outcomes, Q outcome.change := by
  induction heach with
  | nil => exact ⟨hs, by simp⟩
  | applied hsame happlied _ ih =>
      obtain ⟨hnext, hchange⟩ := hstep List.mem_cons_self (hconflicts hs hsame) happlied
      obtain ⟨hlast, hchanges⟩ := ih (fun hd => hstep (List.mem_cons_of_mem _ hd)) hnext
      exact ⟨hlast, List.forall_mem_cons.mpr ⟨hchange, hchanges⟩⟩
  | failed _ hsame _ ih =>
      obtain ⟨hlast, hchanges⟩ :=
        ih (fun hd => hstep (List.mem_cons_of_mem _ hd)) (hconflicts hs hsame)
      exact ⟨hlast, List.forall_mem_cons.mpr ⟨hfailed, hchanges⟩⟩

/-- No place is touched but those of the objects. -/
theorem get?_of_forall_ne (heach : AppliedEach s ds outcomes failures v)
    (hne : ∀ d ∈ ds, key ≠ d.place) : v.get? key = s.get? key := by
  refine (heach.keeps (P := fun t => t.get? key = s.get? key) (Q := fun _ => True) ?_ ?_
    trivial rfl).1
  · intro t u ht hsame
    rwa [get?_of_sameButConflicts hsame]
  · intro d t change uid u hd ht happlied
    exact ⟨by rwa [happlied.get?_of_ne (hne d hd)], trivial⟩

end AppliedEach

/-- Applying a list always succeeds, and is a run of steps. -/
theorem run_applyRecorded_each (hs : s.Placed) (maxAttempts : Nat) (report : ApplyReport) :
    ∃ outcomes failures v,
      Action.run (ds.foldlM
        (fun report d => applyRecorded Store.cluster maxAttempts d report) report) s =
          (.ok ⟨report.outcomes ++ outcomes, report.failures ++ failures⟩, v) ∧
      AppliedEach s ds outcomes failures v := by
  induction ds generalizing s report with
  | nil => exact ⟨[], [], s, by simp, .nil s⟩
  | cons d ds ih =>
      rw [List.foldlM_cons]
      rcases run_applyRecorded_cases hs maxAttempts d report with
        ⟨change, uid, t, u, hrun, hsame, happlied⟩ | ⟨failure, u, hrun, hsame⟩
      · rw [Action.run_bind_of_ok hrun]
        have hu : u.Placed := happlied.placed (hs.of_sameButConflicts hsame)
        obtain ⟨outcomes, failures, v, hrest, heach⟩ := ih hu
          { report with outcomes := report.outcomes ++ [⟨d.key, change, uid⟩] }
        refine ⟨_, failures, v, ?_, .applied hsame happlied heach⟩
        rw [hrest, List.append_assoc, List.singleton_append]
      · rw [Action.run_bind_of_ok hrun]
        obtain ⟨outcomes, failures, v, hrest, heach⟩ := ih (hs.of_sameButConflicts hsame)
          ⟨report.outcomes ++ [⟨d.key, .failed, none⟩], report.failures ++ [failure]⟩
        refine ⟨_, _, v, ?_, .failed failure hsame heach⟩
        rw [hrest]
        simp only [List.append_assoc, List.singleton_append]

/-! ## Objects that are absent or settled -/

/-- The place of the object is free in a store without faults, or what stands
there is settled. -/
def Ready (d : Desired) (s : Store) : Prop :=
  s.get? d.place = none ∧ s.Faultless ∨ ∃ live, s.get? d.place = some live ∧ Settled d live

/-- What will become of an object that is ready. -/
def readyChange (s : Store) (d : Desired) : Change :=
  if (s.get? d.place).isSome then .unchanged else .created

theorem run_applyRecorded_of_ready (hready : Ready d s) (maxAttempts : Nat)
    (report : ApplyReport) :
    ∃ uid t,
      Action.run (applyRecorded Store.cluster maxAttempts d report) s =
        (.ok { report with outcomes := report.outcomes ++ [⟨d.key, readyChange s d, uid⟩] },
          t) ∧
      Applied d s (readyChange s d) uid t ∧ ((s.get? d.place).isSome → t = s) := by
  have hone : ∃ uid t,
      Action.run (applyOne Store.cluster d) s = (.ok (readyChange s d, uid), t) ∧
      Applied d s (readyChange s d) uid t ∧ ((s.get? d.place).isSome → t = s) := by
    unfold applyOne readyChange
    rw [Action.run_bind_of_ok (run_get_place d s)]
    rcases hready with ⟨habsent, hfaultless⟩ | ⟨live, hlive, target, hmerge, hsame⟩
    · rw [habsent]
      have hmake := hfaultless.run_guarded d.object.name (Store.created d.kind d.object)
      rw [Store.created_of_none habsent] at hmake
      refine ⟨_, _, Action.run_bind_of_ok hmake, .created habsent, ?_⟩
      intro hsome
      simp at hsome
    · rw [hlive]
      refine ⟨live.metadata.uid, s, ?_, .unchanged hlive hmerge hsame, fun _ => rfl⟩
      simp only [applyOver, hmerge, hsame, if_true]
      rfl
  obtain ⟨uid, t, hrun, happlied, hsame⟩ := hone
  refine ⟨uid, t, ?_, happlied, hsame⟩
  have hretry := Action.run_retryOnConflict_of_ok hrun maxAttempts
  unfold applyRecorded
  rw [Action.run_bind, Action.run_attempt, hretry]
  rfl

/-- Objects that are ready are made or left alone, and nothing else happens. -/
theorem run_applyRecorded_all_of_ready (hplaces : PlacesDistinct ds)
    (hready : ∀ d ∈ ds, Ready d s) (maxAttempts : Nat) (report : ApplyReport) :
    ∃ outcomes v,
      Action.run (ds.foldlM
        (fun report d => applyRecorded Store.cluster maxAttempts d report) report) s =
          (.ok { report with outcomes := report.outcomes ++ outcomes }, v) ∧
      AppliedAll s ds outcomes v ∧ outcomes.map Outcome.change = ds.map (readyChange s) ∧
      ((∀ d ∈ ds, (s.get? d.place).isSome) → v = s) := by
  induction ds generalizing s report with
  | nil => exact ⟨[], s, by simp, .nil s, rfl, fun _ => rfl⟩
  | cons d ds ih =>
      obtain ⟨uid, t, hrun, happlied, hsame⟩ :=
        run_applyRecorded_of_ready (hready d List.mem_cons_self) maxAttempts report
      have hget : ∀ e ∈ ds, t.get? e.place = s.get? e.place := fun e hmem =>
        happlied.get?_of_ne (List.rel_of_pairwise_cons hplaces hmem).symm
      have hreadyTail : ∀ e ∈ ds, Ready e t := by
        intro e hmem
        unfold Ready
        rw [hget e hmem]
        rcases hready e (List.mem_cons_of_mem _ hmem) with ⟨habsent, hfaultless⟩ | hlive
        · exact .inl ⟨habsent, happlied.sameFaults.faultless hfaultless⟩
        · exact .inr hlive
      obtain ⟨outcomes, v, hrest, hall, hchanges, hstays⟩ :=
        ih (List.Pairwise.of_cons hplaces) hreadyTail
          { report with
            outcomes := report.outcomes ++ [⟨d.key, readyChange s d, uid⟩] }
      refine ⟨⟨d.key, readyChange s d, uid⟩ :: outcomes, v, ?_,
        .cons (.refl s) happlied hall, ?_, ?_⟩
      · rw [List.foldlM_cons, Action.run_bind_of_ok hrun, hrest]
        simp
      · rw [List.map_cons, List.map_cons, hchanges]
        congr 1
        apply List.map_congr_left
        intro e hmem
        unfold readyChange
        rw [hget e hmem]
      · intro hpresent
        obtain rfl := hsame (hpresent d List.mem_cons_self)
        exact hstays fun e hmem => hpresent e (List.mem_cons_of_mem _ hmem)

end AgentOperator
