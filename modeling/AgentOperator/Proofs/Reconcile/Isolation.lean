import AgentOperator.Proofs.Reconcile.Collection
import AgentOperator.Proofs.Reconcile.Endings

/-!
# Objects that fail and writes that are repeated

A list of objects is applied to its end whatever becomes of each of them.  An object
among others ends as it would end alone: one that fails leaves the store as it was, and
one that does not touches its own place only, so none of this shows at the place of
another.  Conflicts that are fewer than the attempts show nowhere at all.
-/

namespace AgentOperator

open Store (ReachableBy)

variable {d : Desired} {ds : List Desired} {s t : Store} {owner : OwnerReference}
  {maxAttempts : Nat}

/-! ## Failures -/

def failureAlone (owner : OwnerReference) (maxAttempts : Nat) (s : Store) (d : Desired) :
    Option Failure :=
  match (Action.run ((applyOne Store.cluster (d.ownedBy owner)).retryOnConflict maxAttempts)
    s).1 with
  | .ok _ => none
  | .error failure => some failure

/-- An object of a list ended as it does when it is applied alone to the store that the
list was applied to. -/
structure EndsAsAlone (owner : OwnerReference) (maxAttempts : Nat) (s t : Store) (d : Desired)
    (outcome : Outcome) : Prop where
  key : outcome.key = d.key
  alone : ∃ report u,
    Action.run (applyAll Store.cluster owner maxAttempts [d]) s = (.ok report, u) ∧
    report.outcomes.map Outcome.change = [outcome.change] ∧
    (t.get? d.place).map d.contentOf = (u.get? d.place).map d.contentOf
  failed_iff : outcome.change = .failed ↔ (failureAlone owner maxAttempts s d).isSome
  kept : outcome.change = .failed → t.get? d.place = s.get? d.place

theorem failureAlone_eq (hquiet : ∀ name, s.pending name = 0) (d : Desired) :
    failureAlone owner maxAttempts s d =
      Ending.failure? ((d.ownedBy owner).finish s).1 := by
  have hfew := Store.pending_lt_of_quiet hquiet maxAttempts
  obtain ⟨conflicts, hrun, -⟩ := run_retryOnConflict_applyOne (d.ownedBy owner) hfew
  unfold failureAlone
  rw [hrun]
  cases ((d.ownedBy owner).finish s).1 <;> rfl

theorem Ending.failure?_congr {first second : Ending}
    (hsame : first.map Prod.fst = second.map Prod.fst) : first.failure? = second.failure? := by
  cases first <;> cases second <;> simp_all [Except.map, Ending.failure?]

theorem Desired.outcomeOf_change_congr {first second : Ending}
    (hsame : first.map Prod.fst = second.map Prod.fst) :
    (d.outcomeOf first).change = (d.outcomeOf second).change := by
  cases first <;> cases second <;> simp_all [Except.map, Desired.outcomeOf]

theorem Desired.failed_iff_of_finish (hs : s.Placed) (d e : Desired) :
    (e.outcomeOf (d.finish s).1).change = .failed ↔
      (Ending.failure? (d.finish s).1).isSome = true := by
  rcases d.finish_cases hs with ⟨change, uid, t, hends, happlied⟩ | ⟨failure, hends⟩
  · have hchange : change ≠ .failed := happlied.ne_failed
    simpa [hends, outcomeOf, Ending.failure?] using hchange
  · simp [hends, outcomeOf, Ending.failure?]

theorem endsAsAlone_of_finishAll (hs : s.Placed) (hquiet : ∀ name, s.pending name = 0)
    (hplaces : PlacesDistinct ds) (conflicts : Dict Nat) {ending : Desired × Ending}
    (hmem : ending ∈ (finishAll owner ds s).1) :
    EndsAsAlone owner maxAttempts s ((finishAll owner ds s).2.withConflicts conflicts)
        ending.1 (ending.1.outcomeOf ending.2) ∧
      ending.1.failureOf ending.2 =
        (failureAlone owner maxAttempts s ending.1).map fun failure =>
          failure.forObject ending.1.key := by
  obtain ⟨d, result⟩ := ending
  obtain ⟨t, hagrees, hends, hget⟩ := exists_finish hs hplaces _ hmem
  dsimp only at hagrees hends hget ⊢
  have hfew := Store.pending_lt_of_quiet hquiet maxAttempts
  have hplace : s.AgreesAt (d.ownedBy owner).place t := by
    rwa [d.ownedBy_place]
  obtain ⟨hresult, hcontent⟩ := Desired.finish_congr hs hplace
  rw [← hends] at hresult
  rw [d.ownedBy_place, d.contentOf_ownedBy, ← hget] at hcontent
  have hfailure : failureAlone owner maxAttempts s d = result.failure? := by
    rw [failureAlone_eq hquiet, Ending.failure?_congr hresult]
  have hfailed : (d.outcomeOf result).change = .failed ↔ result.failure?.isSome = true := by
    rw [Desired.outcomeOf_change_congr hresult, Ending.failure?_congr hresult]
    exact Desired.failed_iff_of_finish hs _ d
  -- Alone it is a list of one object, which ends in the store that it started from.
  obtain ⟨_, halone⟩ := run_applyAll_finishAll hfew owner [d]
  refine ⟨⟨?_, ⟨_, _, halone, ?_, hcontent⟩, by rw [hfailure]; exact hfailed, ?_⟩, ?_⟩
  · cases result <;> rfl
  · exact congrArg (fun change => [change]) (Desired.outcomeOf_change_congr hresult.symm)
  · intro hchange
    rw [hfailed, hends] at hchange
    cases hfails : ((d.ownedBy owner).finish t).1 with
    | ok _ => simp [hfails, Ending.failure?] at hchange
    | error failure =>
        rw [(Desired.finish_of_error hfails).1, hagrees.get?] at hget
        exact hget
  · rw [hfailure]
    rfl

/-! ## Isolation -/

/-- Every object of a list ends as it does alone, whatever becomes of the others: its
outcome, what is at its place apart from the address that the server gives, and its
failure are the same.  An object that failed leaves what is at its place, and no other
place is touched. -/
theorem applyAll_isolates (hs : s.ReachableBy (fun _ => True) Object.SamePlace)
    (hquiet : ∀ name, s.pending name = 0) (hplaces : PlacesDistinct ds)
    (owner : OwnerReference) (maxAttempts : Nat) :
    ∃ report t, Action.run (applyAll Store.cluster owner maxAttempts ds) s = (.ok report, t) ∧
      report.outcomes.map Outcome.key = ds.map Desired.key ∧
      (∀ pair ∈ ds.zip report.outcomes,
        EndsAsAlone owner maxAttempts s t pair.1 pair.2) ∧
      (∀ key, (∀ d ∈ ds, key ≠ d.place) → t.get? key = s.get? key) ∧
      report.failures = ds.filterMap fun d =>
        (failureAlone owner maxAttempts s d).map fun failure => failure.forObject d.key := by
  have hplaced : s.Placed := hs.placed fun _ _ hedit => hedit
  have hfew := Store.pending_lt_of_quiet hquiet maxAttempts
  obtain ⟨conflicts, hrun⟩ := run_applyAll_finishAll hfew owner ds
  have hends : ∀ ending ∈ (finishAll owner ds s).1,
      EndsAsAlone owner maxAttempts s ((finishAll owner ds s).2.withConflicts conflicts)
          ending.1 (ending.1.outcomeOf ending.2) ∧
        ending.1.failureOf ending.2 =
          (failureAlone owner maxAttempts s ending.1).map fun failure =>
            failure.forObject ending.1.key :=
    fun _ hmem => endsAsAlone_of_finishAll hplaced hquiet hplaces conflicts hmem
  have hfst := map_fst_finishAll owner ds s
  refine ⟨_, _, hrun, ?_, ?_, ?_, ?_⟩
  · calc
      (reportOf (finishAll owner ds s).1).outcomes.map Outcome.key =
          ((finishAll owner ds s).1.map Prod.fst).map Desired.key := by
        simp only [reportOf, List.map_map]
        exact List.map_congr_left fun ending hmem => (hends ending hmem).1.key
      _ = ds.map Desired.key := by rw [hfst]
  · intro pair hmem
    nth_rewrite 1 [← hfst] at hmem
    rw [reportOf, List.zip_map'] at hmem
    obtain ⟨ending, hending, rfl⟩ := List.mem_map.mp hmem
    exact (hends ending hending).1
  · intro key hne
    exact get?_finishAll_of_forall_ne hplaced hne
  · nth_rewrite 2 [← hfst]
    rw [reportOf, List.filterMap_map]
    exact List.filterMap_congr fun ending hmem => (hends ending hmem).2

theorem Context.placesDistinct_desired (c : Context) (hdistinct : PlacesDistinct c.owned) :
    PlacesDistinct c.desired := by
  unfold PlacesDistinct Context.owned at *
  rw [List.pairwise_map] at hdistinct
  simpa only [Desired.ownedBy_place] using hdistinct

/-- A store that holds the stray config map and takes no write of it. -/
def Store.refusing : Store := (Store.seed {} .configMap ConfigMap.stray).2.failOn "a"

theorem Store.reachableBy_refusing (edits : Object → Object → Prop) :
    Store.refusing.ReachableBy (fun _ => True) edits :=
  (ReachableBy.empty.seed .configMap trivial).failOn "a"

set_option maxRecDepth 100000 in
theorem applyAll_isolates_refused :
    ∃ report t,
      Action.run (applyAll Store.cluster Agent.sidecar.ownerReference 5
        (PassSettings.context {} Agent.sidecar).desired) Store.refusing = (.ok report, t) ∧
      report.outcomes.map Outcome.key =
        ["ConfigMap/ns/a", "ServiceAccount/ns/a", "Service/ns/a-monitoring"] ∧
      report.failures.length = 2 := by
  have hquiet : ∀ name, Store.refusing.pending name = 0 := fun _ => rfl
  have hplaces := Context.placesDistinct_desired _
    (PassSettings.placesDistinct_owned {} Agent.sidecar)
  obtain ⟨report, t, hrun, hkeys, -, -, hfailures⟩ := applyAll_isolates
    (Store.reachableBy_refusing _) hquiet hplaces Agent.sidecar.ownerReference 5
  refine ⟨report, t, hrun, ?_, ?_⟩
  · rw [hkeys]
    decide +kernel
  · rw [hfailures]
    decide +kernel

/-! ## Conflicts -/

end AgentOperator
