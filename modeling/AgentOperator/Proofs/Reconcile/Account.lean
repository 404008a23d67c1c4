import AgentOperator.Proofs.Reconcile.Collection

/-!
# The account of a pass

What a pass reports is counted from the outcomes of its objects, and what it did is
counted by the store.  Each step of a pass adds to both alike: an object that is made,
one that is written over and one that is deleted to make way are one write each, and so
is each orphan that is collected.  No orphan is counted twice and none is counted that
is not there, because orphans are told apart by identities and stand at places of their
own.
-/

namespace AgentOperator

open Store (Arranged ReachableBy SameButConflicts)

variable {settings : PassSettings} {agent : Agent} {d : Desired} {ds : List Desired}
  {s t u v s₁ s₂ : Store} {change : Change} {uid : Option String} {outcomes : List Outcome}
  {report : PassReport} {applied : ApplyReport} {pruned : Nat} {key : StoreKey}
  {object : Object}

/-! ## Counts -/

/-- How many writes a run made, how many objects it added, and how many it deleted. -/
structure Counted (s t : Store) (written made deleted : Nat) : Prop where
  writes : t.writes = s.writes + written
  objects : t.objects.length + deleted = s.objects.length + made
  log : ∃ places, t.deleted = s.deleted ++ places ∧ places.length = deleted
  events : t.events = s.events

namespace Counted

theorem of_deleted_eq {written made : Nat} (hwrites : t.writes = s.writes + written)
    (hobjects : t.objects.length = s.objects.length + made) (hdeleted : t.deleted = s.deleted)
    (hevents : t.events = s.events) : Counted s t written made 0 :=
  ⟨hwrites, hobjects, ⟨[], by rw [hdeleted, List.append_nil], rfl⟩, hevents⟩

theorem refl (s : Store) : Counted s s 0 0 0 := of_deleted_eq rfl rfl rfl rfl

theorem trans {written made deleted written' made' deleted' : Nat}
    (hst : Counted s t written made deleted) (htu : Counted t u written' made' deleted') :
    Counted s u (written + written') (made + made') (deleted + deleted') := by
  obtain ⟨first, hfirst, hfirstLength⟩ := hst.log
  obtain ⟨second, hsecond, hsecondLength⟩ := htu.log
  have hobjects := hst.objects
  have hobjects' := htu.objects
  refine ⟨?_, by omega, ⟨first ++ second, ?_, ?_⟩, htu.events.trans hst.events⟩
  · rw [htu.writes, hst.writes, Nat.add_assoc]
  · rw [hsecond, hfirst, List.append_assoc]
  · rw [List.length_append, hfirstLength, hsecondLength]

theorem of_sameButConflicts (hsame : s.SameButConflicts t) : Counted s t 0 0 0 := by
  obtain ⟨_, rfl⟩ := hsame.eq
  exact of_deleted_eq rfl rfl rfl rfl

end Counted

theorem counted_withDeleted (hs : s.Arranged) (hget : s.get? key = some object) :
    Counted s (s.withDeleted key) 1 0 1 :=
  ⟨rfl, Store.length_of_remove hs.ordered rfl hget, ⟨[key], rfl, rfl⟩, rfl⟩

/-! ## Objects -/

theorem Applied.counted (happlied : Applied d s change uid t) (hs : s.Arranged) :
    Counted s t (if change.isWrite then 1 else 0) (if change == .created then 1 else 0)
      (if change == .immutableConflict then 1 else 0) := by
  cases happlied with
  | created habsent =>
      exact .of_deleted_eq rfl (Store.length_of_put_at_none rfl habsent) rfl rfl
  | deleted hlive => exact counted_withDeleted hs hlive
  | unchanged => exact .refl s
  | updated hlive =>
      exact .of_deleted_eq rfl (Store.length_of_put_at_some hs.ordered rfl hlive) rfl rfl

theorem Applied.arranged (happlied : Applied d s change uid t) (hs : s.Arranged)
    (hnamed : d.object.metadata.name.isSome = true) : t.Arranged := by
  refine ⟨?_, happlied.placed hs.placed, ?_⟩
  · cases happlied with
    | created | updated => exact hs.ordered.putEntry _ _
    | deleted => exact List.Pairwise.filter _ hs.ordered
    | unchanged => exact hs.ordered
  · intro key object hget
    by_cases hkey : key = d.place
    · subst hkey
      cases happlied with
      | created =>
          rw [Store.get?_of_putEntry rfl] at hget
          obtain rfl := Option.some.inj hget
          rw [Store.newObject_metadata]
          exact hnamed
      | deleted =>
          rw [Store.get?_withDeleted_self] at hget
          simp at hget
      | unchanged => exact hs.named hget
      | updated hlive =>
          rw [Store.get?_of_putEntry rfl] at hget
          obtain rfl := Option.some.inj hget
          have hname := hs.named hlive
          rw [Store.nextObject_metadata]
          exact hname
    · rw [happlied.get?_of_ne hkey] at hget
      exact hs.named hget

theorem Store.Arranged.of_sameButConflicts (hs : s.Arranged) (hsame : s.SameButConflicts t) :
    t.Arranged := by
  obtain ⟨_, rfl⟩ := hsame.eq
  exact ⟨hs.ordered, hs.placed, hs.named⟩

namespace AppliedAll

theorem arranged (hall : AppliedAll s ds outcomes v) (hs : s.Arranged)
    (hds : ∀ d ∈ ds, d.IsBuilt) : v.Arranged := by
  induction hall with
  | nil => exact hs
  | cons hsame happlied _ ih =>
      obtain ⟨hd, htail⟩ := List.forall_mem_cons.mp hds
      exact ih (happlied.arranged (hs.of_sameButConflicts hsame) hd.object.named) htail

theorem counted (hall : AppliedAll s ds outcomes v) (hs : s.Arranged)
    (hds : ∀ d ∈ ds, d.IsBuilt) :
    Counted s v (outcomes.countP fun o => o.change.isWrite)
      (outcomes.countP fun o => o.change == .created)
      (outcomes.countP fun o => o.change == .immutableConflict) := by
  induction hall with
  | nil => exact .refl _
  | cons hsame happlied _ ih =>
      obtain ⟨hd, htail⟩ := List.forall_mem_cons.mp hds
      have ht := hs.of_sameButConflicts hsame
      have hrest := ih (happlied.arranged ht hd.object.named) htail
      have hall := (Counted.of_sameButConflicts hsame).trans
        ((happlied.counted ht).trans hrest)
      simpa only [List.countP_cons, Nat.zero_add, Nat.add_comm] using hall

theorem count_failed (hall : AppliedAll s ds outcomes v) :
    outcomes.countP (fun o => o.change == .failed) = 0 := by
  induction hall with
  | nil => rfl
  | cons _ happlied _ ih =>
      rw [List.countP_cons_of_neg, ih]
      simpa using happlied.ne_failed

end AppliedAll

namespace ApplyReport

theorem length_outcomes (r : ApplyReport) :
    r.outcomes.length =
      r.count .created + r.count .updated + r.count .unchanged +
        r.count .immutableConflict + r.count .failed := by
  unfold count
  induction r.outcomes with
  | nil => rfl
  | cons outcome outcomes ih =>
      simp only [List.length_cons, List.countP_cons, ih]
      cases outcome.change <;> simp +arith

theorem writes_eq (r : ApplyReport) :
    r.writes = r.count .created + r.count .updated + r.count .immutableConflict := by
  unfold writes count
  induction r.outcomes with
  | nil => rfl
  | cons outcome outcomes ih =>
      simp only [List.countP_cons, ih]
      cases outcome.change <;> simp +arith [Change.isWrite]

end ApplyReport

/-! ## Orphans -/

/-- Deleting what is there, each object once, counts each deletion. -/
theorem counted_deletedAll (hs : s.Arranged) {keys : List StoreKey} (hnodup : keys.Nodup)
    (hpresent : ∀ key ∈ keys, ∃ object, s.get? key = some object) :
    Counted s (deletedAll s keys) keys.length 0 keys.length := by
  induction keys generalizing s with
  | nil => exact .refl s
  | cons key keys ih =>
      obtain ⟨hnew, hrest⟩ := List.nodup_cons.mp hnodup
      obtain ⟨⟨object, hget⟩, htail⟩ := List.forall_mem_cons.mp hpresent
      have hdelete : (Store.deletedAt key s).2 = s.withDeleted key := by
        rw [Store.deletedAt_of_some hget]
      have hstill : ∀ other ∈ keys, ∃ object, (s.withDeleted key).get? other = some object := by
        intro other hmem
        have hne : other ≠ key := fun heq => hnew (heq ▸ hmem)
        rw [Store.get?_withDeleted_of_ne s hne]
        exact htail other hmem
      have hall := (counted_withDeleted hs hget).trans (ih (hs.withDeleted key) hrest hstill)
      rw [← hdelete, Nat.add_comm] at hall
      exact hall

/-! ## Passes -/

theorem counted_withStatus (agent : Agent) (status : Status) (s : Store) :
    Counted s (withStatus agent status s) (if agent.status = some status then 0 else 1) 0 0 := by
  unfold withStatus
  split
  · exact .refl s
  · exact .of_deleted_eq rfl rfl rfl rfl

def PassReport.events (r : PassReport) : List Event :=
  if 0 < r.created + r.updated + r.recreated + r.pruned then
    [⟨.normal, "Reconciled", r.text⟩]
  else []

theorem withReport_eq (report : PassReport) (s : Store) :
    withReport report s = { s with events := s.events ++ report.events } := by
  unfold withReport PassReport.changedAnything PassReport.changes PassReport.events
  by_cases hchanged : 0 < report.created + report.updated + report.recreated + report.pruned
  · simp [hchanged]
  · simp [hchanged]

/-- The account of a pass that succeeded is exact: each desired object is counted once,
and each write, each object that is there more or less than before, each deletion and the
event are accounted for by the numbers that are reported. -/
theorem reconcile_accounts (hs : s.ReachableBy (fun _ => True) fun _ _ => True)
    (hplaced : s.Placed)
    (hnamed : ∀ key object, s.get? key = some object → object.metadata.name.isSome = true)
    (hrun : Action.run (reconcile Store.cluster settings agent) s = (.ok report, t)) :
    report.created + report.updated + report.unchanged + report.recreated =
        (settings.context agent).desired.length ∧
      t.writes = s.writes + (report.created + report.updated + report.recreated +
        report.pruned + if report.statusPatched then 1 else 0) ∧
      t.objects.length + (report.recreated + report.pruned) =
        s.objects.length + report.created ∧
      (∃ places, t.deleted = s.deleted ++ places ∧
        places.length = report.recreated + report.pruned) ∧
      t.events = s.events ++
        if 0 < report.created + report.updated + report.recreated + report.pruned then
          [⟨.normal, "Reconciled", report.text⟩]
        else [] := by
  obtain ⟨applied, s₁, pruned, s₂, hpassed⟩ := run_reconcile_iff.mp hrun
  have harranged : s.Arranged := ⟨hs.ordered, hplaced, fun hget => hnamed _ _ hget⟩
  have hall := hpassed.appliedAll_of_placed hplaced
  have hds := settings.isBuilt_owned agent
  have hlength : applied.outcomes.length = (settings.context agent).desired.length := by
    rw [hall.length_eq, Context.owned, List.length_map]
  have hfailed : applied.count .failed = 0 := hall.count_failed
  have happlied : Counted s s₁ applied.writes (applied.count .created)
      (applied.count .immutableConflict) := hall.counted harranged hds
  obtain ⟨-, hpruned, hdeleted⟩ := deletedAll_of_run hpassed.collect
  have harranged₁ := hall.arranged harranged hds
  have hcollected : Counted s₁ s₂ pruned 0 pruned := by
    rw [hpruned, hdeleted]
    exact counted_deletedAll harranged₁ (nodup_orphanPlaces harranged₁)
      fun _ hmem => exists_of_mem_orphanPlaces harranged₁ hmem
  have hreported := counted_withStatus agent (statusOn (settings.context agent) s₂) s₂
  have hcounted := (happlied.trans hcollected).trans hreported
  have hsum := applied.length_outcomes
  have hwrites := applied.writes_eq
  have hpatched : (if report.statusPatched then 1 else 0) =
      if agent.status = some (statusOn (settings.context agent) s₂) then 0 else 1 := by
    rw [hpassed.report_eq]
    simp [PassReport.ofApply]
  -- What is reported are the counts of the outcomes.
  have hcreated : report.created = applied.count .created := by rw [hpassed.report_eq]; rfl
  have hupdated : report.updated = applied.count .updated := by rw [hpassed.report_eq]; rfl
  have hunchanged : report.unchanged = applied.count .unchanged := by
    rw [hpassed.report_eq]; rfl
  have hrecreated : report.recreated = applied.count .immutableConflict := by
    rw [hpassed.report_eq]; rfl
  have hprunes : report.pruned = pruned := by rw [hpassed.report_eq]; rfl
  have hobjects := hcounted.objects
  rw [hpassed.store_eq, withReport_eq]
  dsimp only
  refine ⟨by omega, ?_, by omega, ?_, ?_⟩
  · rw [hpatched, hcreated, hupdated, hrecreated, hprunes, ← hwrites]
    exact hcounted.writes
  · rw [hrecreated, hprunes]
    exact hcounted.log
  · exact congrArg (fun events => events ++ report.events) hcounted.events

/-! ## A pass that makes, collects and reports -/

/-- A store that holds an orphan of the sidecar and nothing else. -/
def Store.orphaned : Store := (Store.seed {} .configMap (ConfigMap.leftover "ns")).2

theorem Store.reachableBy_orphaned (edits : Object → Object → Prop) :
    Store.orphaned.ReachableBy (fun _ => True) edits :=
  ReachableBy.empty.seed .configMap trivial

set_option maxRecDepth 100000 in
theorem reconcile_accounts_orphaned :
    ∃ report t,
      Action.run (reconcile Store.cluster {} Agent.sidecar) Store.orphaned = (.ok report, t) ∧
      report.pruned = 1 ∧
      report.created + report.updated + report.unchanged + report.recreated = 3 ∧
      t.objects.length + (report.recreated + report.pruned) = 1 + report.created := by
  obtain ⟨report, hrun, hpruned⟩ := Action.exists_ok_of_map_eq
    (f := PassReport.pruned) (b := 1)
    (show (Action.run (reconcile Store.cluster {} Agent.sidecar)
      Store.orphaned).1.toOption.map PassReport.pruned = some 1 by decide +kernel)
  have hplaced : Store.orphaned.Placed :=
    (Store.reachableBy_orphaned Object.SamePlace).placed fun _ _ hedit => hedit
  have hnamed : ∀ key object, Store.orphaned.get? key = some object →
      object.metadata.name.isSome = true := by
    intro key object hget
    obtain hmem := List.mem_singleton.mp (Store.mem_of_get? hget)
    obtain ⟨-, rfl⟩ := Prod.mk.inj hmem
    rfl
  obtain ⟨hsum, -, hobjects, -, -⟩ :=
    reconcile_accounts (Store.reachableBy_orphaned _) hplaced hnamed hrun
  have hdesired : (PassSettings.context {} Agent.sidecar).desired.length = 3 := by
    decide +kernel
  exact ⟨report, _, hrun, hpruned, hsum.trans hdesired, hobjects⟩

end AgentOperator
