import AgentOperator.Proofs.Reconcile.Collection

/-!
# Sweeps in which deletions fail

A sweep goes over the orphans of an index in the order of their identities.  Where a
name is refused, the deletion leaves the store as it is and is recorded; everywhere else
the orphan is deleted.  So however many deletions fail, and wherever among the others,
the sweep leaves exactly the orphans whose names are refused, and answers with exactly
their failures.
-/

namespace AgentOperator

open Store (Arranged SameFaults)

variable {agent : Agent} {s t u : Store} {index : OwnedIndex}

/-- Whether a store refuses to delete an owned object. -/
def Store.refuses (s : Store) (o : Owned) : Bool :=
  s.failing.contains o.object.metadata.anyName

/-- What a refused deletion is recorded as. -/
def Owned.refusal (o : Owned) : Failure :=
  .object o.key (Store.fault 500 "InternalError")

/-! ## One deletion -/

theorem run_pruneOne_of_refuses (o : Owned) (hrefuses : s.refuses o = true)
    (done : Nat × List Failure) :
    Action.run (pruneOne Store.cluster done o) s = (.ok (done.1, done.2 ++ [o.refusal]), s) := by
  have hdelete : Action.run (Store.cluster.delete o.kind o.object.metadata.namespaceName
      o.object.metadata.anyName) s = (.error (Store.fault 500 "InternalError"), s) :=
    Store.run_guarded_of_fault (Store.inject_of_failing hrefuses) _
  unfold pruneOne
  simp only [Action.run_bind, Action.run_attempt, hdelete]
  rfl

theorem run_pruneOne_of_not_refuses (hquiet : ∀ name, s.pending name = 0) (o : Owned)
    (hrefuses : s.refuses o = false) (done : Nat × List Failure) :
    Action.run (pruneOne Store.cluster done o) s =
      (.ok (done.1 + 1, done.2), (Store.deletedAt o.place s).2) := by
  have hdelete : Action.run (Store.cluster.delete o.kind o.object.metadata.namespaceName
      o.object.metadata.anyName) s = Store.deletedAt o.place s :=
    Store.run_guarded_of_none (Store.inject_of_pending_eq_zero hrefuses (hquiet _)) _
  unfold pruneOne
  simp only [Action.run_bind, Action.run_attempt, hdelete, fst_deletedAt]
  rfl

theorem Store.SameFaults.refuses (hsame : s.SameFaults t) : t.refuses = s.refuses := by
  funext o
  unfold Store.refuses
  rw [hsame.failing]

theorem Store.SameFaults.pending (hsame : s.SameFaults t) (name : String) :
    t.pending name = s.pending name := by
  unfold Store.pending
  rw [hsame.conflicts]

/-! ## The whole sweep -/

/-- A run over some objects deletes those that are not refused and records the others,
in order. -/
theorem run_foldlM_pruneOne (hquiet : ∀ name, s.pending name = 0) (os : List Owned)
    (done : Nat × List Failure) :
    Action.run (os.foldlM (pruneOne Store.cluster) done) s =
      (.ok (done.1 + (os.filter fun o => !s.refuses o).length,
          done.2 ++ (os.filter s.refuses).map Owned.refusal),
        deletedAll s ((os.filter fun o => !s.refuses o).map Owned.place)) := by
  induction os generalizing s done with
  | nil => simp [deletedAll]
  | cons o os ih =>
      rw [List.foldlM_cons]
      cases hrefuses : s.refuses o with
      | true =>
          rw [Action.run_bind_of_ok (run_pruneOne_of_refuses o hrefuses done), ih hquiet]
          simp [hrefuses]
      | false =>
          have hsame := Store.sameFaults_deletedAt s o.place
          have hrest := ih (fun name => (hsame.pending name).trans (hquiet name))
            (done.1 + 1, done.2)
          rw [hsame.refuses] at hrest
          rw [Action.run_bind_of_ok (run_pruneOne_of_not_refuses hquiet o hrefuses done), hrest]
          simp [hrefuses, deletedAll, Nat.add_assoc, Nat.add_comm 1]

theorem run_pruneOrphans (hquiet : ∀ name, s.pending name = 0) (index : OwnedIndex)
    (reconciled : List String) :
    let orphans := index.orphans reconciled
    Action.run (pruneOrphans Store.cluster index reconciled) s =
      ((Failure.gather ((orphans.filter s.refuses).map Owned.refusal)).map fun _ =>
          (orphans.filter fun o => !s.refuses o).length,
        deletedAll s ((orphans.filter fun o => !s.refuses o).map Owned.place)) := by
  intro orphans
  have hrun := run_foldlM_pruneOne hquiet orphans (0, [])
  unfold pruneOrphans
  rw [Action.run_bind_of_ok hrun]
  simp only [List.nil_append, Nat.zero_add, Action.run_bind, Action.run_mk_pure]
  cases Failure.gather ((orphans.filter s.refuses).map Owned.refusal) <;> rfl

/-- Objects at one place have one name, and are refused alike. -/
theorem Store.refuses_of_place_eq {o o' : Owned} (hplace : o.place = o'.place) :
    s.refuses o = s.refuses o' := by
  have hname : o.object.metadata.anyName = o'.object.metadata.anyName :=
    congrArg StoreKey.name hplace
  unfold Store.refuses
  rw [hname]

theorem get?_swept_of_mem {os : List Owned} {o : Owned} (hmem : o ∈ os) :
    (deletedAll s ((os.filter fun o => !s.refuses o).map Owned.place)).get? o.place =
      if s.refuses o then s.get? o.place else none := by
  cases hrefuses : s.refuses o with
  | true =>
      rw [if_pos rfl]
      apply get?_deletedAll_of_notMem
      intro hdeleted
      obtain ⟨o', ho', hplace⟩ := List.mem_map.mp hdeleted
      have hkept : s.refuses o' = false := by simpa using (List.mem_filter.mp ho').2
      rw [Store.refuses_of_place_eq hplace, hrefuses] at hkept
      simp at hkept
  | false =>
      have hdeleted : o ∈ os.filter fun o => !s.refuses o :=
        List.mem_filter.mpr ⟨hmem, by rw [hrefuses]; rfl⟩
      rw [if_neg (by simp)]
      exact get?_deletedAll_of_mem (List.mem_map_of_mem hdeleted)

theorem get?_swept_of_forall_ne {os : List Owned} {key : StoreKey}
    (hne : ∀ o ∈ os, key ≠ o.place) :
    (deletedAll s ((os.filter fun o => !s.refuses o).map Owned.place)).get? key =
      s.get? key := by
  apply get?_deletedAll_of_notMem
  intro hdeleted
  obtain ⟨o, ho, hplace⟩ := List.mem_map.mp hdeleted
  exact hne o (List.mem_filter.mp ho).1 hplace.symm

theorem Failure.gather_of_two_le {failures : List Failure} (htwo : 2 ≤ failures.length) :
    Failure.gather failures = .error (.batch failures) := by
  match failures with
  | [] => simp at htwo
  | [_] => simp at htwo
  | _ :: _ :: _ => rfl

/-- Where conflicts do not come up, a sweep deletes each orphan of its index, save those
whose names are refused, and leaves all else as it was.  It counts the orphans where none
is refused, and fails with what was refused elsewhere, in the order of the identities. -/
theorem pruneOrphans_sweeps (hs : s.ReachableBy (fun _ => True) Object.SamePlace)
    (hnamed : ∀ key object, s.get? key = some object → object.metadata.name.isSome = true)
    (hquiet : ∀ name, s.pending name = 0)
    (hlist : Action.run (listOwned Store.cluster agent) s = (.ok index, u))
    (reconciled : List String) :
    let orphans := index.entries.filter fun entry => !reconciled.contains entry.1
    let refused := orphans.filter fun entry => s.refuses entry.2
    ∃ result t,
      Action.run (pruneOrphans Store.cluster index reconciled) u = (result, t) ∧
      (∀ entry ∈ orphans, entry.2.object.metadata.uid = some entry.1 ∧
        s.get? entry.2.place = some entry.2.object ∧
        t.get? entry.2.place = if s.refuses entry.2 then some entry.2.object else none) ∧
      (∀ key, (∀ entry ∈ orphans, key ≠ entry.2.place) → t.get? key = s.get? key) ∧
      (refused = [] → result = .ok orphans.length) ∧
      (∀ entry, refused = [entry] → result = .error entry.2.refusal) ∧
      (2 ≤ refused.length →
        result = .error (.batch (refused.map fun entry => entry.2.refusal))) ∧
      Keyed.Ordered refused := by
  intro orphans refused
  have harranged : s.Arranged :=
    ⟨hs.ordered, hs.placed fun _ _ hedit => hedit, fun hget => hnamed _ _ hget⟩
  obtain ⟨rfl, rfl⟩ := eq_of_run_listOwned hlist
  have horphans : (OwnedIndex.ofOwned (allOwned u agent)).orphans reconciled =
      orphans.map Prod.snd := rfl
  have hrefused : ((orphans.map Prod.snd).filter u.refuses).map Owned.refusal =
      refused.map fun entry => entry.2.refusal := by
    rw [List.filter_map, List.map_map]
    rfl
  have hrun := run_pruneOrphans hquiet (.ofOwned (allOwned u agent)) reconciled
  simp only [horphans, hrefused] at hrun
  refine ⟨_, _, hrun, ?_, ?_, ?_, ?_, ?_, ?_⟩
  · intro entry hentry
    obtain ⟨howned, huid⟩ := OwnedIndex.of_mem_entries (List.mem_filter.mp hentry).1
    have hget := get?_place_of_mem_allOwned harranged howned
    refine ⟨huid, hget, ?_⟩
    rw [get?_swept_of_mem (List.mem_map_of_mem hentry), hget]
  · intro key hne
    apply get?_swept_of_forall_ne
    intro o ho
    obtain ⟨entry, hentry, rfl⟩ := List.mem_map.mp ho
    exact hne entry hentry
  · intro hnone
    have hall : (orphans.map Prod.snd).filter (fun o => !u.refuses o) =
        orphans.map Prod.snd := by
      refine List.filter_eq_self.mpr fun o ho => ?_
      obtain ⟨entry, hentry, rfl⟩ := List.mem_map.mp ho
      simpa using List.filter_eq_nil_iff.mp hnone entry hentry
    rw [hnone, hall, List.length_map]
    rfl
  · intro entry hone
    rw [hone]
    rfl
  · intro htwo
    rw [Failure.gather_of_two_le (by simpa using htwo)]
    rfl
  · exact ((Dict.ordered _).filter _).filter _

/-! ## A sweep in which two of three deletions fail -/

/-- A config map with the labels of the sidecar that is not desired, of any name. -/
def ConfigMap.abandoned (name : String) : Object :=
  (ConfigMap.leftover "ns").withMetadata
    { (ConfigMap.leftover "ns").metadata with name := some name }

/-- A store of three orphans of the sidecar, the first and the last of which it refuses
to delete. -/
def Store.obstructed : Store :=
  let first := (Store.seed {} .configMap (ConfigMap.abandoned "x")).2
  let second := (first.seed .configMap (ConfigMap.abandoned "y")).2
  let third := (second.seed .configMap (ConfigMap.abandoned "z")).2
  (third.failOn "x").failOn "z"

theorem Store.reachableBy_obstructed (edits : Object → Object → Prop) :
    Store.obstructed.ReachableBy (fun _ => True) edits :=
  (((ReachableBy.empty.seed .configMap trivial).seed .configMap trivial).seed .configMap
    trivial).failOn "x" |>.failOn "z"

/-- What the sidecar owns in that store, in the order of the identities. -/
def OwnedIndex.obstructed : OwnedIndex := .ofOwned (allOwned Store.obstructed Agent.sidecar)

set_option maxRecDepth 100000 in
theorem pruneOrphans_sweeps_obstructed :
    ∃ result t,
      Action.run (listOwned Store.cluster Agent.sidecar) Store.obstructed =
        (.ok .obstructed, Store.obstructed) ∧
      Action.run (pruneOrphans Store.cluster .obstructed []) Store.obstructed = (result, t) ∧
      t.get? ⟨.configMap, "ns", "x"⟩ = Store.obstructed.get? ⟨.configMap, "ns", "x"⟩ ∧
      t.get? ⟨.configMap, "ns", "y"⟩ = none ∧
      result = .error (.batch [
        .object "ConfigMap/ns/x" (Store.fault 500 "InternalError"),
        .object "ConfigMap/ns/z" (Store.fault 500 "InternalError")]) := by
  have hlist : Action.run (listOwned Store.cluster Agent.sidecar) Store.obstructed =
      (.ok .obstructed, Store.obstructed) :=
    run_listOwned_of_listable (fun _ _ => rfl) Agent.sidecar
  have hnamed : ∀ key object, Store.obstructed.get? key = some object →
      object.metadata.name.isSome = true := by
    intro key object hget
    have hall : ∀ entry ∈ Store.obstructed.objects,
        entry.2.metadata.name.isSome = true := by decide +kernel
    exact hall _ (Store.mem_of_get? hget)
  obtain ⟨result, t, hrun, hswept, -, -, -, hbatch, -⟩ :=
    pruneOrphans_sweeps (Store.reachableBy_obstructed _) hnamed (fun _ => rfl) hlist []
  let orphans := OwnedIndex.obstructed.entries.filter
    fun entry => !([] : List String).contains entry.1
  have horphans : orphans.map (fun entry => (entry.2.place, Store.obstructed.refuses entry.2)) =
      [(⟨.configMap, "ns", "x"⟩, true), (⟨.configMap, "ns", "y"⟩, false),
        (⟨.configMap, "ns", "z"⟩, true)] := by
    decide +kernel
  have hat : ∀ key refuses, (key, refuses) ∈ orphans.map
      (fun entry => (entry.2.place, Store.obstructed.refuses entry.2)) →
      t.get? key = if refuses then Store.obstructed.get? key else none := by
    intro key refuses hmem
    obtain ⟨entry, hentry, heq⟩ := List.mem_map.mp hmem
    obtain ⟨rfl, rfl⟩ := Prod.mk.inj heq
    obtain ⟨-, hget, hleft⟩ := hswept entry hentry
    rw [hleft, hget]
  rw [horphans] at hat
  have hkeys : (orphans.filter fun entry => Store.obstructed.refuses entry.2).map
      (fun entry => entry.2.key) = ["ConfigMap/ns/x", "ConfigMap/ns/z"] := by
    decide +kernel
  have hrefusals : (orphans.filter fun entry => Store.obstructed.refuses entry.2).map
      (fun entry => entry.2.refusal) =
        ["ConfigMap/ns/x", "ConfigMap/ns/z"].map fun key =>
          .object key (Store.fault 500 "InternalError") := by
    rw [← hkeys, List.map_map]
    rfl
  refine ⟨result, t, hlist, hrun, ?_, ?_, ?_⟩
  · exact hat ⟨.configMap, "ns", "x"⟩ true (by simp)
  · exact hat ⟨.configMap, "ns", "y"⟩ false (by simp)
  · rw [hbatch (by decide +kernel)]
    exact congrArg (fun failures => Except.error (Failure.batch failures)) hrefusals

end AgentOperator
