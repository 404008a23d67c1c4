import AgentOperator.Proofs.Reconcile.Attempt
import AgentOperator.Proofs.Store.Versions

/-!
# Attempts beside other clients

Others may do anything to a store between the read and the write of an attempt.  What is
written over a live object bears the version that was read, through every merge, and no
version is given out twice.  So a replacement is made only over the very object that was
read, and where others were at the place in the meantime it fails.
-/

namespace AgentOperator

open Store (Operation ReachableBy IsInjected)
open Store.Operation (Touched performAll)

variable {d : Desired} {s t u : Store} {live object target written : Object} {kind : Kind}
  {ops : List Operation}

/-! ## Replacements -/

/-- A replacement that is made is made over an object of the version that it bears. -/
theorem Store.exists_live_of_replace
    (hrun : Action.run (Store.cluster.replace kind object) s = (.ok written, t)) :
    ∃ live, s.get? (.ofObject kind object) = some live ∧
      live.metadata.resourceVersion = object.metadata.resourceVersion ∧
      t = s.withWritten (.ofObject kind object) (s.nextObject live object) := by
  have hcall : Action.run (Store.cluster.replace kind object) s =
      Store.replaced kind object s ∨ ∃ failure u,
        Action.run (Store.cluster.replace kind object) s = (.error failure, u) ∧
          s.SameButConflicts u :=
    Store.run_guarded object.name (Store.replaced kind object) s
  rcases hcall with hwrite | ⟨failure, u, hfault, -⟩
  · rw [hwrite] at hrun
    cases hlive : s.get? (.ofObject kind object) with
    | none => simp [Store.replaced_of_none hlive] at hrun
    | some live =>
        by_cases hversion : object.metadata.resourceVersion = live.metadata.resourceVersion
        · rw [Store.replaced_of_live hlive hversion] at hrun
          split at hrun
          · simp at hrun
          · exact ⟨live, rfl, hversion.symm, (Prod.mk.inj hrun).2.symm⟩
        · rw [Store.replaced_of_stale hlive fun hsame => hversion hsame.symm] at hrun
          simp at hrun
  · rw [hfault] at hrun
    simp at hrun

/-- A replacement of another version than what is at its place fails and changes nothing
but the conflicts. -/
theorem Store.run_replace_of_stale
    (hstale : ∀ live, s.get? (.ofObject kind object) = some live →
      live.metadata.resourceVersion ≠ object.metadata.resourceVersion) :
    ∃ failure t, Action.run (Store.cluster.replace kind object) s = (.error failure, t) ∧
      s.SameButConflicts t ∧
      (IsInjected failure ∨
        s.get? (.ofObject kind object) = none ∧ failure = Store.fault 404 "NotFound" ∨
        (s.get? (.ofObject kind object)).isSome ∧
          failure = Store.fault 409 "Conflict") := by
  have hcall : Action.run (Store.cluster.replace kind object) s =
      Store.replaced kind object s ∨ ∃ failure t,
        Action.run (Store.cluster.replace kind object) s = (.error failure, t) ∧
          s.SameButConflicts t ∧ IsInjected failure :=
    Store.run_guarded_or_injected object.name (Store.replaced kind object) s
  rcases hcall with hwrite | ⟨failure, t, hfault, hsame, hinjected⟩
  · cases hlive : s.get? (.ofObject kind object) with
    | none =>
        have hgone := Store.replaced_of_none hlive
        exact ⟨_, s, hwrite.trans hgone, .refl s, .inr (.inl ⟨rfl, rfl⟩)⟩
    | some live =>
        have hrefused := Store.replaced_of_stale hlive (hstale live hlive)
        exact ⟨_, s, hwrite.trans hrefused, .refl s, .inr (.inr ⟨rfl, rfl⟩)⟩
  · exact ⟨failure, t, hfault, hsame, .inl hinjected⟩

/-! ## Attempts -/

/-- A store in which others perform operations right after an object is read. -/
def Store.disturbed (ops : List Operation) : Cluster Store :=
  { Store.cluster with
    get := fun kind space name s => (.ok (s.get? (.of kind space name)), performAll ops s) }

theorem run_disturbed_applyOne (d : Desired) (ops : List Operation) (s : Store) :
    Action.run (applyOne (Store.disturbed ops) d) s =
      match s.get? d.place with
      | none =>
        Action.run (Store.cluster.create d.kind d.object >>= fun made =>
          pure (Change.created, made.metadata.uid)) (performAll ops s)
      | some live => Action.run (applyOver Store.cluster d live) (performAll ops s) := by
  have hread : Action.run ((Store.disturbed ops).get d.kind d.namespaceName d.object.name) s =
      (.ok (s.get? d.place), performAll ops s) := rfl
  unfold applyOne
  rw [Action.run_bind_of_ok hread]
  cases s.get? d.place <;> rfl

theorem run_applyOver_of_changed
    (hmerge : mergeImmutable d.kind live d.object = (none, target))
    (hdiffers : isUnchanged live target = false) :
    Action.run (applyOver Store.cluster d live) s =
      Action.run (Store.cluster.replace d.kind (updatedObject live target) >>= fun written =>
        pure (Change.updated, written.metadata.uid)) s := by
  unfold applyOver
  rw [hmerge]
  simp [hdiffers]

theorem exists_target_of_updated {uid : Option String}
    (hrun : Action.run (applyOver Store.cluster d live) s = (.ok (.updated, uid), t)) :
    ∃ target written,
      Action.run (Store.cluster.replace d.kind (updatedObject live target)) s =
        (.ok written, t) := by
  rcases hmerge : mergeImmutable d.kind live d.object with ⟨_ | field, target⟩
  · cases hsame : isUnchanged live target with
    | true =>
        simp [applyOver, hmerge, hsame] at hrun
    | false =>
        rw [run_applyOver_of_changed hmerge hsame] at hrun
        obtain ⟨written, v, hreplace, hrest⟩ := Action.ok_of_run_bind hrun
        obtain ⟨-, rfl⟩ := Prod.mk.inj hrest
        exact ⟨target, written, hreplace⟩
  · unfold applyOver at hrun
    rw [hmerge] at hrun
    obtain ⟨_, _, -, hrest⟩ := Action.ok_of_run_bind hrun
    simp at hrest

/-- Whatever others do between the read and the write of an attempt, nothing of it is
overwritten unread.  If the attempt ends in an update, it wrote over the very object that
it had read, and nobody was at the place in between.  If somebody was, the replacement
fails and leaves the objects as they are. -/
theorem applyOne_overwrites_only_what_it_read
    (hs : s.ReachableBy (fun _ => True) Object.SameVersion) (ops : List Operation)
    (d : Desired) :
    (∀ uid u,
      Action.run (applyOne (Store.disturbed ops) d) s = (.ok (.updated, uid), u) →
      ∃ live target,
        s.get? d.place = some live ∧ (performAll ops s).get? d.place = some live ∧
        ¬ Touched d.place ops s ∧
        u = (performAll ops s).withWritten d.place
          ((performAll ops s).nextObject live (updatedObject live target))) ∧
    ∀ live target, s.get? d.place = some live →
      mergeImmutable d.kind live d.object = (none, target) →
      isUnchanged live target = false → Touched d.place ops s →
      ∃ failure u,
        Action.run (applyOne (Store.disturbed ops) d) s = (.error failure, u) ∧
        u.objects = (performAll ops s).objects ∧
        (IsInjected failure ∨
          (performAll ops s).get? d.place = none ∧ failure = Store.fault 404 "NotFound" ∨
          ((performAll ops s).get? d.place).isSome ∧
            failure = Store.fault 409 "Conflict") := by
  have hplaced : s.Placed := hs.placed fun _ _ hedit => hedit.toSamePlace
  have hversioned := hs.versioned
  constructor
  · intro uid u hrun
    rw [run_disturbed_applyOne] at hrun
    cases hlive : s.get? d.place with
    | none =>
        rw [hlive] at hrun
        obtain ⟨_, _, -, hrest⟩ := Action.ok_of_run_bind hrun
        simp at hrest
    | some live =>
        rw [hlive] at hrun
        obtain ⟨target, written, hreplace⟩ := exists_target_of_updated hrun
        obtain ⟨current, hcurrent, hversion, rfl⟩ := Store.exists_live_of_replace hreplace
        rw [hplaced.place_updatedObject hlive target] at hcurrent ⊢
        have huntouched : ¬ Touched d.place ops s := fun htouched =>
          Store.Operation.resourceVersion_ne_of_touched hversioned hlive htouched hcurrent
            hversion
        obtain rfl : live = current := by
          rw [Store.Operation.get?_performAll_of_not_touched huntouched, hlive] at hcurrent
          exact Option.some.inj hcurrent
        exact ⟨live, target, rfl, hcurrent, huntouched, rfl⟩
  · intro live target hlive hmerge hdiffers htouched
    have hplace := hplaced.place_updatedObject hlive target
    -- What is written keeps the version of the object that was read.
    have hstale : ∀ current,
        (performAll ops s).get? (.ofObject d.kind (updatedObject live target)) =
          some current →
        current.metadata.resourceVersion ≠ live.metadata.resourceVersion := by
      rw [hplace]
      exact fun _ => Store.Operation.resourceVersion_ne_of_touched hversioned hlive htouched
    obtain ⟨failure, u, hreplace, hsame, hcases⟩ := Store.run_replace_of_stale hstale
    refine ⟨failure, u, ?_, ?_, ?_⟩
    · rw [run_disturbed_applyOne, hlive]
      dsimp only
      rw [run_applyOver_of_changed hmerge hdiffers]
      exact Action.run_bind_of_error hreplace
    · obtain ⟨conflicts, rfl⟩ := hsame.eq
      rfl
    · rwa [hplace] at hcases

/-! ## A config map that two clients write -/

def ConfigMap.draft (text : String) : Object :=
  { types := none
    metadata := { name := some "a", namespaceName := some "ns" }
    body := .mkObj [("data", .mkObj [("text", .str text)])] }

def Store.drafted : Store := (Store.seed {} .configMap (ConfigMap.draft "first")).2

/-- The config map as it stands in the store. -/
def ConfigMap.drafted : Object :=
  { ConfigMap.draft "first" with
    metadata := {
      (ConfigMap.draft "first").metadata with
      uid := some "uid-1"
      resourceVersion := some "1" } }

set_option maxRecDepth 100000 in
theorem applyOne_overwrites_only_what_it_read_drafted :
    (∃ uid u,
      Action.run (applyOne (Store.disturbed []) ⟨.configMap, ConfigMap.draft "second"⟩)
        Store.drafted = (.ok (.updated, uid), u) ∧
      ∃ live, Store.drafted.get? ⟨.configMap, "ns", "a"⟩ = some live) ∧
    ∃ failure u,
      Action.run (applyOne (Store.disturbed [.seed .configMap (ConfigMap.draft "third")])
        ⟨.configMap, ConfigMap.draft "second"⟩) Store.drafted = (.error failure, u) := by
  have hreachable : Store.drafted.ReachableBy (fun _ => True) Object.SameVersion :=
    ReachableBy.empty.seed .configMap trivial
  constructor
  · obtain ⟨⟨change, uid⟩, hrun, rfl⟩ := Action.exists_ok_of_map_eq
      (f := Prod.fst) (b := Change.updated)
      (show (Action.run (applyOne (Store.disturbed []) ⟨.configMap, ConfigMap.draft "second"⟩)
        Store.drafted).1.toOption.map Prod.fst = some .updated by decide +kernel)
    obtain ⟨live, _, hlive, -⟩ :=
      (applyOne_overwrites_only_what_it_read hreachable [] _).1 uid _ hrun
    exact ⟨uid, _, hrun, live, hlive⟩
  · have hlive : Store.drafted.get? ⟨.configMap, "ns", "a"⟩ = some ConfigMap.drafted := rfl
    have hdiffers : isUnchanged ConfigMap.drafted (ConfigMap.draft "second") = false := by
      decide +kernel
    obtain ⟨failure, u, hrun, -⟩ :=
      (applyOne_overwrites_only_what_it_read hreachable
        [.seed .configMap (ConfigMap.draft "third")]
        ⟨.configMap, ConfigMap.draft "second"⟩).2 ConfigMap.drafted (ConfigMap.draft "second")
          hlive rfl hdiffers (.inl ⟨rfl, rfl⟩)
    exact ⟨failure, u, hrun⟩

end AgentOperator
