import AgentOperator.Proofs.Reconcile.Aftermath

/-!
# What a pass does however it ends

A pass that fails has done a part of what it was to do.  Whatever its outcome, it
changes the objects of a store in two ways only: it applies the desired ones, and if
each of them was applied it deletes some of the orphans.
-/

namespace AgentOperator

open AgentOperator.Action (Keeps)

variable {settings : PassSettings} {agent : Agent} {s t : Store} {key : StoreKey}
  {object : Object} {reconciled : List String}

/-! ## Collecting -/

/-- Nothing happened at the place, or the orphan that stood there was deleted. -/
def SweptAt (agent : Agent) (reconciled : List String) (s t : Store) (key : StoreKey) : Prop :=
  t.get? key = s.get? key ∨
    t.get? key = none ∧ ∃ object, s.get? key = some object ∧
      IsOrphan agent reconciled key object

theorem pruneOne_swept (hs : s.Sound) {o : Owned}
    (ho : o ∈ (OwnedIndex.ofOwned (allOwned s agent)).orphans reconciled)
    (done : Nat × List Failure) (key : StoreKey) :
    Keeps (fun t => SweptAt agent reconciled s t key)
      (pruneOne Store.cluster done o) := by
  obtain ⟨place, hget, hkind, horphan⟩ := (OwnedIndex.mem_orphans hs).mp ho
  have hplace := Owned.place_eq hs.arranged hget hkind
  have hdelete : Keeps (fun t => SweptAt agent reconciled s t key)
      (Store.guarded o.object.metadata.anyName (Store.deletedAt o.place)) := by
    intro t ht
    rcases Store.run_guarded o.object.metadata.anyName (Store.deletedAt o.place) t with
      hrun | ⟨failure, u, hrun, hsame⟩
    · rw [hrun, hplace]
      by_cases hkey : key = place
      · subst hkey
        exact .inr ⟨get?_deletedAt_self t key, o.object, hget, horphan⟩
      · unfold SweptAt
        rwa [get?_deletedAt_of_ne t hkey]
    · rw [hrun]
      unfold SweptAt
      rwa [get?_of_sameButConflicts hsame]
  refine hdelete.attempt.bind fun result => ?_
  cases result with
  | ok _ => exact Action.keeps_pure _
  | error failure => exact Action.keeps_pure _

/-- A collection deletes nothing but orphans, also if it fails. -/
theorem collectGarbage_swept (hs : s.Sound) (agent : Agent) (reconciled : List String)
    (key : StoreKey) :
    SweptAt agent reconciled s
      (Action.run (collectGarbage Store.cluster agent reconciled) s).2 key := by
  unfold collectGarbage
  rcases run_listOwned s agent with ⟨-, hlist⟩ | ⟨-, failure, hfail⟩
  · rw [Action.run_bind_of_ok hlist]
    refine Keeps.bind (P := fun t => SweptAt agent reconciled s t key)
      (Keeps.foldlM (fun done o ho => pruneOne_swept hs ho done key) _)
      (fun done => ?_) s (.inl rfl)
    exact (Action.keeps_mk_pure _).bind fun _ => Action.keeps_pure _
  · rw [Action.run_bind_of_error hfail]
    exact .inl rfl

/-! ## Passes -/

theorem get?_failWith {α : Type} (agent : Agent) (reason message : String)
    (failure : Failure) (s : Store) (key : StoreKey) :
    (Action.run (failWith Store.cluster agent reason message failure : Action Store α)
      s).2.get? key = s.get? key := rfl

theorem prunePhase_swept (hs : s.Sound) (agent : Agent) (applied : ApplyReport)
    (key : StoreKey) :
    SweptAt agent applied.reconciled s
      (Action.run (prunePhase Store.cluster agent applied) s).2 key := by
  have hswept := collectGarbage_swept hs agent applied.reconciled key
  unfold prunePhase
  rw [Action.run_bind, Action.run_attempt]
  cases (Action.run (collectGarbage Store.cluster agent applied.reconciled) s).1 with
  | ok pruned => exact hswept
  | error failure =>
      unfold SweptAt
      rwa [get?_failWith]

theorem get?_reportPhase (c : Context) (agent : Agent) (applied : ApplyReport) (pruned : Nat)
    (s : Store) (key : StoreKey) :
    (Action.run (reportPhase c agent applied pruned) s).2.get? key = s.get? key := by
  rw [run_reportPhase]
  exact get?_withReport _ _ _ _

/-- A pass of an agent with a valid spec applies the desired objects and deletes some of
the orphans, if each desired object was applied. -/
theorem run_reconcile_swept_of_valid (settings : PassSettings)
    (hvalid : agent.spec.isValid = true) (hs : s.Sound) :
    ∃ applied s₁,
      Action.run (applyAll Store.cluster agent.ownerReference settings.maxAttempts
        (settings.context agent).desired) s = (.ok applied, s₁) ∧
      AppliedEach s (settings.context agent).owned applied.outcomes applied.failures s₁ ∧
      ∀ key, (Action.run (reconcile Store.cluster settings agent) s).2.get? key =
          s₁.get? key ∨
        applied.failures = [] ∧ SweptAt agent applied.reconciled s₁
          (Action.run (reconcile Store.cluster settings agent) s).2 key := by
  obtain ⟨applied, s₁, hrun, heach⟩ := settings.run_applyAll_each agent hs.arranged.placed
  refine ⟨applied, s₁, hrun, heach, fun key => ?_⟩
  rw [reconcile_eq settings agent hvalid]
  cases hgather : Failure.gather applied.failures with
  | error failure =>
      have hphase := run_applyPhase_of_error (c := settings.context agent) hrun hgather
      left
      rw [Action.run_bind, hphase]
      exact get?_failWith (α := ApplyReport) agent _ _ failure s₁ key
  | ok _ =>
      have hnone := Failure.gather_eq_ok_iff.mp hgather
      have hphase := run_applyPhase_of_ok (c := settings.context agent) hrun hnone
      have hs₁ := (heach.all hnone).sound hs (settings.isBuilt_owned agent)
      have hswept := prunePhase_swept hs₁ agent applied key
      right
      refine ⟨hnone, ?_⟩
      rw [Action.run_bind_of_ok hphase, Action.run_bind]
      rcases hprune : Action.run (prunePhase Store.cluster agent applied) s₁ with
        ⟨result, s₂⟩
      rw [hprune] at hswept
      cases result with
      | error failure => exact hswept
      | ok pruned =>
          unfold SweptAt
          rwa [get?_reportPhase]

/-- A pass changes no object, or it applies the desired objects and deletes some of the
orphans, if each desired object was applied. -/
theorem run_reconcile_swept (settings : PassSettings) (agent : Agent) (hs : s.Sound) :
    (∀ key, (Action.run (reconcile Store.cluster settings agent) s).2.get? key = s.get? key) ∨
      ∃ applied s₁,
        Action.run (applyAll Store.cluster agent.ownerReference settings.maxAttempts
          (settings.context agent).desired) s = (.ok applied, s₁) ∧
        AppliedEach s (settings.context agent).owned applied.outcomes applied.failures s₁ ∧
        ∀ key, (Action.run (reconcile Store.cluster settings agent) s).2.get? key =
            s₁.get? key ∨
          applied.failures = [] ∧ SweptAt agent applied.reconciled s₁
            (Action.run (reconcile Store.cluster settings agent) s).2 key := by
  cases hvalid : agent.spec.isValid with
  | false =>
      obtain ⟨message, hreconcile⟩ := reconcile_of_invalid settings agent hvalid
      rw [hreconcile]
      exact .inl fun key => get?_failWith _ _ _ _ s key
  | true => exact .inr (run_reconcile_swept_of_valid settings hvalid hs)

end AgentOperator
