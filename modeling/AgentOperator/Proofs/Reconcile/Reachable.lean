import AgentOperator.Proofs.Reconcile.Aftermath
import AgentOperator.Proofs.Reconcile.Kept

/-!
# Passes and reachable stores

A pass is made of the calls that lead from one reachable store to the next, and
every object that it writes is proper: what is desired is built, and what is
replaced was read from the store.  So a pass leads from reachable stores to
reachable stores, however it ends, and what holds of a pass over any reachable
store holds of each pass in a row.
-/

namespace AgentOperator

open AgentOperator.Action (Keeps)
open Store (Reachable)

variable {d : Desired}

theorem Store.reachable_callsKeep : CallsKeep Reachable Store.cluster where
  get := fun _ _ _ _ hs => hs
  list := by
    intro kind space selector s hs
    show Reachable (if s.unlistable.contains kind then (_, s) else (_, s)).2
    split
    · exact hs
    · exact hs
  delete := fun kind space name _ hs => hs.perform (.delete kind space name) trivial
  patchStatus := fun _ _ _ hs => hs.patchStatus _ _
  publish := fun _ _ _ hs => hs.publish _ _

theorem applyOver_keeps_reachable (hd : d.IsBuilt) {live : Object} (hlive : live.IsProper) :
    Keeps Reachable (applyOver Store.cluster d live) := by
  unfold applyOver
  rcases hmerge : mergeImmutable d.kind live d.object with ⟨conflict, target⟩
  cases conflict with
  | some field =>
      exact (Store.reachable_callsKeep.delete _ _ _).bind fun _ => Action.keeps_pure _
  | none =>
      dsimp only
      by_cases hsame : isUnchanged live target = true
      · rw [if_pos hsame]
        exact Action.keeps_pure _
      · rw [if_neg hsame]
        have htarget := mergeImmutable_isBuilt hlive hd.object hmerge
        have hreplace : Keeps Reachable
            (Store.cluster.replace d.kind (updatedObject live target)) :=
          fun s hs => hs.perform (.replace d.kind (updatedObject live target))
            (updatedObject_isProper hlive htarget)
        exact hreplace.bind fun _ => Action.keeps_pure _

theorem applyOne_keeps_reachable (hd : d.IsBuilt) :
    Keeps Reachable (applyOne Store.cluster d) := by
  intro s hs
  unfold applyOne
  rw [Action.run_bind_of_ok (run_get_place d s)]
  cases hlive : s.get? d.place with
  | none =>
      have hcreate : Keeps Reachable (Store.cluster.create d.kind d.object) :=
        fun s hs => hs.perform (.create d.kind d.object) hd.object.isProper
      exact hcreate.bind (fun _ => Action.keeps_pure _) s hs
  | some live => exact applyOver_keeps_reachable hd (hs.sound.proper hlive) s hs

/-- A pass leads from a reachable store to a reachable store, also if it fails. -/
theorem reconcile_keeps_reachable (settings : PassSettings) (agent : Agent) :
    Keeps Reachable (reconcile Store.cluster settings agent) :=
  Store.reachable_callsKeep.reconcile fun _ hd =>
    applyOne_keeps_reachable (settings.isBuilt_owned agent _ hd)

end AgentOperator
