import AgentOperator.Retry

/-!
# Running computations

How a computation that may fail and may change a state runs: one equation for
each way of putting computations together, and the two facts about repeated
attempts.  A predicate on states that every failing attempt keeps holds where
the last attempt starts, and an attempt that succeeds at once is the only one.
What the parts of a computation keep, whether they succeed or fail, the whole
keeps.
-/

namespace AgentOperator.Action

variable {σ α β γ : Type}

@[simp] theorem run_pure (a : α) (s : σ) :
    Action.run (pure a : Action σ α) s = (.ok a, s) := rfl

@[simp] theorem run_throw (failure : Failure) (s : σ) :
    Action.run (throw failure : Action σ α) s = (.error failure, s) := rfl

@[simp] theorem run_mk_pure (result : Except Failure α) (s : σ) :
    Action.run (ExceptT.mk (pure result) : Action σ α) s = (result, s) := rfl

theorem run_bind (m : Action σ α) (k : α → Action σ β) (s : σ) :
    Action.run (m >>= k) s =
      match Action.run m s with
      | (.ok a, t) => Action.run (k a) t
      | (.error failure, t) => (.error failure, t) := by
  show (ExceptT.bindCont k (m s).1 : StateM σ _) (m s).2 = _
  unfold Action.run ExceptT.run StateT.run
  rcases m s with ⟨result, t⟩
  cases result with
  | ok a => rfl
  | error failure => rfl

theorem run_bind_of_ok {m : Action σ α} {k : α → Action σ β} {s t : σ} {a : α}
    (hm : Action.run m s = (.ok a, t)) :
    Action.run (m >>= k) s = Action.run (k a) t := by
  rw [run_bind, hm]

theorem run_bind_of_error {m : Action σ α} {k : α → Action σ β} {s t : σ}
    {failure : Failure} (hm : Action.run m s = (.error failure, t)) :
    Action.run (m >>= k) s = (.error failure, t) := by
  rw [run_bind, hm]

/-- A sequence that succeeds succeeds in both of its parts. -/
theorem ok_of_run_bind {m : Action σ α} {k : α → Action σ β} {s u : σ} {b : β}
    (hrun : Action.run (m >>= k) s = (.ok b, u)) :
    ∃ a t, Action.run m s = (.ok a, t) ∧ Action.run (k a) t = (.ok b, u) := by
  rw [run_bind] at hrun
  rcases hm : Action.run m s with ⟨result, t⟩
  rw [hm] at hrun
  cases result with
  | ok a => exact ⟨a, t, rfl, hrun⟩
  | error failure => simp at hrun

/-- A sequence whose second part cannot fail fails in its first part. -/
theorem error_of_run_bind {m : Action σ α} {f : α → β} {s : σ} {failure : Failure}
    (hfails : (Action.run (m >>= fun a => pure (f a)) s).1 = .error failure) :
    (Action.run m s).1 = .error failure := by
  rw [run_bind] at hfails
  rcases hm : Action.run m s with ⟨result, t⟩
  rw [hm] at hfails
  cases result with
  | ok a => simp at hfails
  | error other =>
      obtain rfl := Except.error.inj hfails
      rfl

/-- A computation is seen to succeed by what is made of its value. -/
theorem exists_ok_of_map_eq {m : Action σ α} {s : σ} {f : α → β} {b : β}
    (hresult : (Action.run m s).1.toOption.map f = some b) :
    ∃ a, Action.run m s = (.ok a, (Action.run m s).2) ∧ f a = b := by
  rcases hm : Action.run m s with ⟨result, t⟩
  rw [hm] at hresult
  cases result with
  | ok a => exact ⟨a, rfl, Option.some.inj hresult⟩
  | error failure => simp [Except.toOption] at hresult

@[simp] theorem run_attempt (m : Action σ α) (s : σ) :
    Action.run m.attempt s = (.ok (Action.run m s).1, (Action.run m s).2) := rfl

/-! ## Repeated attempts -/

theorem run_retryMore_succ (operation : Action σ α) (more : Nat) (s : σ) :
    Action.run (operation.retryMore (more + 1)) s =
      match Action.run operation s with
      | (.ok value, state) => (.ok value, state)
      | (.error failure, state) =>
        if failure.isConflict then Action.run (operation.retryMore more) state
        else (.error failure, state) := rfl

/-- An attempt that does not end in a conflict is the only one. -/
theorem run_retryMore_of_final {operation : Action σ α} {s t : σ} {result : Except Failure α}
    (hrun : Action.run operation s = (result, t))
    (hfinal : ∀ failure, result = .error failure → failure.isConflict = false) (more : Nat) :
    Action.run (operation.retryMore more) s = (result, t) := by
  cases more with
  | zero => exact hrun
  | succ more =>
      rw [run_retryMore_succ, hrun]
      cases result with
      | ok a => rfl
      | error failure => simp [hfinal failure rfl]

theorem run_retryMore_of_ok {operation : Action σ α} {s t : σ} {a : α}
    (hrun : Action.run operation s = (.ok a, t)) (more : Nat) :
    Action.run (operation.retryMore more) s = (.ok a, t) :=
  run_retryMore_of_final hrun (fun _ hfails => by simp at hfails) more

theorem run_retryOnConflict_of_ok {operation : Action σ α} {s t : σ} {a : α}
    (hrun : Action.run operation s = (.ok a, t)) (maxAttempts : Nat) :
    Action.run (operation.retryOnConflict maxAttempts) s = (.ok a, t) :=
  run_retryMore_of_ok hrun _

/-- What failing attempts keep holds where the last attempt starts, and the
last attempt gives the result. -/
theorem last_attempt_of_retryMore {operation : Action σ α} {P : σ → Prop}
    (hkeep : ∀ {s t failure}, P s →
      Action.run operation s = (.error failure, t) → P t)
    {more : Nat} {s u : σ} {result : Except Failure α} (hs : P s)
    (hrun : Action.run (operation.retryMore more) s = (result, u)) :
    ∃ t, P t ∧ Action.run operation t = (result, u) := by
  induction more generalizing s with
  | zero => exact ⟨s, hs, hrun⟩
  | succ more ih =>
      rw [run_retryMore_succ] at hrun
      rcases hfirst : Action.run operation s with ⟨first, t⟩
      rw [hfirst] at hrun
      cases first with
      | ok a => exact ⟨s, hs, hfirst.trans hrun⟩
      | error failure =>
          simp only at hrun
          split at hrun
          · exact ih (hkeep hs hfirst) hrun
          · exact ⟨s, hs, hfirst.trans hrun⟩

theorem last_attempt_of_retryOnConflict {operation : Action σ α} {P : σ → Prop}
    (hkeep : ∀ {s t failure}, P s →
      Action.run operation s = (.error failure, t) → P t)
    {maxAttempts : Nat} {s u : σ} {result : Except Failure α} (hs : P s)
    (hrun : Action.run (operation.retryOnConflict maxAttempts) s = (result, u)) :
    ∃ t, P t ∧ Action.run operation t = (result, u) :=
  last_attempt_of_retryMore hkeep hs hrun

/-! ## What a computation keeps -/

/-- A predicate that holds after a computation wherever it holds before, also if
the computation fails. -/
def Keeps (P : σ → Prop) (m : Action σ α) : Prop := ∀ s, P s → P (Action.run m s).2

variable {P : σ → Prop}

theorem keeps_pure (a : α) : Keeps P (pure a : Action σ α) := fun _ hs => hs

theorem keeps_throw (failure : Failure) : Keeps P (throw failure : Action σ α) :=
  fun _ hs => hs

theorem keeps_mk_pure (result : Except Failure α) :
    Keeps P (ExceptT.mk (pure result) : Action σ α) := fun _ hs => hs

theorem Keeps.bind {m : Action σ α} {k : α → Action σ β} (hm : Keeps P m)
    (hk : ∀ a, Keeps P (k a)) : Keeps P (m >>= k) := by
  intro s hs
  have hfirst := hm s hs
  rcases hrun : Action.run m s with ⟨result, t⟩
  rw [hrun] at hfirst
  cases result with
  | ok a =>
      rw [run_bind_of_ok hrun]
      exact hk a t hfirst
  | error failure =>
      rw [run_bind_of_error hrun]
      exact hfirst

theorem Keeps.attempt {m : Action σ α} (hm : Keeps P m) : Keeps P m.attempt := by
  intro s hs
  rw [run_attempt]
  exact hm s hs

theorem Keeps.retryOnConflict {m : Action σ α} (hm : Keeps P m) (maxAttempts : Nat) :
    Keeps P (m.retryOnConflict maxAttempts) := by
  intro s hs
  -- The last attempt starts where every failing attempt has kept the predicate.
  have hkeep : ∀ {s t failure}, P s → Action.run m s = (.error failure, t) → P t := by
    intro s t failure hs hrun
    have hkept := hm s hs
    rwa [hrun] at hkept
  obtain ⟨t, ht, hlast⟩ := last_attempt_of_retryOnConflict hkeep hs
    (rfl : Action.run (m.retryOnConflict maxAttempts) s = (_, _))
  have hkept := hm t ht
  rwa [hlast] at hkept

theorem Keeps.foldlM {step : β → α → Action σ β} {xs : List α}
    (hstep : ∀ b, ∀ x ∈ xs, Keeps P (step b x)) (start : β) :
    Keeps P (xs.foldlM step start) := by
  induction xs generalizing start with
  | nil => exact keeps_pure start
  | cons x xs ih =>
      rw [List.foldlM_cons]
      refine (hstep start x List.mem_cons_self).bind fun b => ?_
      exact ih (fun b x hmem => hstep b x (List.mem_cons_of_mem _ hmem)) b

end AgentOperator.Action
