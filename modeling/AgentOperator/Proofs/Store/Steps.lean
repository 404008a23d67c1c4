import AgentOperator.Proofs.Store.Sound

/-!
# Single steps of a store

Whatever a client does to a store, its objects change at one place at most: an object
is put there that bears the next number as its version, or the one that stood there is
removed.  An object is put at its own place, so in every store that operations, faults
and edits lead to each object stands at its own place.  Where only proper objects are put
into a store, and edits leave them proper, it is sound.
-/

namespace AgentOperator

/-- Changes to an object after which it still belongs where it stands. -/
structure Object.SamePlace (before after : Object) : Prop where
  name : after.metadata.name = before.metadata.name
  namespaceName : after.metadata.namespaceName = before.metadata.namespaceName

theorem Object.SamePlace.ofObject_eq {before after : Object} (hsame : before.SamePlace after)
    (kind : Kind) : StoreKey.ofObject kind after = .ofObject kind before := by
  unfold StoreKey.ofObject Object.name
  rw [hsame.name, hsame.namespaceName]

namespace Store

variable {s t : Store} {key : StoreKey} {touched : Option StoreKey}

/-! ## Operations -/

/-- What a client can do to the objects of a store: to put one there without a check, to
make, to replace or to delete one. -/
inductive Operation
  | seed (kind : Kind) (object : Object)
  | create (kind : Kind) (object : Object)
  | replace (kind : Kind) (object : Object)
  | delete (kind : Kind) (space : Option String) (name : String)

namespace Operation

def place : Operation → StoreKey
  | seed kind object | create kind object | replace kind object => .ofObject kind object
  | delete kind space name => .of kind space name

/-- Whether an operation wrote or deleted an object, and the store that it leaves. -/
def perform : Operation → Store → Bool × Store
  | seed kind object, s => (true, (s.seed kind object).2)
  | create kind object, s =>
    let (answer, t) := Action.run (cluster.create kind object) s
    (answer.isOk, t)
  | replace kind object, s =>
    let (answer, t) := Action.run (cluster.replace kind object) s
    (answer.isOk, t)
  | delete kind space name, s =>
    let (answer, t) := Action.run (cluster.delete kind space name) s
    (answer.isOk && (s.get? (.of kind space name)).isSome, t)

def touchedPlace (op : Operation) (s : Store) : Option StoreKey :=
  if (op.perform s).1 then some op.place else none

def performAll (ops : List Operation) (s : Store) : Store :=
  ops.foldl (fun s op => (op.perform s).2) s

end Operation

/-! ## Reachable stores -/

/-- What the operation puts into the store, if anything, is of a certain sort. -/
def Operation.Puts (puts : Object → Prop) : Operation → Prop
  | seed _ object | create _ object | replace _ object => puts object
  | delete .. => True

/-- The stores that lead from the empty one by operations with objects of a certain sort,
by edits of a certain sort, by reports about agents, and by faults of any kind. -/
inductive ReachableBy (puts : Object → Prop) (edits : Object → Object → Prop) : Store → Prop
  | empty : ReachableBy puts edits {}
  | perform {s : Store} (hs : ReachableBy puts edits s) (op : Operation)
    (hputs : op.Puts puts) : ReachableBy puts edits (op.perform s).2
  | edit {s : Store} (hs : ReachableBy puts edits s) (key : StoreKey)
    (change : Object → Object)
    (hchange : ∀ object, s.get? key = some object → edits object (change object)) :
    ReachableBy puts edits (s.edit key change)
  | patchStatus {s : Store} (hs : ReachableBy puts edits s) (agent : Agent)
    (status : Status) : ReachableBy puts edits ((cluster.patchStatus agent status).run s).2
  | publish {s : Store} (hs : ReachableBy puts edits s) (agent : Agent) (event : Event) :
    ReachableBy puts edits ((cluster.publish agent event).run s).2
  | conflictOn {s : Store} (hs : ReachableBy puts edits s) (name : String) (times : Nat) :
    ReachableBy puts edits (s.conflictOn name times)
  | failOn {s : Store} (hs : ReachableBy puts edits s) (name : String) :
    ReachableBy puts edits (s.failOn name)
  | failList {s : Store} (hs : ReachableBy puts edits s) (kind : Kind) :
    ReachableBy puts edits (s.failList kind)
  | omitEmpty {s : Store} (hs : ReachableBy puts edits s) :
    ReachableBy puts edits s.omitEmpty

/-- The stores that lead from the empty one where only proper objects are put there, and
edits leave an object proper and the one that it is. -/
def Reachable (s : Store) : Prop :=
  s.ReachableBy Object.IsProper fun before after => before.SameIdentity after ∧ after.IsProper

theorem ReachableBy.seed {puts : Object → Prop} {edits : Object → Object → Prop}
    {object : Object} (hs : s.ReachableBy puts edits) (kind : Kind) (hputs : puts object) :
    (s.seed kind object).2.ReachableBy puts edits :=
  hs.perform (.seed kind object) hputs

/-! ## Steps -/

/-- What happened to the objects of a store in one step, and the place where it did. -/
inductive Step (s : Store) : Option StoreKey → Store → Prop
  | idle {t : Store} (hobjects : t.objects = s.objects) (hcounter : t.counter = s.counter) :
    Step s none t
  | written {t : Store} {key : StoreKey} {object : Object}
    (hobjects : t.objects = putEntry key object s.objects)
    (hcounter : t.counter = s.counter + 1) (hplaced : key = .ofObject key.kind object)
    (hversion : object.metadata.resourceVersion = some (toString (s.counter + 1))) :
    Step s (some key) t
  | removed {t : Store} {key : StoreKey} (hobjects : t.objects = (s.remove key).objects)
    (hcounter : t.counter = s.counter) : Step s (some key) t

theorem SameButConflicts.step (hsame : s.SameButConflicts t) : s.Step none t := by
  obtain ⟨_, rfl⟩ := hsame.eq
  exact .idle rfl rfl

theorem step_withWritten_new (s : Store) (kind : Kind) (object : Object) :
    s.Step (some (.ofObject kind object))
      (s.withWritten (.ofObject kind object) (s.newObject kind object)) := by
  refine .written rfl rfl ?_ ?_
  · unfold StoreKey.ofObject Object.name
    rw [newObject_metadata]
    rfl
  · rw [newObject_metadata]

theorem step_withWritten_next (s : Store) (kind : Kind) (live object : Object) :
    s.Step (some (.ofObject kind object))
      (s.withWritten (.ofObject kind object) (s.nextObject live object)) := by
  refine .written rfl rfl ?_ ?_
  · unfold StoreKey.ofObject Object.name
    rw [nextObject_metadata]
    rfl
  · rw [nextObject_metadata]

theorem step_withDeleted (s : Store) (key : StoreKey) : s.Step (some key) (s.withDeleted key) :=
  .removed rfl rfl

theorem step_seed (s : Store) (kind : Kind) (object : Object) :
    s.Step (some (.ofObject kind object)) (s.seed kind object).2 :=
  .written rfl rfl rfl rfl

/-- A guarded write steps as the write does, or a fault keeps it from doing anything. -/
theorem step_guarded {α : Type} {name : String} {write : Store → Except Failure α × Store}
    (hwrite : (∃ a t, write s = (.ok a, t) ∧ s.Step (some key) t) ∨
      ∃ failure, write s = (.error failure, s)) :
    s.Step (if (Action.run (guarded name write) s).1.isOk then some key else none)
      (Action.run (guarded name write) s).2 := by
  rcases run_guarded name write s with hrun | ⟨failure, t, hrun, hsame⟩
  · rw [hrun]
    rcases hwrite with ⟨a, t, hok, hstep⟩ | ⟨failure, hfail⟩
    · rw [hok]
      exact hstep
    · rw [hfail]
      exact .idle rfl rfl
  · rw [hrun]
    exact hsame.step

/-- An operation does something at its place, or it does nothing. -/
theorem Operation.step_perform (op : Operation) (s : Store) :
    s.Step (op.touchedPlace s) (op.perform s).2 := by
  cases op with
  | seed kind object => exact step_seed s kind object
  | create kind object =>
      refine step_guarded ?_
      cases hget : s.get? (.ofObject kind object) with
      | some live => exact .inr ⟨_, created_of_some hget⟩
      | none => exact .inl ⟨_, _, created_of_none hget, step_withWritten_new s kind object⟩
  | replace kind object =>
      refine step_guarded ?_
      cases hget : s.get? (.ofObject kind object) with
      | none => exact .inr ⟨_, replaced_of_none hget⟩
      | some live =>
          rcases replaced_of_some hget with hok | hfail
          · exact .inl ⟨_, _, hok, step_withWritten_next s kind live object⟩
          · exact .inr hfail
  | delete kind space name =>
      cases hget : s.get? (.of kind space name) with
      | some live =>
          have hstep : s.Step
              (if (Action.run (cluster.delete kind space name) s).1.isOk then
                some (.of kind space name) else none)
              (Action.run (cluster.delete kind space name) s).2 :=
            step_guarded (.inl ⟨_, _, deletedAt_of_some hget, step_withDeleted s _⟩)
          simpa [touchedPlace, perform, place, hget] using hstep
      | none =>
          -- Nothing is deleted, though the answer is that it was done.
          have hidle : s.Step none (Action.run (cluster.delete kind space name) s).2 := by
            have hcall := run_guarded name (deletedAt (.of kind space name)) s
            rw [deletedAt_of_none hget] at hcall
            rcases hcall with hrun | ⟨failure, t, hrun, hsame⟩
            · simp only [cluster, hrun]
              exact .idle rfl rfl
            · simp only [cluster, hrun]
              exact hsame.step
          simpa [touchedPlace, perform, hget] using hidle

namespace Step

theorem get?_of_ne (hstep : s.Step touched t) (hne : touched ≠ some key) :
    t.get? key = s.get? key := by
  cases hstep with
  | idle hobjects => exact get?_congr hobjects key
  | written hobjects => exact get?_of_putEntry_of_ne hobjects fun heq => hne (heq ▸ rfl)
  | removed hobjects =>
      rw [get?_congr hobjects]
      exact get?_remove_of_ne s fun heq => hne (heq ▸ rfl)

theorem counter_le (hstep : s.Step touched t) : s.counter ≤ t.counter := by
  cases hstep with
  | idle _ hcounter | removed _ hcounter => omega
  | written _ hcounter => omega

theorem ordered (hstep : s.Step touched t) (hs : InOrder s.objects) : InOrder t.objects := by
  cases hstep with
  | idle hobjects => rwa [hobjects]
  | written hobjects =>
      rw [hobjects]
      exact hs.putEntry _ _
  | removed hobjects =>
      rw [hobjects]
      exact List.Pairwise.filter _ hs

end Step

/-! ## Objects at their own places -/

def Placed (s : Store) : Prop :=
  ∀ key object, s.get? key = some object → key = .ofObject key.kind object

theorem Placed.of_sameButConflicts (hs : s.Placed) (hsame : s.SameButConflicts t) :
    t.Placed := by
  obtain ⟨_, rfl⟩ := hsame.eq
  exact hs

theorem Step.placed (hstep : s.Step touched t) (hs : s.Placed) : t.Placed := by
  intro key object hget
  by_cases hkey : touched = some key
  · subst hkey
    cases hstep with
    | written hobjects _ hplaced =>
        rw [get?_of_putEntry hobjects] at hget
        obtain rfl := Option.some.inj hget
        exact hplaced
    | removed hobjects =>
        rw [get?_congr hobjects, get?_remove_self] at hget
        simp at hget
  · rw [hstep.get?_of_ne hkey] at hget
    exact hs key object hget

theorem get?_edit_self (s : Store) (key : StoreKey) (change : Object → Object) :
    (s.edit key change).get? key = (s.get? key).map change := by
  unfold Store.edit
  cases hlive : s.get? key with
  | none => exact hlive
  | some live => exact get?_of_putEntry rfl

theorem get?_edit_of_ne (s : Store) (change : Object → Object) {other : StoreKey}
    (hne : other ≠ key) : (s.edit key change).get? other = s.get? other := by
  unfold Store.edit
  cases s.get? key with
  | none => rfl
  | some live => exact get?_of_putEntry_of_ne rfl hne

theorem Placed.edit (hs : s.Placed) {change : Object → Object}
    (hchange : ∀ object, s.get? key = some object → object.SamePlace (change object)) :
    (s.edit key change).Placed := by
  intro other object hget
  by_cases hother : other = key
  · subst hother
    rw [get?_edit_self] at hget
    obtain ⟨live, hlive, rfl⟩ := Option.map_eq_some_iff.mp hget
    rw [(hchange live hlive).ofObject_eq]
    exact hs other live hlive
  · rw [get?_edit_of_ne s change hother] at hget
    exact hs other object hget

/-! ## Invariants -/

section

variable {puts : Object → Prop} {edits : Object → Object → Prop}

/-- What the empty store has, and steps and edits keep, each of the stores has. -/
theorem ReachableBy.invariant {P : Store → Prop} (hs : s.ReachableBy puts edits)
    (hempty : P {}) (hstep : ∀ s t touched, s.Step touched t → P s → P t)
    (hedit : ∀ s key change,
      (∀ object, s.get? key = some object → edits object (change object)) →
        P s → P (s.edit key change)) : P s := by
  induction hs with
  | empty => exact hempty
  | perform _ op _ ih => exact hstep _ _ _ (op.step_perform _) ih
  | edit _ _ _ hchange ih => exact hedit _ _ _ hchange ih
  | patchStatus _ _ _ ih | publish _ _ _ ih | conflictOn _ _ _ ih | failOn _ _ ih
  | failList _ _ ih | omitEmpty _ ih =>
      refine hstep _ _ none ?_ ih
      exact .idle rfl rfl

theorem ReachableBy.placed
    (hedits : ∀ before after, edits before after → before.SamePlace after)
    (hs : s.ReachableBy puts edits) : s.Placed := by
  have hempty : Placed {} := by
    intro key object hget
    simp [get?] at hget
  refine hs.invariant hempty (fun _ _ _ => Step.placed) ?_
  intro s key change hchange hplaced
  exact hplaced.edit fun object hget => hedits _ _ (hchange object hget)

theorem ReachableBy.ordered (hs : s.ReachableBy puts edits) : InOrder s.objects := by
  refine hs.invariant (P := fun s => InOrder s.objects) .nil (fun _ _ _ => Step.ordered) ?_
  intro s key change _ hordered
  unfold Store.edit
  cases s.get? key with
  | none => exact hordered
  | some live => exact hordered.putEntry _ _

end

theorem Sound.perform (hs : s.Sound) {op : Operation} (hputs : op.Puts Object.IsProper) :
    (op.perform s).2.Sound := by
  cases op with
  | seed kind object => exact hs.seed kind hputs
  | create kind object => exact hs.guarded (hs.created kind hputs)
  | replace kind object => exact hs.guarded (hs.replaced kind hputs)
  | delete kind space name => exact hs.guarded (hs.deletedAt _)

theorem Reachable.sound (hs : s.Reachable) : s.Sound := by
  unfold Reachable at hs
  induction hs with
  | empty => exact Sound.empty
  | perform _ op hputs ih => exact ih.perform hputs
  | edit _ _ _ hchange ih => exact ih.edit hchange
  | patchStatus _ _ _ ih | publish _ _ _ ih | conflictOn _ _ _ ih | failOn _ _ ih
  | failList _ _ ih | omitEmpty _ ih => exact ih.of_objects_eq rfl (Nat.le_refl _)

structure Arranged (s : Store) : Prop where
  ordered : InOrder s.objects
  placed : s.Placed
  named : ∀ {key object}, s.get? key = some object → object.metadata.name.isSome = true

theorem Arranged.withDeleted (hs : s.Arranged) (key : StoreKey) :
    (s.withDeleted key).Arranged := by
  have hstep := s.step_withDeleted key
  refine ⟨hstep.ordered hs.ordered, hstep.placed hs.placed, ?_⟩
  intro other object hget
  by_cases hother : other = key
  · subst hother
    rw [get?_withDeleted_self] at hget
    simp at hget
  · rw [get?_withDeleted_of_ne s hother] at hget
    exact hs.named hget

theorem Sound.arranged (hs : s.Sound) : s.Arranged :=
  ⟨hs.ordered, fun _ _ => hs.placed, fun hget => (hs.proper hget).named⟩

end Store

end AgentOperator
