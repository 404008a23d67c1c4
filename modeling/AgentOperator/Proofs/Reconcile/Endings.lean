import AgentOperator.Proofs.Reconcile.Apply
import AgentOperator.Proofs.Store.Allocation

/-!
# What becomes of a list of objects

The objects of a list end one after the other, each in the store that the one before it
left.  As no two of them stand at one place, an object finds at its place what stood
there before the first one, and what it leaves there stays.  Two stores that agree at
the place of an object make it end alike: the one thing that tells them apart is the
counter, which shows in identities, versions and addresses only.
-/

namespace AgentOperator

open Store (Placed)

variable {d : Desired} {ds : List Desired} {s t : Store} {key : StoreKey}
  {owner : OwnerReference} {maxAttempts : Nat}

/-! ## Reports -/

def Ending.failure? : Ending → Option Failure
  | .ok _ => none
  | .error failure => some failure

def Desired.outcomeOf (d : Desired) : Ending → Outcome
  | .ok (change, uid) => ⟨d.key, change, uid⟩
  | .error _ => ⟨d.key, .failed, none⟩

def Desired.failureOf (d : Desired) (ending : Ending) : Option Failure :=
  ending.failure?.map fun failure => failure.forObject d.key

theorem Desired.outcomeOf_ownedBy (d : Desired) (owner : OwnerReference) (ending : Ending) :
    (d.ownedBy owner).outcomeOf ending = d.outcomeOf ending := by
  unfold outcomeOf
  rw [ownedBy_key]

theorem Desired.failureOf_ownedBy (d : Desired) (owner : OwnerReference) (ending : Ending) :
    (d.ownedBy owner).failureOf ending = d.failureOf ending := by
  unfold failureOf
  rw [ownedBy_key]

/-- How each object of a list ends with its owner, and the store that they leave. -/
def finishAll (owner : OwnerReference) : List Desired → Store → List (Desired × Ending) × Store
  | [], s => ([], s)
  | d :: ds, s =>
    ((d, ((d.ownedBy owner).finish s).1) ::
        (finishAll owner ds ((d.ownedBy owner).finish s).2).1,
      (finishAll owner ds ((d.ownedBy owner).finish s).2).2)

def reportOf (endings : List (Desired × Ending)) : ApplyReport :=
  { outcomes := endings.map fun ending => ending.1.outcomeOf ending.2
    failures := endings.filterMap fun ending => ending.1.failureOf ending.2 }

theorem finishAll_withConflicts (owner : OwnerReference) (ds : List Desired) (s : Store)
    (conflicts : Dict Nat) :
    finishAll owner ds (s.withConflicts conflicts) =
      ((finishAll owner ds s).1, (finishAll owner ds s).2.withConflicts conflicts) := by
  induction ds generalizing s with
  | nil => rfl
  | cons d ds ih => rw [finishAll, Desired.finish_withConflicts, ih, finishAll]

theorem map_fst_finishAll (owner : OwnerReference) (ds : List Desired) (s : Store) :
    (finishAll owner ds s).1.map Prod.fst = ds := by
  induction ds generalizing s with
  | nil => rfl
  | cons d ds ih => rw [finishAll, List.map_cons, ih]

theorem mem_of_mem_finishAll {ending : Desired × Ending}
    (hmem : ending ∈ (finishAll owner ds s).1) : ending.1 ∈ ds := by
  rw [← map_fst_finishAll owner ds s]
  exact List.mem_map_of_mem hmem

/-! ## Runs -/

/-- An object that is applied adds how it ended to the report. -/
theorem run_applyRecorded_ending {σ : Type} (cluster : Cluster σ) (maxAttempts : Nat)
    (d : Desired) (report : ApplyReport) {ending : Ending} {s t : σ}
    (hrun : Action.run ((applyOne cluster d).retryOnConflict maxAttempts) s = (ending, t)) :
    Action.run (applyRecorded cluster maxAttempts d report) s =
      (.ok ⟨report.outcomes ++ [d.outcomeOf ending],
        report.failures ++ (d.failureOf ending).toList⟩, t) := by
  unfold applyRecorded
  rw [Action.run_bind, Action.run_attempt, hrun]
  cases ending with
  | ok ending => simp [Desired.outcomeOf, Desired.failureOf, Ending.failure?]
  | error failure => rfl

theorem run_applyRecorded_finish (d : Desired)
    (hfew : ∀ name, s.pending name < max 1 maxAttempts) (report : ApplyReport) :
    ∃ conflicts,
      Action.run (applyRecorded Store.cluster maxAttempts (d.ownedBy owner) report) s =
        (.ok ⟨report.outcomes ++ [d.outcomeOf ((d.ownedBy owner).finish s).1],
            report.failures ++ (d.failureOf ((d.ownedBy owner).finish s).1).toList⟩,
          ((d.ownedBy owner).finish s).2.withConflicts conflicts) ∧
      ∀ name, (s.withConflicts conflicts).pending name ≤ s.pending name := by
  obtain ⟨conflicts, hrun, hleft⟩ := run_retryOnConflict_applyOne (d.ownedBy owner) hfew
  refine ⟨conflicts, ?_, hleft⟩
  rw [run_applyRecorded_ending _ _ _ report hrun, Desired.outcomeOf_ownedBy,
    Desired.failureOf_ownedBy]

theorem reportOf_cons (ending : Desired × Ending) (endings : List (Desired × Ending)) :
    reportOf (ending :: endings) =
      { outcomes := [ending.1.outcomeOf ending.2] ++ (reportOf endings).outcomes
        failures := (ending.1.failureOf ending.2).toList ++ (reportOf endings).failures } := by
  unfold reportOf
  rw [List.map_cons, List.filterMap_cons]
  cases ending.1.failureOf ending.2 <;> rfl

/-- Applying objects reports how each of them ends, as long as there are fewer conflicts
than attempts. -/
theorem run_applyRecorded_finishAll
    (hfew : ∀ name, s.pending name < max 1 maxAttempts) (report : ApplyReport) :
    ∃ conflicts,
      Action.run (ds.foldlM
        (fun report d => applyRecorded Store.cluster maxAttempts (d.ownedBy owner) report)
        report) s =
          (.ok ⟨report.outcomes ++ (reportOf (finishAll owner ds s).1).outcomes,
              report.failures ++ (reportOf (finishAll owner ds s).1).failures⟩,
            (finishAll owner ds s).2.withConflicts conflicts) := by
  induction ds generalizing s report with
  | nil => exact ⟨s.conflicts, by simp [finishAll, reportOf, Store.withConflicts]⟩
  | cons d ds ih =>
      obtain ⟨conflicts, hrun, hleft⟩ :=
        run_applyRecorded_finish d hfew report
      have hfewer : ∀ name,
          (((d.ownedBy owner).finish s).2.withConflicts conflicts).pending name <
            max 1 maxAttempts :=
        fun name => Nat.lt_of_le_of_lt (hleft name) (hfew name)
      rw [List.foldlM_cons, Action.run_bind_of_ok hrun]
      obtain ⟨rest, hrest⟩ := ih hfewer _
      refine ⟨rest, hrest.trans ?_⟩
      rw [finishAll_withConflicts, finishAll, reportOf_cons]
      simp only [List.append_assoc]
      rfl

theorem run_applyAll_finishAll (hfew : ∀ name, s.pending name < max 1 maxAttempts)
    (owner : OwnerReference) (ds : List Desired) :
    ∃ conflicts,
      Action.run (applyAll Store.cluster owner maxAttempts ds) s =
        (.ok (reportOf (finishAll owner ds s).1),
          (finishAll owner ds s).2.withConflicts conflicts) :=
  run_applyRecorded_finishAll hfew {}

/-! ## Places -/

theorem Desired.finish_keeps {P : Store → Prop} (hs : s.Placed) (hbefore : P s)
    (happlied : ∀ change uid t, Applied d s change uid t → P t) : P (d.finish s).2 := by
  rcases d.finish_cases hs with ⟨change, uid, t, hends, hstep⟩ | ⟨failure, hends⟩
  · rw [hends]
    exact happlied change uid t hstep
  · rwa [hends]

theorem Desired.placed_finish (hs : s.Placed) (d : Desired) : (d.finish s).2.Placed :=
  finish_keeps hs hs fun _ _ _ happlied => happlied.placed hs

theorem Desired.get?_finish_of_ne (hs : s.Placed) (d : Desired) (hne : key ≠ d.place) :
    (d.finish s).2.get? key = s.get? key :=
  finish_keeps (P := fun t => t.get? key = s.get? key) hs rfl fun _ _ _ happlied =>
    happlied.get?_of_ne hne

theorem Desired.sameFaults_finish (hs : s.Placed) (d : Desired) :
    s.SameFaults (d.finish s).2 :=
  finish_keeps hs (.refl s) fun _ _ _ happlied => happlied.sameFaults

theorem get?_finishAll_of_forall_ne (hs : s.Placed) (hne : ∀ d ∈ ds, key ≠ d.place) :
    (finishAll owner ds s).2.get? key = s.get? key := by
  induction ds generalizing s with
  | nil => rfl
  | cons d ds ih =>
      obtain ⟨hhead, htail⟩ := List.forall_mem_cons.mp hne
      rw [← d.ownedBy_place owner] at hhead
      rw [finishAll, ih (Desired.placed_finish hs _) htail, Desired.get?_finish_of_ne hs _ hhead]

/-- The stores look the same to a write at a place. -/
structure Store.AgreesAt (place : StoreKey) (s t : Store) : Prop where
  get? : t.get? place = s.get? place
  failing : t.failing = s.failing
  omitsEmpty : t.omitsEmpty = s.omitsEmpty

/-- Each object ends in a store that looks to it like the first one, and what it leaves at
its place is there in the end. -/
theorem exists_finish (hs : s.Placed) (hplaces : PlacesDistinct ds) :
    ∀ ending ∈ (finishAll owner ds s).1, ∃ t, s.AgreesAt ending.1.place t ∧
      ending.2 = ((ending.1.ownedBy owner).finish t).1 ∧
      (finishAll owner ds s).2.get? ending.1.place =
        ((ending.1.ownedBy owner).finish t).2.get? ending.1.place := by
  induction ds generalizing s with
  | nil => simp [finishAll]
  | cons d ds ih =>
      have hnext : ((d.ownedBy owner).finish s).2.Placed := Desired.placed_finish hs _
      have hothers : ∀ e ∈ ds, d.place ≠ e.place := fun e hmem =>
        List.rel_of_pairwise_cons hplaces hmem
      intro ending hmem
      rcases List.mem_cons.mp hmem with rfl | hrest
      · exact ⟨s, ⟨rfl, rfl, rfl⟩, rfl, get?_finishAll_of_forall_ne hnext hothers⟩
      · obtain ⟨t, hagrees, hends, hget⟩ :=
          ih hnext (List.Pairwise.of_cons hplaces) ending hrest
        have hother : ending.1.place ≠ (d.ownedBy owner).place := by
          rw [d.ownedBy_place]
          exact (hothers ending.1 (mem_of_mem_finishAll hrest)).symm
        -- What the first object changed does not show at the place of another.
        have hfaults := (d.ownedBy owner).sameFaults_finish hs
        refine ⟨t, ⟨?_, ?_, ?_⟩, hends, hget⟩
        · rw [hagrees.get?, Desired.get?_finish_of_ne hs _ hother]
        · rw [hagrees.failing, hfaults.failing]
        · rw [hagrees.omitsEmpty, hfaults.omitsEmpty]

/-! ## Stores that count differently -/

/-- The service does not ask for an address of its own. -/
def Desired.takesAnyAddress (d : Desired) : Bool :=
  d.kind = .service && Store.isUnset (d.object.body.at? ["spec", "clusterIP"])

/-- What an object holds apart from what the server makes from its counter. -/
def Desired.contentOf (d : Desired) (object : Object) : Object :=
  { types := object.types
    metadata := { object.metadata with uid := none, resourceVersion := none }
    body := if d.takesAnyAddress then object.body.withoutSpecFields Store.addressFields
      else object.body }

theorem Desired.contentOf_newObject (d : Desired) (homits : t.omitsEmpty = s.omitsEmpty) :
    d.contentOf (t.newObject d.kind d.object) = d.contentOf (s.newObject d.kind d.object) := by
  have hbody : (if d.takesAnyAddress then
        (t.newObject d.kind d.object).body.withoutSpecFields Store.addressFields
      else (t.newObject d.kind d.object).body) =
      if d.takesAnyAddress then
        (s.newObject d.kind d.object).body.withoutSpecFields Store.addressFields
      else (s.newObject d.kind d.object).body := by
    rw [t.newObject_body, s.newObject_body, homits]
    by_cases hkind : d.kind = .service
    · rw [if_pos hkind, if_pos hkind]
      cases hunset : Store.isUnset (d.object.body.at? ["spec", "clusterIP"]) with
      | true =>
          have hsame := Store.sameButAddress_allocate (t.counter + 1) (s.counter + 1)
            d.object.body
          have hany : d.takesAnyAddress = true := by simp [takesAnyAddress, hkind, hunset]
          rw [if_pos hany, if_pos hany]
          cases s.omitsEmpty with
          | true => exact hsame.stripEmpty.withoutSpecFields_eq
          | false => exact hsame.withoutSpecFields_eq
      | false =>
          rw [Store.allocate_of_isUnset_eq_false hunset (t.counter + 1) (s.counter + 1)]
    · rw [if_neg hkind, if_neg hkind]
  unfold contentOf
  rw [Store.newObject_types, Store.newObject_types, Store.newObject_metadata,
    Store.newObject_metadata, hbody]

theorem Desired.contentOf_nextObject (d : Desired) (homits : t.omitsEmpty = s.omitsEmpty)
    (live object : Object) :
    d.contentOf (t.nextObject live object) = d.contentOf (s.nextObject live object) := by
  unfold Store.nextObject Store.stored
  rw [homits]
  cases s.omitsEmpty <;> rfl

theorem Desired.contentOf_ownedBy (d : Desired) (owner : OwnerReference) :
    (d.ownedBy owner).contentOf = d.contentOf := by
  have hany : (d.ownedBy owner).takesAnyAddress = d.takesAnyAddress := by
    unfold takesAnyAddress
    rw [ownedBy_kind, ownedBy_body]
  funext object
  unfold contentOf
  rw [hany]

/-- In stores that agree at the place of an object the same plan comes to the same. -/
theorem Desired.carryOut_congr (hs : s.Placed) (hagrees : s.AgreesAt d.place t) :
    ((d.plan (s.get? d.place)).carryOut d t).1.map Prod.fst =
        ((d.plan (s.get? d.place)).carryOut d s).1.map Prod.fst ∧
      (((d.plan (s.get? d.place)).carryOut d t).2.get? d.place).map d.contentOf =
        (((d.plan (s.get? d.place)).carryOut d s).2.get? d.place).map d.contentOf := by
  cases hlive : s.get? d.place with
  | none =>
      have hmake : d.plan none = .make := rfl
      rw [hmake, Plan.carryOut_make hlive, Plan.carryOut_make (hagrees.get?.trans hlive),
        Store.get?_of_putEntry rfl, Store.get?_of_putEntry rfl, Option.map_some,
        Option.map_some, d.contentOf_newObject hagrees.omitsEmpty]
      exact ⟨rfl, rfl⟩
  | some live =>
      have hliveAgain : t.get? d.place = some live := hagrees.get?.trans hlive
      rcases hmerge : mergeImmutable d.kind live d.object with ⟨_ | field, target⟩
      · cases hsame : isUnchanged live target with
        | true =>
            rw [plan_of_unchanged hmerge hsame]
            exact ⟨rfl, congrArg _ hagrees.get?⟩
        | false =>
            have hplace := hs.place_updatedObject hlive target
            rw [plan_of_changed hmerge hsame, Plan.carryOut_overwrite hlive hplace,
              Plan.carryOut_overwrite hliveAgain hplace]
            split
            · exact ⟨rfl, congrArg _ hagrees.get?⟩
            · rw [Store.get?_of_putEntry rfl, Store.get?_of_putEntry rfl, Option.map_some,
                Option.map_some, d.contentOf_nextObject hagrees.omitsEmpty]
              exact ⟨rfl, rfl⟩
      · rw [plan_of_conflict hmerge, Plan.carryOut_remove hlive,
          Plan.carryOut_remove hliveAgain, Store.get?_withDeleted_self,
          Store.get?_withDeleted_self]
        exact ⟨rfl, rfl⟩

theorem Desired.finish_congr (hs : s.Placed) (hagrees : s.AgreesAt d.place t) :
    (d.finish t).1.map Prod.fst = (d.finish s).1.map Prod.fst ∧
      ((d.finish t).2.get? d.place).map d.contentOf =
        ((d.finish s).2.get? d.place).map d.contentOf := by
  unfold finish
  rw [hagrees.get?, hagrees.failing]
  split
  · exact ⟨rfl, congrArg _ hagrees.get?⟩
  · exact carryOut_congr hs hagrees

end AgentOperator
