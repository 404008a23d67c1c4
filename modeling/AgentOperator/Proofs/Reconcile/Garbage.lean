import AgentOperator.Proofs.Failure
import AgentOperator.Proofs.Store.Steps
import AgentOperator.Reconcile.Prune

/-!
# What garbage collection does to a store

The listings of a store, kept by identity, hold exactly what belongs to an agent,
because no two objects share an identity.  Deletion goes by place, and an object
is deleted at the place at which it was listed, so a collection that succeeds
deletes the orphans and leaves every other object as it was.
-/

namespace AgentOperator

open Store (Arranged Sound SameFaults)

variable {agent : Agent} {s t : Store} {key : StoreKey} {object : Object}
  {reconciled : List String}

/-- The object at a place is listed as one of the agent's. -/
structure Belongs (agent : Agent) (key : StoreKey) (object : Object) : Prop where
  namespaced : key.kind.isNamespaced = true
  space : key.space = agent.home
  selected : Store.isSelected object agent.ownershipSelector = true
  unnamed : isNamedAccount agent key.kind object = false

/-- The object at a place belongs to the agent and was not reconciled. -/
structure IsOrphan (agent : Agent) (reconciled : List String) (key : StoreKey)
    (object : Object) : Prop where
  belongs : Belongs agent key object
  forgotten : ∀ uid, object.metadata.uid = some uid → uid ∉ reconciled

/-! ## Listing -/

/-- What is listed of a kind. -/
def ownedOf (s : Store) (agent : Agent) (kind : Kind) : List Owned :=
  ((s.listed kind agent.home agent.ownershipSelector).filter fun object =>
    !isNamedAccount agent kind object).map (Owned.mk kind)

/-- All that is listed. -/
def allOwned (s : Store) (agent : Agent) : List Owned :=
  Kind.namespaced.flatMap (ownedOf s agent)

/-- The place at which an owned object is deleted. -/
def Owned.place (o : Owned) : StoreKey :=
  .of o.kind o.object.metadata.namespaceName o.object.metadata.anyName

theorem mem_allOwned (hs : s.Arranged) {o : Owned} :
    o ∈ allOwned s agent ↔
      ∃ key, s.get? key = some o.object ∧ key.kind = o.kind ∧ Belongs agent key o.object := by
  unfold allOwned ownedOf
  constructor
  · intro hmem
    obtain ⟨kind, hkind, hlisted⟩ := List.mem_flatMap.mp hmem
    obtain ⟨object, hobject, rfl⟩ := List.mem_map.mp hlisted
    obtain ⟨hobject, hunnamed⟩ := List.mem_filter.mp hobject
    obtain ⟨name, hget, hselected⟩ := (Store.mem_listed_iff hs.ordered).mp hobject
    refine ⟨⟨kind, agent.home, name⟩, hget, rfl, Kind.mem_namespaced_iff.mp hkind, rfl,
      hselected, ?_⟩
    simpa using hunnamed
  · rintro ⟨⟨kind, space, name⟩, hget, rfl, hnamespaced, rfl, hselected, hunnamed⟩
    refine List.mem_flatMap.mpr ⟨o.kind, Kind.mem_namespaced_iff.mpr hnamespaced, ?_⟩
    refine List.mem_map.mpr ⟨o.object, ?_, rfl⟩
    refine List.mem_filter.mpr ⟨?_, by simpa using hunnamed⟩
    exact (Store.mem_listed_iff hs.ordered).mpr ⟨name, hget, hselected⟩

theorem Owned.place_eq (hs : s.Arranged) {o : Owned} (hget : s.get? key = some o.object)
    (hkind : key.kind = o.kind) : o.place = key := by
  have hplaced := hs.placed _ _ hget
  have hnamed := hs.named hget
  obtain ⟨name, hname⟩ := Option.isSome_iff_exists.mp hnamed
  rw [hplaced, hkind]
  unfold Owned.place StoreKey.ofObject Object.name Metadata.anyName
  rw [hname]
  rfl

theorem run_indexKind (s : Store) (agent : Agent) (index : OwnedIndex) (kind : Kind) :
    Action.run (indexKind Store.cluster agent index kind) s =
      if s.unlistable.contains kind then
        (.error (Store.fault 503 "ServiceUnavailable"), s)
      else
        (.ok ((ownedOf s agent kind).foldl
          (fun index o => index.add o.kind o.object) index), s) := by
  have hlist : Action.run
      (Store.cluster.list kind agent.home agent.ownershipSelector) s =
        if s.unlistable.contains kind then
          (.error (Store.fault 503 "ServiceUnavailable"), s)
        else (.ok (s.listed kind agent.home agent.ownershipSelector), s) := rfl
  unfold indexKind
  by_cases hfault : s.unlistable.contains kind = true
  · rw [if_pos hfault] at hlist ⊢
    exact Action.run_bind_of_error hlist
  · rw [if_neg hfault] at hlist ⊢
    rw [Action.run_bind_of_ok hlist]
    unfold ownedOf
    rw [List.foldl_map]
    rfl

/-- Listing succeeds just when every kind can be listed. -/
theorem run_indexKinds (s : Store) (agent : Agent) (kinds : List Kind)
    (index : OwnedIndex) :
    ((∀ kind ∈ kinds, s.unlistable.contains kind = false) ∧
      Action.run (kinds.foldlM (indexKind Store.cluster agent) index) s =
        (.ok ((kinds.flatMap (ownedOf s agent)).foldl
          (fun index o => index.add o.kind o.object) index), s)) ∨
    (∃ kind ∈ kinds, s.unlistable.contains kind = true) ∧
      ∃ failure, Action.run (kinds.foldlM (indexKind Store.cluster agent) index) s =
        (.error failure, s) := by
  induction kinds generalizing index with
  | nil => exact .inl ⟨by simp, rfl⟩
  | cons kind kinds ih =>
      have hfirst := run_indexKind s agent index kind
      rw [List.foldlM_cons]
      by_cases hfault : s.unlistable.contains kind = true
      · rw [if_pos hfault] at hfirst
        exact .inr ⟨⟨kind, List.mem_cons_self, hfault⟩, _, Action.run_bind_of_error hfirst⟩
      · rw [if_neg hfault] at hfirst
        rw [Action.run_bind_of_ok hfirst, List.flatMap_cons, List.foldl_append]
        rcases ih _ with ⟨hrest, hrun⟩ | ⟨⟨other, hmem, hother⟩, hfail⟩
        · refine .inl ⟨?_, hrun⟩
          rw [List.forall_mem_cons]
          exact ⟨by simpa using hfault, hrest⟩
        · exact .inr ⟨⟨other, List.mem_cons_of_mem _ hmem, hother⟩, hfail⟩

/-! ## The index -/

namespace OwnedIndex

/-- The index of a list of owned objects. -/
def ofOwned (os : List Owned) : OwnedIndex :=
  os.foldl (fun index o => index.add o.kind o.object) ∅

theorem get?_add_of_ne {index : OwnedIndex} {kind : Kind} {uid : String}
    (hne : object.metadata.uid ≠ some uid) :
    (index.add kind object).get? uid = index.get? uid := by
  unfold add
  cases huid : object.metadata.uid with
  | none => rfl
  | some other =>
      rw [huid] at hne
      exact Dict.get?_insert_of_ne index (fun heq => hne (congrArg some heq.symm)) _

theorem get?_add_self {index : OwnedIndex} {kind : Kind} {uid : String}
    (huid : object.metadata.uid = some uid) :
    (index.add kind object).get? uid = some ⟨kind, object⟩ := by
  unfold add
  rw [huid]
  exact Dict.get?_insert_self index uid _

/-- What an index holds at an identity was added with that identity. -/
theorem of_get?_foldl {os : List Owned} {index : OwnedIndex} {uid : String} {o : Owned}
    (hget : (os.foldl (fun index o => index.add o.kind o.object) index).get? uid = some o) :
    index.get? uid = some o ∨ o ∈ os ∧ o.object.metadata.uid = some uid := by
  induction os generalizing index with
  | nil => exact .inl hget
  | cons head rest ih =>
      rcases ih hget with hadded | ⟨hmem, huid⟩
      · by_cases hhead : head.object.metadata.uid = some uid
        · rw [get?_add_self hhead] at hadded
          obtain rfl := Option.some.inj hadded
          exact .inr ⟨List.mem_cons_self, hhead⟩
        · rw [get?_add_of_ne hhead] at hadded
          exact .inl hadded
      · exact .inr ⟨List.mem_cons_of_mem _ hmem, huid⟩

/-- An identity that was added stays in the index. -/
theorem isSome_get?_foldl {os : List Owned} {index : OwnedIndex} {uid : String}
    (hadded : (index.get? uid).isSome ∨ ∃ o ∈ os, o.object.metadata.uid = some uid) :
    ((os.foldl (fun index o => index.add o.kind o.object) index).get? uid).isSome := by
  induction os generalizing index with
  | nil => simpa using hadded
  | cons head rest ih =>
      apply ih
      by_cases hhead : head.object.metadata.uid = some uid
      · rw [get?_add_self hhead]
        exact .inl rfl
      · rw [get?_add_of_ne hhead]
        rcases hadded with hindex | ⟨o, hmem, huid⟩
        · exact .inl hindex
        · rcases List.mem_cons.mp hmem with rfl | hrest
          · exact absurd huid hhead
          · exact .inr ⟨o, hrest, huid⟩

theorem get?_empty (uid : String) : (∅ : OwnedIndex).get? uid = none := rfl

/-- What an index holds was listed with the identity that it is held at. -/
theorem of_mem_entries {uid : String} {o : Owned}
    (hmem : (uid, o) ∈ (ofOwned (allOwned s agent)).entries) :
    o ∈ allOwned s agent ∧ o.object.metadata.uid = some uid := by
  rcases of_get?_foldl (Dict.get?_of_mem _ hmem) with hnone | howned
  · rw [get?_empty] at hnone
    simp at hnone
  · exact howned

/-- The orphans of the index of a store are the orphans of the store. -/
theorem mem_orphans (hs : s.Sound) {o : Owned} :
    o ∈ (ofOwned (allOwned s agent)).orphans reconciled ↔
      ∃ key, s.get? key = some o.object ∧ key.kind = o.kind ∧
        IsOrphan agent reconciled key o.object := by
  unfold orphans
  constructor
  · intro hmem
    obtain ⟨⟨uid, o'⟩, hentry, rfl⟩ := List.mem_map.mp hmem
    obtain ⟨hindexed, hforgotten⟩ := List.mem_filter.mp hentry
    obtain ⟨howned, huid⟩ := of_mem_entries hindexed
    obtain ⟨key, hstored, hkind, hbelongs⟩ := (mem_allOwned hs.arranged).mp howned
    refine ⟨key, hstored, hkind, hbelongs, ?_⟩
    intro other hother
    have heq : uid = other := Option.some.inj (huid.symm.trans hother)
    simpa [heq] using hforgotten
  · rintro ⟨key, hget, hkind, hbelongs, hforgotten⟩
    obtain ⟨n, -, huid⟩ := hs.numbered hget
    have howned : o ∈ allOwned s agent := (mem_allOwned hs.arranged).mpr ⟨key, hget, hkind, hbelongs⟩
    have hsome : ((ofOwned (allOwned s agent)).get? (Store.uidOf n)).isSome :=
      isSome_get?_foldl (.inr ⟨o, howned, huid⟩)
    obtain ⟨o', ho'⟩ := Option.isSome_iff_exists.mp hsome
    -- Another object with this identity would stand at the same place.
    have hsame : o' = o := by
      obtain ⟨howned', huid'⟩ := of_mem_entries (Dict.mem_of_get? ho')
      obtain ⟨key', hget', hkind', -⟩ := (mem_allOwned hs.arranged).mp howned'
      have hkey := hs.distinct hget' hget (huid'.trans huid.symm)
      subst hkey
      have hobject : o'.object = o.object := Option.some.inj (hget'.symm.trans hget)
      have hkinds : o'.kind = o.kind := hkind'.symm.trans hkind
      cases o
      cases o'
      simp_all
    rw [hsame] at ho'
    refine List.mem_map.mpr ⟨(Store.uidOf n, o), ?_, rfl⟩
    refine List.mem_filter.mpr ⟨Dict.mem_of_get? ho', ?_⟩
    simpa using hforgotten _ huid

end OwnedIndex

/-- Every kind that is collected can be listed. -/
def Listable (s : Store) : Prop :=
  ∀ kind, kind.isNamespaced = true → s.unlistable.contains kind = false

theorem run_listOwned (s : Store) (agent : Agent) :
    (Listable s ∧ Action.run (listOwned Store.cluster agent) s =
      (.ok (.ofOwned (allOwned s agent)), s)) ∨
    (¬ Listable s ∧ ∃ failure,
      Action.run (listOwned Store.cluster agent) s = (.error failure, s)) := by
  rcases run_indexKinds s agent Kind.namespaced ∅ with
    ⟨hlistable, hrun⟩ | ⟨⟨kind, hmem, hfault⟩, hfail⟩
  · refine .inl ⟨?_, hrun⟩
    intro kind hkind
    exact hlistable kind (Kind.mem_namespaced_iff.mpr hkind)
  · refine .inr ⟨?_, hfail⟩
    intro hlistable
    rw [hlistable kind (Kind.mem_namespaced_iff.mp hmem)] at hfault
    simp at hfault

theorem run_listOwned_of_listable (hlistable : Listable s) (agent : Agent) :
    Action.run (listOwned Store.cluster agent) s = (.ok (.ofOwned (allOwned s agent)), s) := by
  rcases run_listOwned s agent with ⟨-, hlist⟩ | ⟨hnot, -⟩
  · exact hlist
  · exact absurd hlistable hnot

theorem eq_of_run_listOwned {index : OwnedIndex}
    (hlist : Action.run (listOwned Store.cluster agent) s = (.ok index, t)) :
    index = .ofOwned (allOwned s agent) ∧ t = s := by
  rcases run_listOwned s agent with ⟨-, hrun⟩ | ⟨-, failure, hrun⟩
  · rw [hrun] at hlist
    obtain ⟨hindex, hstore⟩ := Prod.mk.inj hlist
    exact ⟨(Except.ok.inj hindex).symm, hstore.symm⟩
  · rw [hrun] at hlist
    simp at hlist

/-! ## Deleting -/

/-- The store after the objects at some places were deleted. -/
def deletedAll (s : Store) (keys : List StoreKey) : Store :=
  keys.foldl (fun s key => (Store.deletedAt key s).2) s

theorem fst_deletedAt (s : Store) (key : StoreKey) : (Store.deletedAt key s).1 = .ok () := by
  cases hget : s.get? key with
  | none => rw [Store.deletedAt_of_none hget]
  | some live => rw [Store.deletedAt_of_some hget]

theorem get?_deletedAt_self (s : Store) (key : StoreKey) :
    (Store.deletedAt key s).2.get? key = none := by
  cases hget : s.get? key with
  | none => rwa [Store.deletedAt_of_none hget]
  | some live =>
      rw [Store.deletedAt_of_some hget]
      exact Store.get?_remove_self s key

theorem get?_deletedAt_of_ne (s : Store) {other : StoreKey} (hne : other ≠ key) :
    (Store.deletedAt key s).2.get? other = s.get? other := by
  cases hget : s.get? key with
  | none => rw [Store.deletedAt_of_none hget]
  | some live =>
      rw [Store.deletedAt_of_some hget]
      exact Store.get?_remove_of_ne s hne

theorem get?_deletedAt_of_none (hget : s.get? key = none) (other : StoreKey) :
    (Store.deletedAt other s).2.get? key = none := by
  by_cases heq : key = other
  · subst heq
    exact get?_deletedAt_self s key
  · rwa [get?_deletedAt_of_ne s heq]

theorem get?_deletedAll_of_none (hget : s.get? key = none) (keys : List StoreKey) :
    (deletedAll s keys).get? key = none := by
  induction keys generalizing s with
  | nil => exact hget
  | cons head rest ih => exact ih (get?_deletedAt_of_none hget head)

theorem get?_deletedAll_of_mem {keys : List StoreKey} (hmem : key ∈ keys) :
    (deletedAll s keys).get? key = none := by
  induction keys generalizing s with
  | nil => simp at hmem
  | cons head rest ih =>
      rcases List.mem_cons.mp hmem with rfl | hrest
      · exact get?_deletedAll_of_none (get?_deletedAt_self s key) rest
      · exact ih hrest

theorem get?_deletedAll_of_notMem {keys : List StoreKey} (hmem : key ∉ keys) :
    (deletedAll s keys).get? key = s.get? key := by
  induction keys generalizing s with
  | nil => rfl
  | cons head rest ih =>
      have hhead : key ≠ head := fun heq => hmem (heq ▸ List.mem_cons_self)
      have hrest : key ∉ rest := fun hin => hmem (List.mem_cons_of_mem _ hin)
      exact (ih hrest).trans (get?_deletedAt_of_ne s hhead)

theorem sound_deletedAll (hs : s.Sound) (keys : List StoreKey) :
    (deletedAll s keys).Sound := by
  induction keys generalizing s with
  | nil => exact hs
  | cons head rest ih => exact ih (hs.deletedAt head)

/-- Deleting one orphan is recorded, as a deletion or as a failure. -/
theorem run_pruneOne (s : Store) (done : Nat × List Failure) (o : Owned) :
    Action.run (pruneOne Store.cluster done o) s =
        (.ok (done.1 + 1, done.2), (Store.deletedAt o.place s).2) ∨
      ∃ failure t, Action.run (pruneOne Store.cluster done o) s =
        (.ok (done.1, done.2 ++ [failure]), t) := by
  have hdelete := Store.run_guarded o.object.metadata.anyName (Store.deletedAt o.place) s
  have hcall : Store.cluster.delete o.kind o.object.metadata.namespaceName
      o.object.metadata.anyName =
        Store.guarded o.object.metadata.anyName (Store.deletedAt o.place) := rfl
  unfold pruneOne
  simp only [Action.run_bind, Action.run_attempt, hcall]
  rcases hdelete with hok | ⟨failure, t, hfail, -⟩
  · rw [hok, fst_deletedAt]
    exact .inl rfl
  · rw [hfail]
    exact .inr ⟨failure.forObject o.key, t, rfl⟩

/-- A run over all orphans in which nothing fails deletes each of them. -/
theorem run_pruneAll (s : Store) (done : Nat × List Failure) (os : List Owned) :
    ∃ done' t, Action.run (os.foldlM (pruneOne Store.cluster) done) s = (.ok done', t) ∧
      (done'.2 = [] → done.2 = [] ∧ done'.1 = done.1 + os.length ∧
        t = deletedAll s (os.map Owned.place)) := by
  induction os generalizing s done with
  | nil => exact ⟨done, s, rfl, fun hnone => ⟨hnone, rfl, rfl⟩⟩
  | cons o os ih =>
      rw [List.foldlM_cons]
      rcases run_pruneOne s done o with hrun | ⟨failure, u, hrun⟩
      · rw [Action.run_bind_of_ok hrun]
        obtain ⟨done', t, hrest, hall⟩ := ih (Store.deletedAt o.place s).2 (done.1 + 1, done.2)
        refine ⟨done', t, hrest, ?_⟩
        intro hnone
        obtain ⟨hbefore, hcount, rfl⟩ := hall hnone
        refine ⟨hbefore, ?_, rfl⟩
        rw [hcount, List.length_cons]
        omega
      · rw [Action.run_bind_of_ok hrun]
        obtain ⟨done', t, hrest, hall⟩ := ih u (done.1, done.2 ++ [failure])
        refine ⟨done', t, hrest, ?_⟩
        intro hnone
        have hbefore := (hall hnone).1
        simp at hbefore

/-! ## The whole collection -/

/-- A collection deletes the orphans of the store and nothing else. -/
structure Collected (agent : Agent) (reconciled : List String) (s t : Store) : Prop where
  listable : Listable s
  sound : t.Sound
  orphan : ∀ {key object}, s.get? key = some object →
    IsOrphan agent reconciled key object → t.get? key = none
  other : ∀ {key}, (∀ object, s.get? key = some object →
    ¬ IsOrphan agent reconciled key object) → t.get? key = s.get? key
  sameFaults : s.SameFaults t

theorem sameFaults_deletedAll (s : Store) (keys : List StoreKey) :
    s.SameFaults (deletedAll s keys) := by
  induction keys generalizing s with
  | nil => exact .refl s
  | cons head rest ih => exact (Store.sameFaults_deletedAt s head).trans (ih _)

/-- The places of the orphans of a store, in the order in which they are deleted. -/
def orphanPlaces (s : Store) (agent : Agent) (reconciled : List String) : List StoreKey :=
  ((OwnedIndex.ofOwned (allOwned s agent)).orphans reconciled).map Owned.place

/-- A collection that succeeds deletes at the places of the orphans and counts them. -/
theorem deletedAll_of_run {pruned : Nat}
    (hrun : Action.run (collectGarbage Store.cluster agent reconciled) s = (.ok pruned, t)) :
    Listable s ∧ pruned = (orphanPlaces s agent reconciled).length ∧
      t = deletedAll s (orphanPlaces s agent reconciled) := by
  unfold collectGarbage at hrun
  rcases run_listOwned s agent with ⟨hlistable, hlist⟩ | ⟨-, failure, hfail⟩
  · rw [Action.run_bind_of_ok hlist] at hrun
    unfold pruneOrphans at hrun
    obtain ⟨done, u, hprune, hall⟩ := run_pruneAll s (0, [])
      ((OwnedIndex.ofOwned (allOwned s agent)).orphans reconciled)
    rw [Action.run_bind_of_ok hprune] at hrun
    obtain ⟨_, w, hgather, hreturn⟩ := Action.ok_of_run_bind hrun
    rw [Action.run_mk_pure] at hgather
    obtain ⟨hnone, rfl⟩ := Prod.mk.inj hgather
    obtain ⟨-, hcount, rfl⟩ := hall (Failure.gather_eq_ok_iff.mp hnone)
    rw [Action.run_pure] at hreturn
    obtain ⟨hpruned, rfl⟩ := Prod.mk.inj hreturn
    refine ⟨hlistable, ?_, rfl⟩
    rw [← Except.ok.inj hpruned, hcount, orphanPlaces, List.length_map]
    omega
  · rw [Action.run_bind_of_error hfail] at hrun
    simp at hrun

/-- A collection that succeeds is exact. -/
theorem collected_of_run (hs : s.Sound) {pruned : Nat}
    (hrun : Action.run (collectGarbage Store.cluster agent reconciled) s = (.ok pruned, t)) :
    Collected agent reconciled s t := by
  obtain ⟨hlistable, -, rfl⟩ := deletedAll_of_run hrun
  refine ⟨hlistable, sound_deletedAll hs _, ?_, ?_, sameFaults_deletedAll s _⟩
  · intro key object hget horphan
    have hmem : (⟨key.kind, object⟩ : Owned) ∈
        (OwnedIndex.ofOwned (allOwned s agent)).orphans reconciled :=
      (OwnedIndex.mem_orphans hs).mpr ⟨key, hget, rfl, horphan⟩
    have hplace : (⟨key.kind, object⟩ : Owned).place = key :=
      Owned.place_eq hs.arranged hget rfl
    exact get?_deletedAll_of_mem (hplace ▸ List.mem_map_of_mem hmem)
  · intro key hkeep
    apply get?_deletedAll_of_notMem
    intro hmem
    obtain ⟨o, horphan, hplace⟩ := List.mem_map.mp hmem
    obtain ⟨key', hget, hkind, hisOrphan⟩ := (OwnedIndex.mem_orphans hs).mp horphan
    have heq : key' = key := (Owned.place_eq hs.arranged hget hkind).symm.trans hplace
    subst heq
    exact hkeep _ hget hisOrphan

/-- What belongs to an agent is there at the place where it would be deleted. -/
theorem get?_place_of_mem_allOwned (hs : s.Arranged) {o : Owned} (hmem : o ∈ allOwned s agent) :
    s.get? o.place = some o.object := by
  obtain ⟨key, hget, hkind, -⟩ := (mem_allOwned hs).mp hmem
  rwa [Owned.place_eq hs hget hkind]

theorem exists_of_mem_orphanPlaces (hs : s.Arranged)
    (hmem : key ∈ orphanPlaces s agent reconciled) : ∃ object, s.get? key = some object := by
  obtain ⟨o, ho, rfl⟩ := List.mem_map.mp hmem
  obtain ⟨⟨uid, o⟩, hentry, rfl⟩ := List.mem_map.mp ho
  obtain ⟨howned, -⟩ := OwnedIndex.of_mem_entries (List.mem_filter.mp hentry).1
  exact ⟨o.object, get?_place_of_mem_allOwned hs howned⟩

/-- No place is deleted twice: orphans at one place would be one object, with one
identity. -/
theorem nodup_orphanPlaces (hs : s.Arranged) : (orphanPlaces s agent reconciled).Nodup := by
  unfold orphanPlaces OwnedIndex.orphans
  rw [List.map_map, List.Nodup, List.pairwise_map]
  have hdistinct := (OwnedIndex.ofOwned (allOwned s agent)).ordered.distinct.filter
    fun entry => !reconciled.contains entry.1
  refine hdistinct.imp_of_mem ?_
  rintro ⟨uid, o⟩ ⟨uid', o'⟩ hmem hmem' hne hplaces
  obtain ⟨howned, huid⟩ := OwnedIndex.of_mem_entries (List.mem_filter.mp hmem).1
  obtain ⟨howned', huid'⟩ := OwnedIndex.of_mem_entries (List.mem_filter.mp hmem').1
  have hget := get?_place_of_mem_allOwned hs howned
  have hget' := get?_place_of_mem_allOwned hs howned'
  have hplace : o.place = o'.place := hplaces
  rw [hplace, hget'] at hget
  have hobjects : o'.object = o.object := Option.some.inj hget
  rw [hobjects, huid] at huid'
  exact hne (Option.some.inj huid')

/-- Where every kind can be listed and nothing is an orphan, nothing happens. -/
theorem run_collectGarbage_of_clean (hs : s.Sound) (hlistable : Listable s)
    (hclean : ∀ key object, s.get? key = some object →
      ¬ IsOrphan agent reconciled key object) :
    Action.run (collectGarbage Store.cluster agent reconciled) s = (.ok 0, s) := by
  have hnone : (OwnedIndex.ofOwned (allOwned s agent)).orphans reconciled = [] := by
    rw [List.eq_nil_iff_forall_not_mem]
    intro o hmem
    obtain ⟨key, hget, -, horphan⟩ := (OwnedIndex.mem_orphans hs).mp hmem
    exact hclean key _ hget horphan
  unfold collectGarbage
  rw [Action.run_bind_of_ok (run_listOwned_of_listable hlistable agent)]
  unfold pruneOrphans
  rw [hnone]
  rfl

end AgentOperator
