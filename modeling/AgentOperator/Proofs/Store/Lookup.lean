import AgentOperator.Store.Basic

/-!
# Look-ups in a store

The order of places is a strict total order, and putting an object at its place
keeps the list of objects in that order.  In a list in order an object is found
at a place exactly when the list holds it there, which is how the listings of a
store and its look-ups come to speak of the same objects.
-/

namespace AgentOperator

namespace StoreKey

theorem isBefore_irrefl (key : StoreKey) : key.isBefore key = false := by
  simp [isBefore]

theorem ne_of_isBefore {a b : StoreKey} (hbefore : a.isBefore b = true) : a ≠ b := by
  rintro rfl
  rw [isBefore_irrefl] at hbefore
  simp at hbefore

/-- The order of places compares kinds first, then namespaces, then names. -/
theorem isBefore_iff {a b : StoreKey} :
    a.isBefore b = true ↔
      a.kind.index < b.kind.index ∨
        a.kind = b.kind ∧ (a.space < b.space ∨ a.space = b.space ∧ a.name < b.name) := by
  unfold isBefore
  by_cases hkind : a.kind = b.kind
  · by_cases hspace : a.space = b.space
    · simp [hkind, hspace]
    · simp [hkind, hspace]
  · simp [hkind]

theorem isBefore_trans {a b c : StoreKey} (hab : a.isBefore b = true)
    (hbc : b.isBefore c = true) : a.isBefore c = true := by
  rw [isBefore_iff] at *
  rcases hab with hab | ⟨hkind, hab⟩
  · rcases hbc with hbc | ⟨hkind', -⟩
    · left
      omega
    · left
      rwa [← hkind']
  · rcases hbc with hbc | ⟨hkind', hbc⟩
    · left
      rwa [hkind]
    · right
      refine ⟨hkind.trans hkind', ?_⟩
      rcases hab with hab | ⟨hspace, hab⟩
      · rcases hbc with hbc | ⟨hspace', -⟩
        · exact .inl (String.lt_trans hab hbc)
        · exact .inl (hspace' ▸ hab)
      · rcases hbc with hbc | ⟨hspace', hbc⟩
        · exact .inl (hspace ▸ hbc)
        · exact .inr ⟨hspace.trans hspace', String.lt_trans hab hbc⟩

theorem lt_or_eq_or_gt (a b : String) : a < b ∨ a = b ∨ b < a := by
  by_cases hlt : a < b
  · exact .inl hlt
  · by_cases hgt : b < a
    · exact .inr (.inr hgt)
    · exact .inr (.inl (String.le_antisymm (String.not_lt.1 hgt) (String.not_lt.1 hlt)))

theorem isBefore_of_not {a b : StoreKey} (hne : a ≠ b) (hnot : ¬ a.isBefore b = true) :
    b.isBefore a = true := by
  rw [isBefore_iff] at *
  have hindex : a.kind.index < b.kind.index ∨ a.kind.index = b.kind.index ∨
      b.kind.index < a.kind.index := by omega
  rcases hindex with hlt | heq | hgt
  · exact absurd (.inl hlt) hnot
  · have hkind : a.kind = b.kind := Kind.index_injective heq
    rcases lt_or_eq_or_gt a.space b.space with hlt | hspace | hgt
    · exact absurd (.inr ⟨hkind, .inl hlt⟩) hnot
    · rcases lt_or_eq_or_gt a.name b.name with hlt | hname | hgt
      · exact absurd (.inr ⟨hkind, .inr ⟨hspace, hlt⟩⟩) hnot
      · refine absurd ?_ hne
        cases a
        cases b
        simp_all
      · exact .inr ⟨hkind.symm, .inr ⟨hspace.symm, hgt⟩⟩
    · exact .inr ⟨hkind.symm, .inl hgt⟩
  · exact .inl hgt

end StoreKey

namespace Store

variable {s t : Store} {key other : StoreKey} {object : Object}

/-! ## Reading what was put -/

/-- A look-up reads the objects and nothing else. -/
theorem get?_congr (hobjects : t.objects = s.objects) (key : StoreKey) :
    t.get? key = s.get? key := by
  unfold get?
  rw [hobjects]

theorem find?_putEntry_self (key : StoreKey) (object : Object)
    (entries : List (StoreKey × Object)) :
    (putEntry key object entries).find? (fun entry => entry.1 == key) =
      some (key, object) := by
  induction entries with
  | nil => simp [putEntry]
  | cons entry rest ih =>
      obtain ⟨k, o⟩ := entry
      unfold putEntry
      by_cases heq : k = key
      · simp [heq]
      · rw [if_neg heq]
        by_cases hbefore : key.isBefore k = true
        · simp [hbefore]
        · rw [if_neg hbefore, List.find?_cons_of_neg (by simpa using heq)]
          exact ih

theorem find?_putEntry_of_ne (hne : other ≠ key) (object : Object)
    (entries : List (StoreKey × Object)) :
    (putEntry key object entries).find? (fun entry => entry.1 == other) =
      entries.find? (fun entry => entry.1 == other) := by
  induction entries with
  | nil => simp [putEntry, hne.symm]
  | cons entry rest ih =>
      obtain ⟨k, o⟩ := entry
      unfold putEntry
      by_cases heq : k = key
      · subst heq
        simp [hne.symm]
      · rw [if_neg heq]
        by_cases hbefore : key.isBefore k = true
        · rw [if_pos hbefore, List.find?_cons_of_neg (by simpa using hne.symm)]
        · rw [if_neg hbefore]
          by_cases hother : k = other
          · simp [hother]
          · rw [List.find?_cons_of_neg (by simpa using hother),
              List.find?_cons_of_neg (by simpa using hother)]
            exact ih

theorem get?_of_putEntry (hobjects : t.objects = putEntry key object s.objects) :
    t.get? key = some object := by
  unfold get?
  rw [hobjects, find?_putEntry_self]
  rfl

theorem get?_of_putEntry_of_ne (hobjects : t.objects = putEntry key object s.objects)
    (hne : other ≠ key) : t.get? other = s.get? other := by
  unfold get?
  rw [hobjects, find?_putEntry_of_ne hne]

@[simp] theorem get?_remove_self (s : Store) (key : StoreKey) :
    (s.remove key).get? key = none := by
  unfold get? remove
  rw [List.find?_filter, List.find?_eq_none.mpr]
  · rfl
  · intro entry _
    simp

theorem get?_remove_of_ne (s : Store) (hne : other ≠ key) :
    (s.remove key).get? other = s.get? other := by
  unfold get? remove
  rw [List.find?_filter]
  congr 2
  funext entry
  by_cases heq : entry.1 = other
  · simp [heq, hne]
  · simp [heq]

/-! ## Objects in order -/

/-- The places of the list ascend strictly. -/
def InOrder (entries : List (StoreKey × Object)) : Prop :=
  entries.Pairwise fun a b => a.1.isBefore b.1 = true

theorem mem_putEntry {entries : List (StoreKey × Object)} {entry : StoreKey × Object}
    (hmem : entry ∈ putEntry key object entries) :
    entry = (key, object) ∨ entry ∈ entries := by
  induction entries with
  | nil => simpa [putEntry] using hmem
  | cons head rest ih =>
      obtain ⟨k, o⟩ := head
      unfold putEntry at hmem
      split at hmem
      · rcases List.mem_cons.mp hmem with hnew | hold
        · exact .inl hnew
        · exact .inr (List.mem_cons_of_mem _ hold)
      · split at hmem
        · exact List.mem_cons.mp hmem
        · rcases List.mem_cons.mp hmem with hhead | hrest
          · exact .inr (hhead ▸ List.mem_cons_self)
          · exact (ih hrest).imp_right (List.mem_cons_of_mem _)

theorem InOrder.putEntry {entries : List (StoreKey × Object)} (horder : InOrder entries)
    (key : StoreKey) (object : Object) : InOrder (putEntry key object entries) := by
  induction entries with
  | nil => simp [Store.putEntry, InOrder]
  | cons head rest ih =>
      obtain ⟨k, o⟩ := head
      have hbelow : ∀ entry ∈ rest, k.isBefore entry.1 = true := fun _ hmem =>
        List.rel_of_pairwise_cons horder hmem
      have htail : InOrder rest := List.Pairwise.of_cons horder
      unfold Store.putEntry
      by_cases heq : k = key
      · rw [if_pos heq]
        exact List.Pairwise.cons (fun entry hmem => heq ▸ hbelow entry hmem) htail
      · rw [if_neg heq]
        by_cases hbefore : key.isBefore k = true
        · rw [if_pos hbefore]
          refine List.Pairwise.cons ?_ horder
          intro entry hmem
          rcases List.mem_cons.mp hmem with rfl | hrest
          · exact hbefore
          · exact StoreKey.isBefore_trans hbefore (hbelow entry hrest)
        · rw [if_neg hbefore]
          refine List.Pairwise.cons ?_ (ih htail)
          intro entry hmem
          rcases mem_putEntry hmem with rfl | hrest
          · exact StoreKey.isBefore_of_not (Ne.symm heq) hbefore
          · exact hbelow entry hrest

theorem find?_eq_some_of_mem {entries : List (StoreKey × Object)}
    (horder : InOrder entries) (hmem : (key, object) ∈ entries) :
    entries.find? (fun entry => entry.1 == key) = some (key, object) := by
  induction entries with
  | nil => simp at hmem
  | cons head rest ih =>
      rcases List.mem_cons.mp hmem with rfl | hrest
      · simp
      · have hbefore : head.1.isBefore key = true := List.rel_of_pairwise_cons horder hrest
        have hne : head.1 ≠ key := StoreKey.ne_of_isBefore hbefore
        rw [List.find?_cons_of_neg (by simpa using hne)]
        exact ih (List.Pairwise.of_cons horder) hrest

theorem mem_of_get? (hget : s.get? key = some object) : (key, object) ∈ s.objects := by
  unfold get? at hget
  obtain ⟨⟨k, o⟩, hfind, rfl⟩ := Option.map_eq_some_iff.mp hget
  have hkey : k = key := by simpa using List.find?_some hfind
  exact hkey ▸ List.mem_of_find?_eq_some hfind

theorem mem_objects_iff (horder : InOrder s.objects) :
    (key, object) ∈ s.objects ↔ s.get? key = some object := by
  constructor
  · intro hmem
    unfold get?
    rw [find?_eq_some_of_mem horder hmem]
    rfl
  · exact mem_of_get?

/-! ## How many objects there are -/

theorem length_putEntry_of_forall_ne {entries : List (StoreKey × Object)}
    (hne : ∀ entry ∈ entries, entry.1 ≠ key) (object : Object) :
    (putEntry key object entries).length = entries.length + 1 := by
  induction entries with
  | nil => rfl
  | cons head rest ih =>
      obtain ⟨k, o⟩ := head
      obtain ⟨hhead, htail⟩ := List.forall_mem_cons.mp hne
      unfold putEntry
      rw [if_neg hhead]
      split
      · rfl
      · rw [List.length_cons, List.length_cons, ih htail]

theorem length_putEntry_of_mem {entries : List (StoreKey × Object)} (horder : InOrder entries)
    {live : Object} (hmem : (key, live) ∈ entries) (object : Object) :
    (putEntry key object entries).length = entries.length := by
  induction entries with
  | nil => simp at hmem
  | cons head rest ih =>
      obtain ⟨k, o⟩ := head
      unfold putEntry
      rcases List.mem_cons.mp hmem with hhead | hrest
      · rw [if_pos (Prod.mk.inj hhead).1.symm]
        rfl
      · have hbefore : k.isBefore key = true := List.rel_of_pairwise_cons horder hrest
        have hnot : ¬ key.isBefore k = true := fun hafter =>
          StoreKey.ne_of_isBefore (StoreKey.isBefore_trans hbefore hafter) rfl
        rw [if_neg (StoreKey.ne_of_isBefore hbefore), if_neg hnot, List.length_cons,
          List.length_cons, ih (List.Pairwise.of_cons horder) hrest]

theorem length_filter_ne_of_mem {entries : List (StoreKey × Object)}
    (horder : InOrder entries) {live : Object} (hmem : (key, live) ∈ entries) :
    (entries.filter fun entry => entry.1 ≠ key).length + 1 = entries.length := by
  induction entries with
  | nil => simp at hmem
  | cons head rest ih =>
      have hbelow : ∀ entry ∈ rest, head.1.isBefore entry.1 = true := fun _ hmem =>
        List.rel_of_pairwise_cons horder hmem
      rcases List.mem_cons.mp hmem with rfl | hrest
      · have hkept : (rest.filter fun entry => entry.1 ≠ key) = rest := by
          refine List.filter_eq_self.mpr fun entry hentry => ?_
          simpa using (StoreKey.ne_of_isBefore (hbelow entry hentry)).symm
        rw [List.filter_cons_of_neg (by simp), hkept, List.length_cons]
      · have hne : head.1 ≠ key := StoreKey.ne_of_isBefore (hbelow _ hrest)
        rw [List.filter_cons_of_pos (by simpa using hne), List.length_cons, List.length_cons,
          ih (List.Pairwise.of_cons horder) hrest]

theorem length_of_put_at_none (hobjects : t.objects = putEntry key object s.objects)
    (hnone : s.get? key = none) : t.objects.length = s.objects.length + 1 := by
  rw [hobjects, length_putEntry_of_forall_ne]
  intro entry hmem hkey
  unfold get? at hnone
  rw [Option.map_eq_none_iff, List.find?_eq_none] at hnone
  exact hnone entry hmem (by simpa using hkey)

theorem length_of_put_at_some (horder : InOrder s.objects)
    (hobjects : t.objects = putEntry key object s.objects) {live : Object}
    (hlive : s.get? key = some live) : t.objects.length = s.objects.length := by
  rw [hobjects, length_putEntry_of_mem horder (mem_of_get? hlive)]

theorem length_of_remove (horder : InOrder s.objects)
    (hobjects : t.objects = (s.remove key).objects) {live : Object}
    (hlive : s.get? key = some live) : t.objects.length + 1 = s.objects.length := by
  rw [hobjects]
  exact length_filter_ne_of_mem horder (mem_of_get? hlive)

/-! ## Listings -/

/-- What is listed is what is found at the places of the kind and the namespace,
as far as it is selected. -/
theorem mem_listed_iff (horder : InOrder s.objects) {kind : Kind}
    {space selector : String} :
    object ∈ s.listed kind space selector ↔
      ∃ name, s.get? ⟨kind, space, name⟩ = some object ∧
        isSelected object selector = true := by
  unfold listed
  constructor
  · intro hmem
    obtain ⟨⟨⟨k, sp, name⟩, o⟩, hentry, rfl⟩ := List.mem_map.mp hmem
    obtain ⟨hstored, htest⟩ := List.mem_filter.mp hentry
    simp only [Bool.and_eq_true, beq_iff_eq] at htest
    obtain ⟨⟨rfl, rfl⟩, hselected⟩ := htest
    exact ⟨name, (mem_objects_iff horder).mp hstored, hselected⟩
  · rintro ⟨name, hget, hselected⟩
    refine List.mem_map.mpr ⟨(⟨kind, space, name⟩, object), ?_, rfl⟩
    refine List.mem_filter.mpr ⟨mem_of_get? hget, ?_⟩
    simp [hselected]

end Store

end AgentOperator
