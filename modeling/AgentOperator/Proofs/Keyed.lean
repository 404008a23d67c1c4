import AgentOperator.Dict

/-!
# Look-ups in lists of keyed entries

What a look-up finds in a list in key order is exactly what the list holds, and
merging one list into another gives each key the value of the second list where
it has one.
-/

namespace AgentOperator

namespace Keyed

variable {α : Type}

@[simp] theorem get?_nil (key : String) : get? key ([] : List (String × α)) = none := rfl

@[simp] theorem get?_cons_self (key : String) (value : α) (rest : List (String × α)) :
    get? key ((key, value) :: rest) = some value := if_pos rfl

@[simp] theorem get?_cons_of_ne {key other : String} (hne : other ≠ key) (value : α)
    (rest : List (String × α)) : get? key ((other, value) :: rest) = get? key rest :=
  if_neg hne

theorem mem_of_get? {key : String} {value : α} {entries : List (String × α)}
    (hget : get? key entries = some value) : (key, value) ∈ entries := by
  induction entries with
  | nil => simp [get?] at hget
  | cons head rest ih =>
      obtain ⟨k, v⟩ := head
      simp only [get?] at hget
      split at hget
      next heq =>
        obtain rfl := Option.some.inj hget
        rw [heq]
        exact List.mem_cons_self
      next => exact List.mem_cons_of_mem _ (ih hget)

theorem forall_ne_of_get?_eq_none {key : String} {entries : List (String × α)}
    (hget : get? key entries = none) : ∀ entry ∈ entries, entry.1 ≠ key := by
  induction entries with
  | nil => simp
  | cons head rest ih =>
      obtain ⟨k, v⟩ := head
      simp only [get?] at hget
      split at hget
      · simp at hget
      next hne => exact List.forall_mem_cons.mpr ⟨hne, ih hget⟩

theorem Ordered.get?_of_mem {entries : List (String × α)} (hordered : Ordered entries)
    {key : String} {value : α} (hmem : (key, value) ∈ entries) :
    get? key entries = some value := by
  induction entries with
  | nil => simp at hmem
  | cons head rest ih =>
      obtain ⟨k, v⟩ := head
      rcases List.mem_cons.mp hmem with heq | hrest
      · obtain ⟨rfl, rfl⟩ := Prod.mk.inj heq
        simp [get?]
      · have hlt : k < key := List.rel_of_pairwise_cons hordered hrest
        have hne : k ≠ key := fun heq => String.lt_irrefl key (heq ▸ hlt)
        simp only [get?, if_neg hne]
        exact ih (List.Pairwise.of_cons hordered) hrest

/-- No key of a list in key order comes before its first. -/
theorem Ordered.not_lt_head {key k : String} {v found : α} {rest : List (String × α)}
    (hordered : Ordered ((k, v) :: rest)) (hget : get? key ((k, v) :: rest) = some found) :
    ¬ key < k := by
  rcases List.mem_cons.mp (mem_of_get? hget) with heq | hmem
  · rw [(Prod.mk.inj heq).1]
    exact String.lt_irrefl k
  · have hlt : k < key := List.rel_of_pairwise_cons hordered hmem
    exact fun hgt => String.lt_irrefl key (String.lt_trans hgt hlt)

/-- The first key of a list in key order does not occur again. -/
theorem Ordered.get?_tail {key : String} {value : α} {rest : List (String × α)}
    (hordered : Ordered ((key, value) :: rest)) : get? key rest = none := by
  cases hget : get? key rest with
  | none => rfl
  | some found =>
      have hlt : key < key := List.rel_of_pairwise_cons hordered (mem_of_get? hget)
      exact absurd hlt (String.lt_irrefl key)

/-- Merging leaves the keys that the second list does not have. -/
theorem get?_merge_of_forall_ne {key : String} {entries more : List (String × α)}
    (hne : ∀ entry ∈ more, entry.1 ≠ key) :
    get? key (merge entries more) = get? key entries := by
  induction more generalizing entries with
  | nil => rfl
  | cons head rest ih =>
      have htail : ∀ entry ∈ rest, entry.1 ≠ key := fun entry hmem =>
        hne entry (List.mem_cons_of_mem _ hmem)
      calc
        get? key (merge entries (head :: rest)) =
            get? key (insert head.1 head.2 entries) := ih htail
        _ = get? key entries :=
          get?_insert_of_ne (hne head List.mem_cons_self).symm _ _

theorem Ordered.distinct {entries : List (String × α)} (hordered : Ordered entries) :
    entries.Pairwise fun a b => a.1 ≠ b.1 := by
  refine List.Pairwise.imp ?_ hordered
  intro a b hlt heq
  rw [heq] at hlt
  exact String.lt_irrefl _ hlt

/-- Merging gives the keys of a second list that names each key once their values
there. -/
theorem get?_merge_of_mem {key : String} {value : α}
    {entries more : List (String × α)} (hdistinct : more.Pairwise fun a b => a.1 ≠ b.1)
    (hmem : (key, value) ∈ more) :
    get? key (merge entries more) = some value := by
  induction more generalizing entries with
  | nil => simp at hmem
  | cons head rest ih =>
      rcases List.mem_cons.mp hmem with rfl | hrest
      · have hlater : ∀ entry ∈ rest, entry.1 ≠ key := fun entry hentry =>
          (List.rel_of_pairwise_cons hdistinct hentry).symm
        show get? key (merge (insert key value entries) rest) = _
        rw [get?_merge_of_forall_ne hlater, get?_insert_self]
      · exact ih (List.Pairwise.of_cons hdistinct) hrest

theorem get?_merge {entries more : List (String × α)} (hordered : Ordered more)
    (key : String) :
    get? key (merge entries more) = (get? key more).or (get? key entries) := by
  cases hget : get? key more with
  | some value => exact get?_merge_of_mem hordered.distinct (mem_of_get? hget)
  | none =>
      apply get?_merge_of_forall_ne
      intro entry hmem heq
      have hfound : get? entry.1 more = some entry.2 := hordered.get?_of_mem hmem
      rw [heq, hget] at hfound
      simp at hfound

/-- Putting the value that is there at a key changes nothing. -/
theorem Ordered.insert_of_get? {entries : List (String × α)} (hordered : Ordered entries)
    {key : String} {value : α} (hget : get? key entries = some value) :
    Keyed.insert key value entries = entries := by
  induction entries with
  | nil => simp [get?] at hget
  | cons head rest ih =>
      obtain ⟨k, v⟩ := head
      rw [Keyed.insert]
      by_cases heq : k = key
      · subst heq
        simp only [get?, if_true] at hget
        rw [if_neg (String.lt_irrefl k), if_pos rfl, Option.some.inj hget]
      · simp only [get?, if_neg heq] at hget
        have hlt : k < key := List.rel_of_pairwise_cons hordered (mem_of_get? hget)
        have hnot : ¬ key < k := fun hgt => String.lt_irrefl key (String.lt_trans hgt hlt)
        rw [if_neg hnot, if_neg heq, ih (List.Pairwise.of_cons hordered) hget]

/-- The second of two values at a key wins. -/
theorem insert_insert_self (key : String) (value newer : α) (entries : List (String × α)) :
    Keyed.insert key newer (Keyed.insert key value entries) =
      Keyed.insert key newer entries := by
  induction entries with
  | nil => simp [Keyed.insert]
  | cons head rest ih =>
      obtain ⟨k, v⟩ := head
      rw [Keyed.insert, Keyed.insert]
      by_cases hlt : key < k
      · rw [if_pos hlt, if_pos hlt, Keyed.insert, if_neg (String.lt_irrefl key), if_pos rfl]
      · rw [if_neg hlt, if_neg hlt]
        by_cases heq : k = key
        · subst heq
          rw [if_pos rfl, if_pos rfl, Keyed.insert, if_neg hlt, if_pos rfl]
        · rw [if_neg heq, if_neg heq, Keyed.insert, if_neg hlt, if_neg heq, ih]

/-- Merging what is there already changes nothing. -/
theorem Ordered.merge_of_get? {entries more : List (String × α)} (hordered : Ordered entries)
    (hheld : ∀ entry ∈ more, get? entry.1 entries = some entry.2) :
    Keyed.merge entries more = entries := by
  induction more with
  | nil => rfl
  | cons head rest ih =>
      rw [List.forall_mem_cons] at hheld
      have hinsert : Keyed.insert head.1 head.2 entries = entries :=
        hordered.insert_of_get? hheld.1
      show Keyed.merge (Keyed.insert head.1 head.2 entries) rest = entries
      rw [hinsert]
      exact ih hheld.2

theorem Ordered.merge_merge_self {entries more : List (String × α)}
    (hordered : Ordered entries) (hmore : Ordered more) :
    Keyed.merge (Keyed.merge entries more) more = Keyed.merge entries more :=
  (hordered.merge more).merge_of_get? fun _ hmem =>
    get?_merge_of_mem hmore.distinct hmem

/-- A key that is filtered out may as well not be put in. -/
theorem filter_insert {p : String → Bool} {key : String} (hkey : p key = false) (value : α)
    (entries : List (String × α)) :
    (insert key value entries).filter (fun entry => p entry.1) =
      entries.filter fun entry => p entry.1 := by
  induction entries with
  | nil => simp [insert, hkey]
  | cons head rest ih =>
      obtain ⟨k, v⟩ := head
      rw [insert]
      split
      · simp [hkey]
      · split
        next heq => simp [heq, hkey]
        next => rw [List.filter_cons, List.filter_cons, ih]

theorem get?_map_snd {β : Type} (f : α → β) (key : String) (entries : List (String × α)) :
    get? key (entries.map fun entry => (entry.1, f entry.2)) = (get? key entries).map f := by
  induction entries with
  | nil => rfl
  | cons head rest ih =>
      obtain ⟨k, v⟩ := head
      simp only [List.map_cons, get?]
      split
      · rfl
      · exact ih

theorem get?_filter_key (keep : String → Bool) (key : String) (entries : List (String × α)) :
    get? key (entries.filter fun entry => keep entry.1) =
      if keep key then get? key entries else none := by
  induction entries with
  | nil => simp
  | cons head rest ih =>
      obtain ⟨k, v⟩ := head
      rw [List.filter_cons]
      by_cases hkey : k = key
      · subst hkey
        cases hkeep : keep k <;> simp [ih, hkeep]
      · rw [get?_cons_of_ne hkey, ← ih]
        split
        · exact get?_cons_of_ne hkey _ _
        · rfl

/-! ## Lists that are put in order -/

theorem mem_of_mem_merge {entries more : List (String × α)} {entry : String × α}
    (hmem : entry ∈ merge entries more) : entry ∈ entries ∨ entry ∈ more := by
  induction more generalizing entries with
  | nil => exact .inl hmem
  | cons head rest ih =>
      rcases ih hmem with hfirst | hrest
      · rcases mem_insert hfirst with rfl | hold
        · exact .inr List.mem_cons_self
        · exact .inl hold
      · exact .inr (List.mem_cons_of_mem _ hrest)

theorem mem_of_mem_ofList {entries : List (String × α)} {entry : String × α}
    (hmem : entry ∈ ofList entries) : entry ∈ entries := by
  rcases mem_of_mem_merge hmem with hnil | hentries
  · simp at hnil
  · exact hentries

theorem get?_ofList_of_mem {key : String} {value : α} {entries : List (String × α)}
    (hdistinct : entries.Pairwise fun a b => a.1 ≠ b.1) (hmem : (key, value) ∈ entries) :
    get? key (ofList entries) = some value :=
  get?_merge_of_mem hdistinct hmem

theorem insert_of_forall_lt {key : String} {entries : List (String × α)}
    (hlt : ∀ entry ∈ entries, entry.1 < key) (value : α) :
    insert key value entries = entries ++ [(key, value)] := by
  induction entries with
  | nil => rfl
  | cons head rest ih =>
      obtain ⟨k, v⟩ := head
      rw [List.forall_mem_cons] at hlt
      obtain ⟨hhead, hrest⟩ := hlt
      have hnot : ¬ key < k := fun hgt => String.lt_irrefl key (String.lt_trans hgt hhead)
      have hne : k ≠ key := fun heq => String.lt_irrefl key (heq ▸ hhead)
      rw [insert, if_neg hnot, if_neg hne, ih hrest, List.cons_append]

theorem insert_of_forall_gt {key : String} {entries : List (String × α)}
    (hgt : ∀ entry ∈ entries, key < entry.1) (value : α) :
    insert key value entries = (key, value) :: entries := by
  cases entries with
  | nil => rfl
  | cons head rest => exact if_pos (hgt head List.mem_cons_self)

/-- Merging what comes after all that is there puts it behind that. -/
theorem Ordered.merge_eq_append {entries more : List (String × α)}
    (hordered : Ordered (entries ++ more)) : Keyed.merge entries more = entries ++ more := by
  induction more generalizing entries with
  | nil => rw [List.append_nil]; rfl
  | cons head rest ih =>
      obtain ⟨-, -, hbefore⟩ := List.pairwise_append.mp hordered
      have hinsert : Keyed.insert head.1 head.2 entries = entries ++ [head] :=
        insert_of_forall_lt (fun entry hmem => hbefore entry hmem head List.mem_cons_self) _
      show Keyed.merge (Keyed.insert head.1 head.2 entries) rest = _
      rw [hinsert, ih (by rwa [List.append_assoc]), List.append_assoc]
      rfl

theorem Ordered.ofList_eq {entries : List (String × α)} (hordered : Ordered entries) :
    ofList entries = entries :=
  (show Ordered ([] ++ entries) from hordered).merge_eq_append

/-- Sorted by their keys, entries in any order are in key order again. -/
theorem Ordered.mergeSort_eq_of_perm {entries shuffled : List (String × α)}
    (hordered : Ordered entries) (hperm : shuffled.Perm entries) :
    shuffled.mergeSort (fun a b => a.1 ≤ b.1) = entries := by
  have hsorted : (shuffled.mergeSort fun a b => a.1 ≤ b.1).Pairwise
      fun a b => decide (a.1 ≤ b.1) = true := by
    apply List.pairwise_mergeSort
    · intro a b c hab hbc
      simp only [decide_eq_true_eq] at *
      exact String.le_trans hab hbc
    · intro a b
      simp only [Bool.or_eq_true, decide_eq_true_eq]
      exact String.le_total a.1 b.1
  have hsorted' : entries.Pairwise fun a b => decide (a.1 ≤ b.1) = true := by
    refine List.Pairwise.imp ?_ hordered
    intro a b hlt
    exact decide_eq_true (String.not_lt.1 (String.lt_asymm hlt))
  have hsame := (List.mergeSort_perm shuffled fun a b => decide (a.1 ≤ b.1)).trans hperm
  refine List.Perm.eq_of_pairwise ?_ hsorted hsorted' hsame
  -- Of two entries with one key each is what the look-up of that key finds.
  rintro ⟨key, value⟩ ⟨other, found⟩ hin hmem hle hge
  simp only [decide_eq_true_eq] at hle hge
  obtain rfl := String.le_antisymm hle hge
  have hvalue := hordered.get?_of_mem (hsame.mem_iff.mp hin)
  rw [hordered.get?_of_mem hmem] at hvalue
  rw [Option.some.inj hvalue]

theorem get?_ofList_of_forall_ne {key : String} {entries : List (String × α)}
    (hne : ∀ entry ∈ entries, entry.1 ≠ key) : get? key (ofList entries) = none :=
  get?_merge_of_forall_ne hne

end Keyed

namespace Dict

variable {α : Type}

theorem get?_of_mem (d : Dict α) {key : String} {value : α}
    (hmem : (key, value) ∈ d.entries) : d.get? key = some value :=
  d.ordered.get?_of_mem hmem

theorem mem_of_get? {d : Dict α} {key : String} {value : α}
    (hget : d.get? key = some value) : (key, value) ∈ d.entries :=
  Keyed.mem_of_get? hget

theorem get?_merge (d more : Dict α) (key : String) :
    (d.merge more).get? key = (more.get? key).or (d.get? key) :=
  Keyed.get?_merge more.ordered key

theorem eq_empty_of_isEmpty {d : Dict α} (hempty : d.isEmpty = true) : d = ∅ := by
  rcases d with ⟨entries, hordered⟩
  obtain rfl : entries = [] := List.isEmpty_iff.mp hempty
  rfl

theorem get?_filterKeys (d : Dict α) (keep : String → Bool) (key : String) :
    (d.filterKeys keep).get? key = if keep key then d.get? key else none :=
  Keyed.get?_filter_key keep key d.entries

theorem merge_merge_self (d more : Dict α) :
    (d.merge more).merge more = d.merge more := by
  have hentries := d.ordered.merge_merge_self more.ordered
  unfold merge
  simp only [hentries]

end Dict

end AgentOperator
