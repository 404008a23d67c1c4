/-!
# Entries kept in key order

The functions on lists of keyed entries from which every map of the library is
made. A list is in key order when its keys ascend strictly, so that each key
occurs once and two lists in key order are equal as soon as every look-up
agrees. The order is that of the code points of the keys.
-/

namespace AgentOperator.Keyed

variable {α β : Type}

def Ordered (entries : List (String × α)) : Prop :=
  entries.Pairwise fun a b => a.1 < b.1

def get? (key : String) : List (String × α) → Option α
  | [] => none
  | (k, v) :: rest => if k = key then some v else get? key rest

/-- Put a value at a key, in the place of the one that was there. -/
def insert (key : String) (value : α) : List (String × α) → List (String × α)
  | [] => [(key, value)]
  | (k, v) :: rest =>
    if key < k then (key, value) :: (k, v) :: rest
    else if k = key then (key, value) :: rest
    else (k, v) :: insert key value rest

def erase (key : String) (entries : List (String × α)) : List (String × α) :=
  entries.filter fun entry => entry.1 ≠ key

/-- Put each entry of the second list into the first, the later ones winning. -/
def merge (entries more : List (String × α)) : List (String × α) :=
  more.foldl (fun acc entry => insert entry.1 entry.2 acc) entries

/-- The list in key order that holds the last value given for each key. -/
def ofList (entries : List (String × α)) : List (String × α) :=
  merge [] entries

def keys (entries : List (String × α)) : List String :=
  entries.map Prod.fst

theorem ordered_nil : Ordered ([] : List (String × α)) := List.Pairwise.nil

theorem mem_insert {key : String} {value : α} {entries : List (String × α)}
    {entry : String × α} (h : entry ∈ insert key value entries) :
    entry = (key, value) ∨ entry ∈ entries := by
  induction entries with
  | nil => simpa [insert] using h
  | cons head rest ih =>
    obtain ⟨k, v⟩ := head
    simp only [insert] at h
    split at h
    · simpa using h
    · split at h
      · rcases List.mem_cons.1 h with h | h
        · exact .inl h
        · exact .inr (List.mem_cons_of_mem _ h)
      · rcases List.mem_cons.1 h with h | h
        · exact .inr (h ▸ List.mem_cons_self)
        · exact (ih h).imp_right (List.mem_cons_of_mem _)

theorem Ordered.insert {entries : List (String × α)} (h : Ordered entries)
    (key : String) (value : α) : Ordered (insert key value entries) := by
  induction entries with
  | nil => simp [Keyed.insert, Ordered]
  | cons head rest ih =>
    obtain ⟨k, v⟩ := head
    have tail : Ordered rest := List.Pairwise.of_cons h
    have below : ∀ entry ∈ rest, k < entry.1 := fun _ mem =>
      List.rel_of_pairwise_cons h mem
    simp only [Keyed.insert]
    split
    · next lt =>
      refine List.Pairwise.cons ?_ h
      intro entry mem
      rcases List.mem_cons.1 mem with rfl | mem
      · exact lt
      · exact String.lt_trans lt (below entry mem)
    · next ge =>
      split
      · next eq =>
        subst eq
        exact List.Pairwise.cons below tail
      · next ne =>
        refine List.Pairwise.cons ?_ (ih tail)
        intro entry mem
        rcases mem_insert mem with rfl | mem
        · by_cases lt : k < key
          · exact lt
          · exact absurd (String.le_antisymm (String.not_lt.1 ge) (String.not_lt.1 lt)) ne
        · exact below entry mem

theorem Ordered.erase {entries : List (String × α)} (h : Ordered entries)
    (key : String) : Ordered (erase key entries) :=
  List.Pairwise.filter _ h

theorem Ordered.merge {entries : List (String × α)} (h : Ordered entries)
    (more : List (String × α)) : Ordered (merge entries more) := by
  induction more generalizing entries with
  | nil => exact h
  | cons entry rest ih => exact ih (h.insert entry.1 entry.2)

theorem ordered_ofList (entries : List (String × α)) : Ordered (ofList entries) :=
  Ordered.merge ordered_nil entries

theorem Ordered.map {entries : List (String × α)} (h : Ordered entries)
    (f : String → α → β) :
    Ordered (entries.map fun entry => (entry.1, f entry.1 entry.2)) :=
  List.Pairwise.map _ (fun _ _ lt => lt) h

@[simp] theorem get?_insert_self (key : String) (value : α)
    (entries : List (String × α)) :
    get? key (insert key value entries) = some value := by
  induction entries with
  | nil => simp [insert, get?]
  | cons head rest ih =>
    obtain ⟨k, v⟩ := head
    simp only [insert]
    split
    · simp [get?]
    · split
      · simp [get?]
      · next ne => simp [get?, ne, ih]

theorem get?_insert_of_ne {key other : String} (ne : other ≠ key) (value : α)
    (entries : List (String × α)) :
    get? other (insert key value entries) = get? other entries := by
  induction entries with
  | nil => simp [insert, get?, ne.symm]
  | cons head rest ih =>
    obtain ⟨k, v⟩ := head
    simp only [insert]
    split
    · simp [get?, ne.symm]
    · split
      · next eq => subst eq; simp [get?, ne.symm]
      · simp [get?, ih]

end AgentOperator.Keyed
