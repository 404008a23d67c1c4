import AgentOperator.Proofs.Json.Record

/-!
# Records that are read back

A record that is written gives each of its fields at most one value.  Read again, each
field has the value that was written, and a field that was left out has the default that
it was left out for.
-/

namespace AgentOperator

namespace Json

variable {α : Type} {read : Json → Option α} {write : α → Json} {x : α} {x? : Option α}
  {xs : List α} {r : Record} {name : String} {fields : List (String × Option Json)}

/-! ## Values -/

/-- What is written of a value is read as that value, and is not null. -/
structure Restores (read : Json → Option α) (write : α → Json) (x : α) : Prop where
  read_write : read (write x) = some x
  isNull : (write x).isNull = false

theorem restores_str (s : String) : Restores str? str s := ⟨rfl, rfl⟩

theorem restores_bool (b : Bool) : Restores bool? bool b := ⟨rfl, rfl⟩

theorem restores_int32 (n : Int32) : Restores int32? ofInt32 n := by
  refine ⟨?_, rfl⟩
  have hlow := n.minValue_le_toInt
  have hhigh := n.toInt_lt
  exact (if_pos ⟨hlow, hhigh⟩).trans (congrArg some n.ofInt_toInt)

theorem restores_int64 (n : Int64) : Restores int64? (fun n => .int n.toInt) n := by
  refine ⟨?_, rfl⟩
  have hlow := n.minValue_le_toInt
  have hhigh := n.toInt_lt
  exact (if_pos ⟨hlow, hhigh⟩).trans (congrArg some n.ofInt_toInt)

theorem restores_list (hxs : ∀ x ∈ xs, Restores read write x) :
    Restores (list? read) (ofList write) xs := by
  refine ⟨?_, rfl⟩
  show (xs.map write).mapM read = some xs
  induction xs with
  | nil => rfl
  | cons x rest ih =>
      rw [List.forall_mem_cons] at hxs
      obtain ⟨hx, hrest⟩ := hxs
      rw [List.map_cons, List.mapM_cons, hx.read_write, ih hrest]
      rfl

theorem restores_dict (d : Dict String) : Restores (dict? str?) (ofDict str) d := by
  refine ⟨?_, rfl⟩
  have hentries (entries : List (String × String)) :
      (entries.map fun entry => (entry.1, str entry.2)).mapM
        (fun entry => (str? entry.2).map fun value => (entry.1, value)) = some entries := by
    induction entries with
    | nil => rfl
    | cons entry rest ih =>
        rw [List.map_cons, List.mapM_cons, ih]
        rfl
  have hsame : Dict.ofList d.entries = d := by
    unfold Dict.ofList
    simp only [d.ordered.ofList_eq]
  calc
    dict? str? (ofDict str d) = (some d.entries).map Dict.ofList :=
      congrArg (Option.map Dict.ofList) (hentries d.entries)
    _ = some d := congrArg some hsame

theorem exists_of_mem_list? {json : Json} (hread : list? read json = some xs) (hmem : x ∈ xs) :
    ∃ element, read element = some x := by
  cases json with
  | arr elements =>
      replace hread : elements.mapM read = some xs := hread
      induction elements generalizing xs with
      | nil =>
          obtain rfl := Option.some.inj hread
          simp at hmem
      | cons element rest ih =>
          rw [List.mapM_cons] at hread
          obtain ⟨first, hfirst, htail⟩ := Option.bind_eq_some_iff.mp hread
          obtain ⟨others, hothers, hxs⟩ := Option.bind_eq_some_iff.mp htail
          obtain rfl := Option.some.inj hxs
          rcases List.mem_cons.mp hmem with rfl | hrest
          · exact ⟨element, hfirst⟩
          · exact ih hrest hothers
  | _ => simp [list?] at hread

/-! ## Records -/

namespace Record

/-- The value that the record gives for a field, if any, is its only one. -/
def Holds (r : Record) (name : String) (value? : Option Json) : Prop :=
  r.values name = value?.toList

theorem get?_eq_head?_values (r : Record) (name : String) :
    Keyed.get? name r = (r.values name).head? := by
  induction r with
  | nil => rfl
  | cons entry rest ih =>
      obtain ⟨key, value⟩ := entry
      unfold values at ih ⊢
      by_cases hkey : key = name
      · simp [Keyed.get?, hkey]
      · simp [Keyed.get?, hkey, ih]

theorem holds_get? (hdistinct : r.Pairwise fun a b => a.1 ≠ b.1) (name : String) :
    r.Holds name (Keyed.get? name r) := by
  unfold Holds
  induction r with
  | nil => rfl
  | cons entry rest ih =>
      obtain ⟨key, value⟩ := entry
      have hrest := ih (List.Pairwise.of_cons hdistinct)
      unfold values at hrest ⊢
      by_cases hkey : key = name
      · subst hkey
        have hnone : rest.filter (fun entry => entry.1 == key) = [] := by
          rw [List.filter_eq_nil_iff]
          intro entry hmem heq
          exact List.rel_of_pairwise_cons hdistinct hmem (beq_iff_eq.mp heq).symm
        simp [Keyed.get?, hnone]
      · simp [Keyed.get?, hkey, hrest]

theorem values_filter {names : List String} (hname : name ∈ names) (r : Record) :
    Record.values (r.filter fun entry => names.contains entry.1) name = r.values name := by
  unfold values
  rw [List.filter_filter]
  congr 1
  apply List.filter_congr
  intro entry _
  by_cases heq : entry.1 = name
  · simp [heq, hname]
  · simp [heq]

theorem exists_of_optional? (hread : r.optional? name read = some (some x)) :
    ∃ json, json.isNull = false ∧ read json = some x := by
  unfold optional? at hread
  -- The last value counts, so that one found later takes the place of one found before.
  have hstep : ∀ (values : List Json) (acc : Option α),
      values.foldlM (fun _ value => if value.isNull then some none else (read value).map some)
        acc = some (some x) →
      acc = some x ∨ ∃ json, json.isNull = false ∧ read json = some x := by
    intro values
    induction values with
    | nil => exact fun acc hfold => .inl (Option.some.inj hfold)
    | cons value rest ih =>
        intro acc hfold
        rw [List.foldlM_cons] at hfold
        obtain ⟨next, hnext, hrest⟩ := Option.bind_eq_some_iff.mp hfold
        rcases ih next hrest with rfl | hfound
        · split at hnext
          · simp at hnext
          next hnull =>
            obtain ⟨found, hfound, heq⟩ := Option.map_eq_some_iff.mp hnext
            obtain rfl := Option.some.inj heq
            exact .inr ⟨value, Bool.eq_false_iff.mpr hnull, hfound⟩
        · exact .inr hfound
  rcases hstep _ _ hread with hnone | hfound
  · simp at hnone
  · exact hfound

namespace Holds

theorem get? {value? : Option Json} (hholds : r.Holds name value?) :
    Keyed.get? name r = value? := by
  rw [get?_eq_head?_values, hholds]
  cases value? <;> rfl

theorem required? (hx : Restores read write x) (hholds : r.Holds name (some (write x))) :
    r.required? name read = some x := by
  unfold Record.required?
  rw [hholds.get?, Option.bind_some, hx.read_write]

theorem defaulted? (hx : Restores read write x) (hholds : r.Holds name (some (write x)))
    (default : α) : r.defaulted? name default read = some x := by
  unfold Record.defaulted?
  rw [hholds.get?]
  exact hx.read_write

/-- A list is left out when it is empty, and no list is read as the empty one. -/
theorem defaulted?_list (hholds : r.Holds name (nonEmptyList write xs))
    (hxs : ∀ x ∈ xs, Restores read write x) :
    r.defaulted? name [] (list? read) = some xs := by
  cases xs with
  | nil =>
      unfold Record.defaulted?
      rw [hholds.get?]
      rfl
  | cons => exact hholds.defaulted? (restores_list hxs) []

theorem defaulted?_dict {d : Dict String} (hholds : r.Holds name (nonEmptyDict d)) :
    r.defaulted? name ∅ (dict? str?) = some d := by
  unfold nonEmptyDict at hholds
  split at hholds
  next hempty =>
    have hnil : d = ∅ := by
      obtain ⟨entries, hordered⟩ := d
      obtain rfl : entries = [] := List.isEmpty_iff.mp hempty
      rfl
    unfold Record.defaulted?
    rw [hholds.get?, hnil]
  next => exact hholds.defaulted? (restores_dict d) ∅

theorem optional? (hholds : r.Holds name (x?.map write))
    (hx : ∀ x, x? = some x → Restores read write x) : r.optional? name read = some x? := by
  unfold Record.optional?
  rw [hholds]
  cases x? with
  | none => rfl
  | some x =>
      obtain ⟨hread, hnull⟩ := hx x rfl
      simp [hread, hnull]

theorem filled? (hx : Restores read write x) (hholds : r.Holds name (some (write x)))
    (default : α) : r.filled? name default read = some x := by
  have hread : r.optional? name read = some (some x) :=
    Holds.optional? hholds fun y hy => Option.some.inj hy ▸ hx
  unfold Record.filled?
  rw [hread]
  rfl

end Holds

/-- The record holds what was given for each of the fields. -/
def HoldsAll (r : Record) : List (String × Option Json) → Prop
  | [] => True
  | (name, value?) :: rest => r.Holds name value? ∧ r.HoldsAll rest

theorem holdsAll_of_forall (hfields : ∀ entry ∈ fields, r.Holds entry.1 entry.2) :
    r.HoldsAll fields := by
  induction fields with
  | nil => trivial
  | cons entry rest ih =>
      rw [List.forall_mem_cons] at hfields
      exact ⟨hfields.1, ih hfields.2⟩

end Record

/-! ## Written records -/

theorem ofPresent_eq (fields : List (String × Option Json)) :
    ∃ written : Record, ofPresent fields = obj written ∧ Keyed.Ordered written :=
  ⟨_, rfl, Keyed.ordered_ofList _⟩

theorem holds_of_ofPresent_eq {written : Record}
    (hdistinct : fields.Pairwise fun a b => a.1 ≠ b.1)
    (hwritten : ofPresent fields = obj written) (hordered : Keyed.Ordered written) :
    ∀ entry ∈ fields, written.Holds entry.1 entry.2 := by
  rintro ⟨key, value?⟩ hmem
  have hchild := child?_ofPresent_of_mem hdistinct hmem
  rw [hwritten] at hchild
  have hholds := Record.holds_get? hordered.distinct key
  exact (show Keyed.get? key written = value? from hchild) ▸ hholds

/-- A plain record is read as soon as the fields of its names are read as they were
written. -/
theorem read_known {names : List String} {least : Nat} {build : Record → Option α}
    (hdistinct : fields.Pairwise fun a b => a.1 ≠ b.1)
    (hbuild : ∀ r : Record, r.HoldsAll (fields.filter fun entry => names.contains entry.1) →
      build r = some x) :
    ((ofPresent fields).record? names least >>= build) = some x := by
  obtain ⟨written, hwritten, hordered⟩ := ofPresent_eq fields
  have hknown : ((written.filter fun entry => names.contains entry.1).map Prod.fst).Nodup :=
    List.pairwise_map.mpr (hordered.distinct.filter _)
  rw [hwritten, record?]
  simp only [if_pos hknown, Option.bind_eq_bind, Option.bind_some]
  apply hbuild
  apply Record.holdsAll_of_forall
  intro entry hmem
  obtain ⟨hgiven, hname⟩ := List.mem_filter.mp hmem
  unfold Record.Holds
  rw [Record.values_filter (List.contains_iff_mem.mp hname)]
  exact holds_of_ofPresent_eq hdistinct hwritten hordered entry hgiven

theorem restores_record {names : List String} {least : Nat} {build : Record → Option α}
    {fields : α → List (String × Option Json)}
    (hdistinct : (fields x).Pairwise fun a b => a.1 ≠ b.1)
    (hnames : ∀ entry ∈ fields x, entry.1 ∈ names)
    (hbuild : ∀ r : Record, r.HoldsAll (fields x) → build r = some x) :
    Restores (fun json => json.record? names least >>= build)
      (fun x => ofPresent (fields x)) x := by
  have hall : (fields x).filter (fun entry => names.contains entry.1) = fields x :=
    List.filter_eq_self.mpr fun entry hmem => List.contains_iff_mem.mpr (hnames entry hmem)
  exact ⟨read_known hdistinct fun r hgiven => hbuild r (hall ▸ hgiven), rfl⟩

theorem restores_openRecord {build : Record → Option α}
    {fields : α → List (String × Option Json)}
    (hdistinct : (fields x).Pairwise fun a b => a.1 ≠ b.1)
    (hbuild : ∀ r : Record, r.HoldsAll (fields x) → build r = some x) :
    Restores (fun json => json.openRecord? >>= build) (fun x => ofPresent (fields x)) x := by
  obtain ⟨written, hwritten, hordered⟩ := ofPresent_eq (fields x)
  refine ⟨?_, rfl⟩
  show ((ofPresent (fields x)).openRecord? >>= build) = some x
  rw [hwritten]
  apply hbuild
  exact Record.holdsAll_of_forall (holds_of_ofPresent_eq hdistinct hwritten hordered)

end Json

end AgentOperator
