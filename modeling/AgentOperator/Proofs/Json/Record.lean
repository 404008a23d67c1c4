import AgentOperator.Agent.Spec
import AgentOperator.Proofs.Json.Path

/-!
# Values that are written

What is written for a record is canonical as soon as the values of its fields
are, and it has at each field what was given for it.  The settings that agents
hand through to their containers are such records.
-/

namespace AgentOperator

namespace Json

/-! ## Fields -/

theorem fieldsOrNone_mkObj (fields : List (String × Json)) :
    (mkObj fields).fieldsOrNone = Keyed.ofList fields := rfl

theorem child?_mkObj {fields : List (String × Json)} {key : String} {value : Json}
    (hdistinct : fields.Pairwise fun a b => a.1 ≠ b.1) (hmem : (key, value) ∈ fields) :
    (mkObj fields).child? key = some value :=
  Keyed.get?_ofList_of_mem hdistinct hmem

theorem child?_ofPresent_of_forall_ne {fields : List (String × Option Json)}
    {key : String} (hne : ∀ entry ∈ fields, entry.2 ≠ none → entry.1 ≠ key) :
    (ofPresent fields).child? key = none := by
  apply Keyed.get?_ofList_of_forall_ne
  intro entry hentry
  obtain ⟨⟨k, value?⟩, hfield, hsome⟩ := List.mem_filterMap.mp hentry
  obtain ⟨value, hvalue, rfl⟩ := Option.map_eq_some_iff.mp hsome
  refine hne _ hfield ?_
  rw [hvalue]
  simp

/-- A record has at a field what was given for it. -/
theorem child?_ofPresent {fields : List (String × Option Json)} {key : String}
    {value : Json} (hdistinct : fields.Pairwise fun a b => a.1 ≠ b.1)
    (hmem : (key, some value) ∈ fields) :
    (ofPresent fields).child? key = some value := by
  apply Keyed.get?_ofList_of_mem
  · refine List.Pairwise.filterMap _ ?_ hdistinct
    intro a b hne a' ha b' hb
    obtain ⟨_, -, rfl⟩ := Option.map_eq_some_iff.mp ha
    obtain ⟨_, -, rfl⟩ := Option.map_eq_some_iff.mp hb
    exact hne
  · exact List.mem_filterMap.mpr ⟨_, hmem, rfl⟩

/-- What was left out of a record is not in it. -/
theorem child?_ofPresent_of_mem {fields : List (String × Option Json)} {key : String}
    {value? : Option Json} (hdistinct : fields.Pairwise fun a b => a.1 ≠ b.1)
    (hmem : (key, value?) ∈ fields) : (ofPresent fields).child? key = value? := by
  cases value? with
  | some value => exact child?_ofPresent hdistinct hmem
  | none =>
      apply child?_ofPresent_of_forall_ne
      rintro ⟨other, given?⟩ hentry hgiven rfl
      have hfound := Keyed.get?_ofList_of_mem hdistinct hentry
      rw [Keyed.get?_ofList_of_mem hdistinct hmem] at hfound
      exact hgiven (Option.some.inj hfound).symm

/-! ## Reading at paths -/

/-- Where each key is given once, reading a record is looking a key up in what was given. -/
@[simp] theorem at?_mkObj_cons {fields : List (String × Json)}
    (hdistinct : fields.Pairwise fun a b => a.1 ≠ b.1) (key : String) (rest : Path) :
    (mkObj fields).at? (key :: rest) =
      (Keyed.get? key fields).bind fun value => value.at? rest := by
  have hchild : (mkObj fields).child? key = Keyed.get? key fields := by
    cases hget : Keyed.get? key fields with
    | some value => exact child?_mkObj hdistinct (Keyed.mem_of_get? hget)
    | none => exact Keyed.get?_ofList_of_forall_ne (Keyed.forall_ne_of_get?_eq_none hget)
  show ((mkObj fields).child? key).bind (fun value => value.at? rest) = _
  rw [hchild]

/-- What was not given for a record cannot be read from it. -/
@[simp] theorem at?_ofPresent_cons {fields : List (String × Option Json)}
    (hdistinct : fields.Pairwise fun a b => a.1 ≠ b.1) (key : String) (rest : Path) :
    (ofPresent fields).at? (key :: rest) =
      (Keyed.get? key fields).join.bind fun value => value.at? rest := by
  have hchild : (ofPresent fields).child? key = (Keyed.get? key fields).join := by
    cases hget : Keyed.get? key fields with
    | none =>
        apply child?_ofPresent_of_forall_ne
        exact fun entry hentry _ => Keyed.forall_ne_of_get?_eq_none hget entry hentry
    | some value? => exact child?_ofPresent_of_mem hdistinct (Keyed.mem_of_get? hget)
  show ((ofPresent fields).child? key).bind (fun value => value.at? rest) = _
  rw [hchild]

@[simp] theorem at?_nil (value : Json) : value.at? [] = some value := rfl

@[simp] theorem at?_ofDict_str (d : Dict String) (key : String) :
    (ofDict str d).at? [key] = (d.get? key).map str := by
  show (Keyed.get? key (d.entries.map fun entry => (entry.1, str entry.2))).bind some = _
  rw [Keyed.get?_map_snd]
  exact Option.bind_fun_some _

/-- The elements of the list at a path of a value, none if there is no list. -/
def listAt (value : Json) (path : Path) : List Json :=
  ((value.at? path).bind arr?).getD []

theorem listAt_of_arr {elements : List Json} {value : Json} {path : Path}
    (hat : value.at? path = some (arr elements)) : value.listAt path = elements := by
  unfold listAt
  rw [hat]
  rfl

theorem listAt_of_ofList {α : Type} {f : α → Json} {xs : List α} {value : Json} {path : Path}
    (hat : value.at? path = some (ofList f xs)) : value.listAt path = xs.map f :=
  listAt_of_arr hat

theorem listAt_of_nonEmptyList {α : Type} {f : α → Json} {xs : List α} {value : Json}
    {path : Path} (hat : value.at? path = nonEmptyList f xs) :
    value.listAt path = xs.map f := by
  unfold listAt
  rw [hat]
  cases xs <;> rfl

/-! ## Canonical values -/

@[simp] theorem canonical_null : Json.null.Canonical := .null

@[simp] theorem canonical_bool (b : Bool) : (Json.bool b).Canonical := .bool b

@[simp] theorem canonical_int (n : Int) : (Json.int n).Canonical := .int n

@[simp] theorem canonical_str (s : String) : (Json.str s).Canonical := .str s

@[simp] theorem canonical_ofInt32 (n : Int32) : (Json.ofInt32 n).Canonical := .int _

@[simp] theorem canonical_arr_iff {elements : List Json} :
    (Json.arr elements).Canonical ↔ ∀ element ∈ elements, element.Canonical := by
  constructor
  · intro hcanonical
    cases hcanonical with
    | arr _ hinside => exact hinside
  · exact .arr elements

theorem canonical_mkObj {fields : List (String × Json)}
    (hinside : ∀ entry ∈ fields, entry.2.Canonical) : (mkObj fields).Canonical :=
  .obj _ (Keyed.ordered_ofList fields) fun entry hmem =>
    hinside entry (Keyed.mem_of_mem_ofList hmem)

/-- Where each key is given once every value given is kept. -/
@[simp] theorem canonical_mkObj_iff {fields : List (String × Json)}
    (hdistinct : fields.Pairwise fun a b => a.1 ≠ b.1) :
    (mkObj fields).Canonical ↔ ∀ entry ∈ fields, entry.2.Canonical := by
  constructor
  · intro hcanonical entry hmem
    exact hcanonical.of_get? (Keyed.get?_ofList_of_mem hdistinct hmem)
  · exact canonical_mkObj

/-- The value is canonical if there is one. -/
def CanonicalIfAny (value? : Option Json) : Prop :=
  ∀ value, value? = some value → value.Canonical

@[simp] theorem canonicalIfAny_none : CanonicalIfAny none := by
  intro value hvalue
  simp at hvalue

@[simp] theorem canonicalIfAny_some (value : Json) :
    CanonicalIfAny (some value) ↔ value.Canonical := by
  simp [CanonicalIfAny]

@[simp] theorem canonicalIfAny_map {α : Type} {f : α → Json} {x? : Option α} :
    CanonicalIfAny (x?.map f) ↔ ∀ x, x? = some x → (f x).Canonical := by
  cases x? <;> simp

@[simp] theorem canonicalIfAny_ite {condition : Prop} [Decidable condition]
    {value? other? : Option Json} :
    CanonicalIfAny (if condition then value? else other?) ↔
      (condition → CanonicalIfAny value?) ∧ (¬ condition → CanonicalIfAny other?) := by
  by_cases hcondition : condition <;> simp [hcondition]

@[simp] theorem canonical_ofPresent_iff {fields : List (String × Option Json)}
    (hdistinct : fields.Pairwise fun a b => a.1 ≠ b.1) :
    (ofPresent fields).Canonical ↔ ∀ entry ∈ fields, CanonicalIfAny entry.2 := by
  constructor
  · intro hcanonical entry hmem value hvalue
    have hfield : (entry.1, some value) ∈ fields := hvalue ▸ hmem
    exact hcanonical.child? (child?_ofPresent hdistinct hfield)
  · intro hinside
    apply canonical_mkObj
    intro entry hmem
    obtain ⟨⟨key, value?⟩, hfield, hsome⟩ := List.mem_filterMap.mp hmem
    obtain ⟨value, hvalue, rfl⟩ := Option.map_eq_some_iff.mp hsome
    exact hinside _ hfield value hvalue

@[simp] theorem canonical_ofDict_str (d : Dict String) :
    (ofDict Json.str d).Canonical := by
  refine .obj _ (d.ordered.map fun _ x => Json.str x) ?_
  intro entry hmem
  obtain ⟨old, -, rfl⟩ := List.mem_map.mp hmem
  exact .str old.2

@[simp] theorem canonical_ofList_iff {α : Type} {f : α → Json} {xs : List α} :
    (Json.ofList f xs).Canonical ↔ ∀ x ∈ xs, (f x).Canonical := by
  unfold Json.ofList
  simp

@[simp] theorem canonicalIfAny_nonEmptyDict (d : Dict String) :
    CanonicalIfAny (nonEmptyDict d) := by
  unfold nonEmptyDict
  simp

@[simp] theorem canonicalIfAny_nonEmptyList {α : Type} {f : α → Json} {xs : List α}
    (hinside : ∀ x, (f x).Canonical) : CanonicalIfAny (nonEmptyList f xs) := by
  unfold nonEmptyList
  simp [hinside]

end Json

/-! ## Settings of containers -/

@[simp] theorem KeySelector.canonical_toJson (s : KeySelector) : s.toJson.Canonical := by
  unfold KeySelector.toJson
  simp

@[simp] theorem FieldSelector.canonical_toJson (s : FieldSelector) :
    s.toJson.Canonical := by
  unfold FieldSelector.toJson
  simp

@[simp] theorem ResourceSelector.canonical_toJson (s : ResourceSelector) :
    s.toJson.Canonical := by
  unfold ResourceSelector.toJson
  simp

@[simp] theorem EnvSource.canonical_toJson (s : EnvSource) : s.toJson.Canonical := by
  unfold EnvSource.toJson
  simp

@[simp] theorem EnvVar.canonical_toJson (v : EnvVar) : v.toJson.Canonical := by
  unfold EnvVar.toJson
  simp

@[simp] theorem Resources.canonical_toJson (r : Resources) : r.toJson.Canonical := by
  unfold Resources.toJson
  simp

@[simp] theorem Toleration.canonical_toJson (t : Toleration) : t.toJson.Canonical := by
  unfold Toleration.toJson
  simp

@[simp] theorem PodCount.canonical_toJson (n : PodCount) : n.toJson.Canonical := by
  cases n with
  | count n => exact .int _
  | text s => exact .str s

end AgentOperator
