import AgentOperator.Json.Pointer
import AgentOperator.Proofs.Keyed

/-!
# Writing at a path

What is written at a path is read there again, and reading at any path that
neither leads to it nor passes through it gives what it gave before, as long as
the written path does not have to break up a value on its way.  Writing
canonical values into canonical values keeps them canonical.
-/

namespace AgentOperator.Json

@[simp] theorem fieldsOrNone_obj (fields : List (String × Json)) :
    (obj fields).fieldsOrNone = fields := rfl

theorem at?_obj_cons (fields : List (String × Json)) (segment : String) (rest : Path) :
    (obj fields).at? (segment :: rest) =
      (Keyed.get? segment fields).bind fun inner => inner.at? rest := rfl

theorem setAt_cons (value : Json) (segment : String) (rest : Path) (new : Json) :
    value.setAt (segment :: rest) new =
      obj (Keyed.insert segment
        (((Keyed.get? segment value.fieldsOrNone).getD empty).setAt rest new)
        value.fieldsOrNone) := rfl

@[simp] theorem setAt_single (value : Json) (segment : String) (new : Json) :
    value.setAt [segment] new = obj (Keyed.insert segment new value.fieldsOrNone) := rfl

theorem at?_setAt_self (value : Json) (path : Path) (new : Json) :
    (value.setAt path new).at? path = some new := by
  induction path generalizing value with
  | nil => rfl
  | cons segment rest ih =>
      rw [setAt_cons, at?_obj_cons, Keyed.get?_insert_self]
      exact ih _

/-- The second of two writes wins. -/
theorem setAt_setAt (value : Json) (path : Path) (new newer : Json) :
    (value.setAt path new).setAt path newer = value.setAt path newer := by
  induction path generalizing value with
  | nil => rfl
  | cons segment rest ih =>
      rw [setAt_cons, setAt_cons, fieldsOrNone_obj, Keyed.get?_insert_self, Option.getD_some,
        ih, Keyed.insert_insert_self, setAt_cons]

theorem at?_append (value : Json) (path rest : Path) :
    value.at? (path ++ rest) = (value.at? path).bind fun inner => inner.at? rest := by
  induction path generalizing value with
  | nil => rfl
  | cons segment path ih =>
      show (value.child? segment).bind (fun inner => inner.at? (path ++ rest)) = _
      simp only [ih]
      exact (Option.bind_assoc _ _ _).symm

theorem at?_append_of_some {value inner : Json} {path : Path}
    (hat : value.at? path = some inner) (rest : Path) :
    value.at? (path ++ rest) = inner.at? rest := by
  rw [at?_append, hat, Option.bind_some]

/-- Each proper prefix of the path leads to an object or to nothing. -/
def IsOpenTo (value : Json) : Path → Prop
  | [] => True
  | segment :: rest =>
    (∃ fields, value = obj fields) ∧
      (rest ≠ [] → ∀ inner, value.child? segment = some inner → inner.IsOpenTo rest)

theorem isOpenTo_empty (path : Path) : empty.IsOpenTo path := by
  cases path with
  | nil => trivial
  | cons segment rest =>
      refine ⟨⟨[], rfl⟩, ?_⟩
      intro _ inner hinner
      simp [empty, child?, Keyed.get?] at hinner

theorem isOpenTo_iff {value : Json} {path : Path} :
    value.IsOpenTo path ↔
      ∀ before, before <+: path → before ≠ path →
        ∀ inner, value.at? before = some inner → ∃ fields, inner = obj fields := by
  induction path generalizing value with
  | nil =>
      constructor
      · intro _ before hprefix hproper
        exact absurd (List.prefix_nil.mp hprefix) hproper
      · intro _
        trivial
  | cons segment rest ih =>
      constructor
      · rintro ⟨hobj, hinner⟩ before hprefix hproper inner hat
        cases before with
        | nil =>
            obtain rfl := Option.some.inj hat
            exact hobj
        | cons head tail =>
            obtain ⟨rfl, htail⟩ := List.cons_prefix_cons.mp hprefix
            have htailProper : tail ≠ rest := fun heq => hproper (heq ▸ rfl)
            have hrest : rest ≠ [] := by
              rintro rfl
              exact htailProper (List.prefix_nil.mp htail)
            obtain ⟨next, hchild, hnext⟩ := Option.bind_eq_some_iff.mp hat
            exact ih.mp (hinner hrest next hchild) tail htail htailProper inner hnext
      · intro hobjects
        refine ⟨hobjects [] List.nil_prefix (List.cons_ne_nil segment rest).symm value rfl, ?_⟩
        intro _ next hchild
        apply ih.mpr
        intro tail htail htailProper inner hnext
        apply hobjects (segment :: tail)
        · exact List.cons_prefix_cons.mpr ⟨rfl, htail⟩
        · intro heq
          exact htailProper (List.cons.inj heq).2
        · exact Option.bind_eq_some_iff.mpr ⟨next, hchild, hnext⟩

/-- Writing at a path does not show at a path that neither continues it nor is
continued by it. -/
theorem at?_setAt_of_incomparable {value : Json} {path other : Path} (new : Json)
    (hopen : value.IsOpenTo path) (hafter : ¬ path <+: other)
    (hbefore : ¬ other <+: path) :
    (value.setAt path new).at? other = value.at? other := by
  induction path generalizing value other with
  | nil => exact absurd List.nil_prefix hafter
  | cons segment rest ih =>
      cases other with
      | nil => exact absurd List.nil_prefix hbefore
      | cons head tail =>
          obtain ⟨⟨fields, rfl⟩, hinner⟩ := hopen
          rw [setAt_cons, at?_obj_cons, at?_obj_cons, fieldsOrNone_obj]
          by_cases heq : head = segment
          · subst heq
            have htailAfter : ¬ rest <+: tail := fun hprefix =>
              hafter (List.cons_prefix_cons.mpr ⟨rfl, hprefix⟩)
            have htailBefore : ¬ tail <+: rest := fun hprefix =>
              hbefore (List.cons_prefix_cons.mpr ⟨rfl, hprefix⟩)
            have hrest : rest ≠ [] := by
              rintro rfl
              exact htailAfter List.nil_prefix
            rw [Keyed.get?_insert_self, Option.bind_some]
            cases hget : Keyed.get? head fields with
            | some inner =>
                exact ih (hinner hrest inner hget) htailAfter htailBefore
            | none =>
                rw [Option.getD_none, ih (isOpenTo_empty rest) htailAfter htailBefore]
                cases tail with
                | nil => exact absurd List.nil_prefix htailBefore
                | cons => rfl
          · rw [Keyed.get?_insert_of_ne heq]

/-- Writing at a path keeps the value open to every path that does not go on
from there. -/
theorem IsOpenTo.setAt {value : Json} {path other : Path} (new : Json)
    (hopen : value.IsOpenTo path) (hother : value.IsOpenTo other)
    (hafter : ¬ path <+: other) : (value.setAt path new).IsOpenTo other := by
  induction path generalizing value other with
  | nil => exact absurd List.nil_prefix hafter
  | cons segment rest ih =>
      cases other with
      | nil => trivial
      | cons head tail =>
          obtain ⟨⟨fields, rfl⟩, hinner⟩ := hopen
          obtain ⟨-, htail⟩ := hother
          refine ⟨⟨_, setAt_cons _ _ _ _⟩, ?_⟩
          intro htailNe inner hget
          rw [setAt_cons, fieldsOrNone_obj] at hget
          replace hget : Keyed.get? head (Keyed.insert segment _ fields) = some inner := hget
          by_cases heq : head = segment
          · subst heq
            rw [Keyed.get?_insert_self] at hget
            obtain rfl := Option.some.inj hget
            have hafterTail : ¬ rest <+: tail := fun hprefix =>
              hafter (List.cons_prefix_cons.mpr ⟨rfl, hprefix⟩)
            have hrestNe : rest ≠ [] := by
              rintro rfl
              exact hafterTail List.nil_prefix
            cases hold : Keyed.get? head fields with
            | none => exact ih (isOpenTo_empty rest) (isOpenTo_empty tail) hafterTail
            | some old =>
                exact ih (hinner hrestNe old hold) (htail htailNe old hold) hafterTail
          · rw [Keyed.get?_insert_of_ne heq] at hget
            exact htail htailNe inner hget

/-! ## Canonical values -/

theorem Canonical.ordered {fields : List (String × Json)}
    (hcanonical : (Json.obj fields).Canonical) : Keyed.Ordered fields := by
  cases hcanonical with
  | obj _ hordered _ => exact hordered

theorem Canonical.of_mem {fields : List (String × Json)}
    (hcanonical : (Json.obj fields).Canonical) {entry : String × Json}
    (hmem : entry ∈ fields) : entry.2.Canonical := by
  cases hcanonical with
  | obj _ _ hinside => exact hinside entry hmem

theorem Canonical.of_get? {fields : List (String × Json)}
    (hcanonical : (Json.obj fields).Canonical) {key : String} {value : Json}
    (hget : Keyed.get? key fields = some value) : value.Canonical :=
  hcanonical.of_mem (Keyed.mem_of_get? hget)

theorem canonical_empty : empty.Canonical :=
  .obj [] Keyed.ordered_nil (by simp)

theorem Canonical.fieldsOrNone {value : Json} (hcanonical : value.Canonical) :
    (Json.obj value.fieldsOrNone).Canonical := by
  cases value with
  | obj fields => exact hcanonical
  | _ => exact canonical_empty

theorem Canonical.insert {fields : List (String × Json)} {key : String} {value : Json}
    (hfields : (Json.obj fields).Canonical) (hvalue : value.Canonical) :
    (Json.obj (Keyed.insert key value fields)).Canonical := by
  refine .obj _ (hfields.ordered.insert key value) ?_
  intro entry hmem
  rcases Keyed.mem_insert hmem with rfl | hold
  · exact hvalue
  · exact hfields.of_mem hold

mutual

/-- What is kept of a value that is read is in canonical form. -/
theorem canonical_of_canonical? (raw : Json) {value : Json}
    (hread : raw.canonical? = some value) : value.Canonical := by
  cases raw with
  | arr elements =>
      rw [canonical?] at hread
      obtain ⟨kept, hkept, rfl⟩ := Option.map_eq_some_iff.mp hread
      exact .arr kept (canonical_of_canonicalElements? elements hkept)
  | obj fields =>
      rw [canonical?] at hread
      obtain ⟨kept, hkept, rfl⟩ := Option.map_eq_some_iff.mp hread
      exact canonical_of_canonicalFields? fields canonical_empty hkept
  | unreadable => simp [canonical?] at hread
  | null => exact Option.some.inj hread ▸ .null
  | bool b => exact Option.some.inj hread ▸ .bool b
  | int n => exact Option.some.inj hread ▸ .int n
  | real x => exact Option.some.inj hread ▸ .real x
  | str s => exact Option.some.inj hread ▸ .str s

theorem canonical_of_canonicalElements? (raw : List Json) {kept : List Json}
    (hread : canonicalElements? raw = some kept) : ∀ element ∈ kept, element.Canonical := by
  match raw with
  | [] =>
      obtain rfl := Option.some.inj hread
      simp
  | element :: rest =>
      rw [canonicalElements?] at hread
      obtain ⟨value, hvalue, htail⟩ := Option.bind_eq_some_iff.mp hread
      obtain ⟨others, hothers, rfl⟩ := Option.map_eq_some_iff.mp htail
      have hinside := canonical_of_canonicalElements? rest hothers
      simpa using ⟨canonical_of_canonical? element hvalue, hinside⟩

theorem canonical_of_canonicalFields? (raw : List (String × Json))
    {acc kept : List (String × Json)} (hacc : (Json.obj acc).Canonical)
    (hread : canonicalFields? acc raw = some kept) : (Json.obj kept).Canonical := by
  match raw with
  | [] =>
      obtain rfl := Option.some.inj hread
      exact hacc
  | (key, field) :: rest =>
      rw [canonicalFields?] at hread
      obtain ⟨value, hvalue, htail⟩ := Option.bind_eq_some_iff.mp hread
      have hnext : (Json.obj (Keyed.insert key value acc)).Canonical :=
        hacc.insert (canonical_of_canonical? field hvalue)
      exact canonical_of_canonicalFields? rest hnext htail

end

theorem isNull_of_canonical? {raw value : Json} (hread : raw.canonical? = some value) :
    value.isNull = raw.isNull := by
  cases raw with
  | arr elements =>
      rw [canonical?] at hread
      obtain ⟨_, -, rfl⟩ := Option.map_eq_some_iff.mp hread
      rfl
  | obj fields =>
      rw [canonical?] at hread
      obtain ⟨_, -, rfl⟩ := Option.map_eq_some_iff.mp hread
      rfl
  | unreadable => simp [canonical?] at hread
  | _ => exact Option.some.inj hread ▸ rfl

mutual

/-- A value in canonical form is kept as it is. -/
theorem Canonical.canonical?_eq {value : Json} (hcanonical : value.Canonical) :
    value.canonical? = some value := by
  cases value with
  | arr elements =>
      cases hcanonical with
      | arr _ hinside => rw [canonical?, canonicalElements?_eq elements hinside, Option.map_some]
  | obj fields =>
      cases hcanonical with
      | obj _ hordered hinside =>
          have hfields : canonicalFields? [] fields = some ([] ++ fields) :=
            canonicalFields?_eq fields hordered hinside
          rw [canonical?, hfields, Option.map_some, List.nil_append]
  | unreadable => cases hcanonical
  | null => rfl
  | bool b => rfl
  | int n => rfl
  | real x => rfl
  | str s => rfl

theorem canonicalElements?_eq (elements : List Json)
    (hinside : ∀ element ∈ elements, element.Canonical) :
    canonicalElements? elements = some elements := by
  match elements with
  | [] => rfl
  | element :: rest =>
      rw [List.forall_mem_cons] at hinside
      obtain ⟨hfirst, hrest⟩ := hinside
      rw [canonicalElements?, hfirst.canonical?_eq, Option.bind_some,
        canonicalElements?_eq rest hrest, Option.map_some]

theorem canonicalFields?_eq (fields : List (String × Json)) {acc : List (String × Json)}
    (hordered : Keyed.Ordered (acc ++ fields)) (hinside : ∀ entry ∈ fields, entry.2.Canonical) :
    canonicalFields? acc fields = some (acc ++ fields) := by
  match fields with
  | [] => rw [List.append_nil, canonicalFields?]
  | (key, value) :: rest =>
      rw [List.forall_mem_cons] at hinside
      obtain ⟨hfirst, hrest⟩ := hinside
      obtain ⟨-, -, hbefore⟩ := List.pairwise_append.mp hordered
      have hinsert : Keyed.insert key value acc = acc ++ [(key, value)] :=
        Keyed.insert_of_forall_lt (fun entry hmem =>
          hbefore entry hmem (key, value) List.mem_cons_self) value
      have hnext : Keyed.Ordered ((acc ++ [(key, value)]) ++ rest) := by
        rwa [List.append_assoc]
      rw [canonicalFields?, hfirst.canonical?_eq, Option.bind_some, hinsert,
        canonicalFields?_eq rest hnext hrest, List.append_assoc]
      rfl

end

theorem Canonical.merge {fields more : List (String × Json)}
    (hfields : (Json.obj fields).Canonical) (hmore : ∀ entry ∈ more, entry.2.Canonical) :
    (Json.obj (Keyed.merge fields more)).Canonical := by
  induction more generalizing fields with
  | nil => exact hfields
  | cons head rest ih =>
      exact ih (hfields.insert (hmore head List.mem_cons_self)) fun entry hmem =>
        hmore entry (List.mem_cons_of_mem _ hmem)

theorem Canonical.child? {value inner : Json} (hcanonical : value.Canonical)
    {segment : String} (hchild : value.child? segment = some inner) :
    inner.Canonical := by
  cases hcanonical with
  | obj fields hordered hinside =>
      exact hinside _ (Keyed.mem_of_get? hchild)
  | arr elements hinside =>
      obtain ⟨i, _, hget⟩ := Option.bind_eq_some_iff.mp hchild
      exact hinside _ (List.mem_of_getElem? hget)
  | _ => simp [Json.child?] at hchild

theorem Canonical.at? {value inner : Json} (hcanonical : value.Canonical) {path : Path}
    (hat : value.at? path = some inner) : inner.Canonical := by
  induction path generalizing value with
  | nil =>
      obtain rfl := Option.some.inj hat
      exact hcanonical
  | cons segment rest ih =>
      obtain ⟨next, hchild, hrest⟩ := Option.bind_eq_some_iff.mp hat
      exact ih (hcanonical.child? hchild) hrest

/-- Writing what is read at a path changes nothing. -/
theorem Canonical.setAt_of_at? {value old : Json} (hcanonical : value.Canonical)
    {path : Path} (hopen : value.IsOpenTo path) (hat : value.at? path = some old) :
    value.setAt path old = value := by
  induction path generalizing value with
  | nil => exact (Option.some.inj hat).symm
  | cons segment rest ih =>
      obtain ⟨⟨fields, rfl⟩, hinner⟩ := hopen
      obtain ⟨inner, hget, hrest⟩ := Option.bind_eq_some_iff.mp hat
      replace hget : Keyed.get? segment fields = some inner := hget
      have hsame : inner.setAt rest old = inner := by
        by_cases hnil : rest = []
        · subst hnil
          exact (Option.some.inj hrest).symm
        · exact ih (hcanonical.of_get? hget) (hinner hnil inner hget) hrest
      rw [setAt_cons, fieldsOrNone_obj, hget, Option.getD_some, hsame,
        hcanonical.ordered.insert_of_get? hget]

theorem Canonical.setAt {value new : Json} (hcanonical : value.Canonical)
    (hnew : new.Canonical) (path : Path) : (value.setAt path new).Canonical := by
  induction path generalizing value with
  | nil => exact hnew
  | cons segment rest ih =>
      rw [setAt_cons]
      refine hcanonical.fieldsOrNone.insert (ih ?_)
      cases hget : Keyed.get? segment value.fieldsOrNone with
      | none => exact canonical_empty
      | some inner => exact hcanonical.fieldsOrNone.of_get? hget

/-! ## Bodies without some fields of their spec -/

/-- The value of a field of a body, without the dropped fields if it is the spec. -/
def withoutFieldsOf (dropped : List String) (key : String) (value : Json) : Json :=
  match value with
  | .obj spec =>
    if key = "spec" then .obj (spec.filter fun entry => !dropped.contains entry.1)
    else .obj spec
  | other => other

/-- A body without the dropped fields of its spec. -/
def withoutSpecFields (dropped : List String) (body : Json) : Json :=
  match body with
  | .obj fields =>
    .obj (fields.map fun entry => (entry.1, withoutFieldsOf dropped entry.1 entry.2))
  | other => other

end AgentOperator.Json
