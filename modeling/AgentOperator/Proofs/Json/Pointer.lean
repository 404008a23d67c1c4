import AgentOperator.Proofs.Object
import AgentOperator.Reconcile.Merge

/-!
# Pointers

A pointer is the text of a path.  Reading by a pointer resolves the escapes in a segment,
while writing by one takes every segment as it stands, so the two go the same way where the
pointer has no tilde.  Then they are a lens, as long as what is
written does not have to break up a value on its way: what is written is read, nothing
beside it changes, the second of two writes wins, and writing what is read changes nothing.
-/

namespace AgentOperator

namespace Json

variable {value root : Json} {path : Path} {pointer : String} {cs : List Char}

/-! ## Paths as texts -/

/-- What a segment of a pointer stands for: `~1` is a slash and `~0` a tilde. -/
def unescaped : List Char → List Char
  | '~' :: '1' :: rest => '/' :: unescaped rest
  | '~' :: '0' :: rest => '~' :: unescaped rest
  | c :: rest => c :: unescaped rest
  | [] => []

/-- The path along which a pointer is read, with a segment behind each slash. -/
def Path.ofPointer? (pointer : String) : Option Path :=
  match pointer.toList with
  | [] => some []
  | '/' :: rest =>
    some ((rest.splitOn '/').map fun segment => String.ofList (unescaped segment))
  | _ => none

/-- Read at a pointer; a text that is no pointer leads nowhere. -/
def atPointer? (value : Json) (pointer : String) : Option Json :=
  (Path.ofPointer? pointer).bind value.at?

/-- Write at a pointer.  What stands in front of the first slash is passed over, and without
a segment nothing is written. -/
def setAtPointer (value : Json) (pointer : String) (new : Json) : Json :=
  match (segmentsOf pointer).tail with
  | [] => value
  | segment :: rest => value.setAt (segment :: rest) new

theorem unescaped_of_notMem (htilde : '~' ∉ cs) : unescaped cs = cs := by
  induction cs with
  | nil => rfl
  | cons c rest ih =>
      rw [List.mem_cons, not_or] at htilde
      have hstep : unescaped (c :: rest) = c :: unescaped rest := by
        rw [unescaped]
        · rintro _ rfl
          exact absurd rfl htilde.1
        · rintro _ rfl
          exact absurd rfl htilde.1
      rw [hstep, ih htilde.2]

/-- Splitting adds no character. -/
theorem mem_of_mem_splitOn {segment : List Char} {c mark : Char}
    (hsegment : segment ∈ cs.splitOn mark) (hc : c ∈ segment) : c ∈ cs := by
  induction cs generalizing segment with
  | nil =>
      obtain rfl : segment = [] := by simpa using hsegment
      exact hc
  | cons first rest ih =>
      rw [List.splitOn_cons_eq_if_modifyHead] at hsegment
      split at hsegment
      next =>
        rcases List.mem_cons.mp hsegment with rfl | hlater
        · simp at hc
        · exact List.mem_cons_of_mem _ (ih hlater hc)
      next =>
        obtain ⟨piece, pieces, hpieces⟩ :=
          List.exists_cons_of_ne_nil (List.splitOn_ne_nil mark rest)
        rw [hpieces, List.modifyHead_cons] at hsegment
        rcases List.mem_cons.mp hsegment with rfl | hlater
        · rcases List.mem_cons.mp hc with rfl | hinside
          · exact List.mem_cons_self
          · exact List.mem_cons_of_mem _ (ih (hpieces ▸ List.mem_cons_self) hinside)
        · exact List.mem_cons_of_mem _ (ih (hpieces ▸ List.mem_cons_of_mem _ hlater) hc)

theorem tail_segmentsOf_of_slash {rest : List Char} (hchars : pointer.toList = '/' :: rest) :
    (segmentsOf pointer).tail = (rest.splitOn '/').map String.ofList := by
  rw [segmentsOf, hchars, List.splitOn_cons_eq_if_modifyHead]
  simp

/-- A pointer without a tilde is written at the path along which it is read. -/
theorem tail_segmentsOf (hpath : Path.ofPointer? pointer = some path) (hsome : path ≠ [])
    (htilde : '~' ∉ pointer.toList) : (segmentsOf pointer).tail = path := by
  unfold Path.ofPointer? at hpath
  split at hpath
  next => exact absurd (Option.some.inj hpath).symm hsome
  next rest hchars =>
    obtain rfl := Option.some.inj hpath
    rw [tail_segmentsOf_of_slash hchars]
    apply List.map_congr_left
    intro segment hsegment
    have hplain : '~' ∉ segment := by
      intro hmem
      apply htilde
      rw [hchars]
      exact List.mem_cons_of_mem _ (mem_of_mem_splitOn hsegment hmem)
    rw [unescaped_of_notMem hplain]
  next => simp at hpath

theorem setAtPointer_eq (hpath : (segmentsOf pointer).tail = path) (hsome : path ≠ [])
    (value new : Json) : value.setAtPointer pointer new = value.setAt path new := by
  unfold setAtPointer
  rw [hpath]
  cases path with
  | nil => exact absurd rfl hsome
  | cons segment rest => rfl

theorem atPointer?_eq (hpath : Path.ofPointer? pointer = some path) (value : Json) :
    value.atPointer? pointer = value.at? path := by
  rw [atPointer?, hpath, Option.bind_some]

/-! ## The texts of paths -/

theorem toList_text_cons (segment : String) (rest : Path) :
    (Path.text (segment :: rest)).toList =
      '/' :: (segment.toList ++ (Path.text rest).toList) := by
  simp [Path.text]

theorem splitOn_text {segment : String} {rest : Path}
    (hslash : ∀ part ∈ segment :: rest, '/' ∉ part.toList) :
    (segment.toList ++ (Path.text rest).toList).splitOn '/' =
      (segment :: rest).map String.toList := by
  induction rest generalizing segment with
  | nil =>
      have hfirst := hslash segment List.mem_cons_self
      simp [Path.text, List.splitOn_eq_singleton hfirst]
  | cons next rest ih =>
      rw [List.forall_mem_cons] at hslash
      rw [toList_text_cons, List.splitOn_append_cons_self_of_not_mem hslash.1, ih hslash.2]
      rfl

/-- The text of a path is read along the path. -/
theorem ofPointer?_text (hslash : ∀ part ∈ path, '/' ∉ part.toList)
    (htilde : ∀ part ∈ path, '~' ∉ part.toList) : Path.ofPointer? path.text = some path := by
  cases path with
  | nil => rfl
  | cons segment rest =>
      have hsegments : ∀ part ∈ segment :: rest,
          String.ofList (unescaped part.toList) = part := by
        intro part hmem
        rw [unescaped_of_notMem (htilde part hmem), String.ofList_toList]
      simp only [Path.ofPointer?, toList_text_cons, splitOn_text hslash, List.map_map]
      exact congrArg some ((List.map_congr_left hsegments).trans (List.map_id _))

/-- What is written by the text of a path is written at the path. -/
theorem setAtPointer_text (hslash : ∀ part ∈ path, '/' ∉ part.toList) (hsome : path ≠ [])
    (value new : Json) : value.setAtPointer path.text new = value.setAt path new := by
  apply setAtPointer_eq _ hsome
  cases path with
  | nil => rfl
  | cons segment rest =>
      rw [tail_segmentsOf_of_slash (toList_text_cons segment rest), splitOn_text hslash]
      simp

/-- A key behind a slash is written at the segments of the key. -/
theorem setAtPointer_key (value : Json) (key : String) (new : Json) :
    value.setAtPointer ("/" ++ key) new = value.setAt (segmentsOf key) new := by
  have hchars : ("/" ++ key).toList = '/' :: key.toList := by simp
  apply setAtPointer_eq
  · rw [tail_segmentsOf_of_slash hchars, segmentsOf]
  · simp [segmentsOf]

/-! ## Reading and writing -/

/-- Writing by a pointer and reading by one are a lens, where each proper prefix of the
pointer leads to an object or to nothing. -/
theorem setAtPointer_lens (hroot : root.Canonical)
    (hpath : Path.ofPointer? pointer = some path) (hsome : path ≠ [])
    (htilde : '~' ∉ pointer.toList)
    (hobjects : ∀ before, before <+: path → before ≠ path →
      ∀ inner, root.at? before = some inner → ∃ fields, inner = obj fields)
    (new : Json) :
    (root.setAtPointer pointer new).atPointer? pointer = some new ∧
      (∀ other otherPath, Path.ofPointer? other = some otherPath →
        ¬ path <+: otherPath → ¬ otherPath <+: path →
          (root.setAtPointer pointer new).atPointer? other = root.atPointer? other) ∧
      (∀ newer, (root.setAtPointer pointer new).setAtPointer pointer newer =
        root.setAtPointer pointer newer) ∧
      (root.atPointer? pointer = some new → root.setAtPointer pointer new = root) := by
  have hopen : root.IsOpenTo path := isOpenTo_iff.mpr hobjects
  have hset (value new : Json) : value.setAtPointer pointer new = value.setAt path new :=
    setAtPointer_eq (tail_segmentsOf hpath hsome htilde) hsome value new
  simp only [hset, atPointer?_eq hpath]
  refine ⟨at?_setAt_self root path new, ?_, ?_, ?_⟩
  · intro other otherPath hother hafter hbefore
    rw [atPointer?_eq hother, atPointer?_eq hother]
    exact at?_setAt_of_incomparable new hopen hafter hbefore
  · intro newer
    exact setAt_setAt root path new newer
  · intro hat
    exact hroot.setAt_of_at? hopen hat

/-- A service with an address, and with a field in whose name there is a slash. -/
def addressed : Json :=
  obj [("data", obj [("a/b", arr [int 1, int 2])]),
    ("spec", obj [("clusterIP", str "10.0.0.7")])]

theorem setAtPointer_lens_addressed :
    let moved := addressed.setAtPointer "/spec/clusterIP" (str "10.0.0.8")
    moved.atPointer? "/spec/clusterIP" = some (str "10.0.0.8") ∧
      moved.atPointer? "/data/a~1b/1" = some (int 2) ∧
      moved.setAtPointer "/spec/clusterIP" (str "10.0.0.7") = addressed := by
  have hread : addressed.canonical? = some addressed := by decide +kernel
  have hpath : Path.ofPointer? "/spec/clusterIP" = some ["spec", "clusterIP"] := by
    decide +kernel
  have hbesidePath : Path.ofPointer? "/data/a~1b/1" = some ["data", "a/b", "1"] := by
    decide +kernel
  have hopen : addressed.IsOpenTo ["spec", "clusterIP"] := by
    refine ⟨⟨_, rfl⟩, ?_⟩
    intro _ spec hspec
    obtain rfl : _ = spec := Option.some.inj hspec
    exact ⟨⟨_, rfl⟩, fun hnil => absurd rfl hnil⟩
  have hlens := setAtPointer_lens (canonical_of_canonical? _ hread) hpath (by decide)
    (by decide) (isOpenTo_iff.mp hopen)
  obtain ⟨hwritten, hbeside, htwice, -⟩ := hlens (str "10.0.0.8")
  obtain ⟨-, -, -, hpresent⟩ := hlens (str "10.0.0.7")
  refine ⟨hwritten, ?_, ?_⟩
  · rw [hbeside _ _ hbesidePath (by decide) (by decide)]
    decide +kernel
  · rw [htwice]
    exact hpresent (by decide +kernel)

/-- A tilde is read as an escape and written as it stands. -/
example : (empty.setAtPointer "/a~1b" null).atPointer? "/a~1b" = none := by decide +kernel

end Json

/-! ## Where pointers are used -/

/-- An immutable field is read and written by its text. -/
theorem Kind.pointer_of_mem_immutableFields {kind : Kind} {path : Json.Path}
    (hmem : path ∈ kind.immutableFields) (value new : Json) :
    value.atPointer? path.text = value.at? path ∧
      value.setAtPointer path.text new = value.setAt path new := by
  have hplain : ∀ path ∈ kind.immutableFields, path ≠ [] ∧
      ∀ part ∈ path, '/' ∉ part.toList ∧ '~' ∉ part.toList := by
    cases kind <;> decide
  obtain ⟨hsome, hparts⟩ := hplain path hmem
  have hslash : ∀ part ∈ path, '/' ∉ part.toList := fun part h => (hparts part h).1
  have htilde : ∀ part ∈ path, '~' ∉ part.toList := fun part h => (hparts part h).2
  exact ⟨Json.atPointer?_eq (Json.ofPointer?_text hslash htilde) value,
    Json.setAtPointer_text hslash hsome value new⟩

/-- Each top-level field is written over the live body by its key behind a slash. -/
theorem overlayBody_eq_foldl_setAtPointer (live desired : Json) :
    overlayBody live desired =
      desired.fieldsOrNone.foldl
        (fun body entry => body.setAtPointer ("/" ++ entry.1) entry.2) live := by
  unfold overlayBody
  simp only [Json.setAtPointer_key]

end AgentOperator
