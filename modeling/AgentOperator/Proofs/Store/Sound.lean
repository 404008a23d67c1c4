import AgentOperator.Proofs.Json.Strip
import AgentOperator.Proofs.Object
import AgentOperator.Proofs.Store.Calls

/-!
# Sound stores

The invariant of every store that calls, seeded objects and edits lead to.  Each
object stands at its own place, objects are listed in order, and no two share an
identity: identities are made from the counter, which only grows.  Each call is
shown to keep the invariant.
-/

namespace AgentOperator

/-! ## Bodies without empty fields -/

namespace Json

theorem Canonical.stripEmpty {value : Json} (hcanonical : value.Canonical) :
    value.stripEmpty.Canonical := by
  induction hcanonical with
  | arr elements _ ih =>
      rw [Json.stripEmpty, stripElements_eq]
      refine .arr _ ?_
      intro element hmem
      obtain ⟨old, hold, rfl⟩ := List.mem_map.mp hmem
      exact ih old hold
  | obj fields hordered _ ih =>
      rw [Json.stripEmpty, stripFields_eq]
      refine .obj _ ?_ ?_
      · exact List.Pairwise.filter _ (hordered.map fun _ value => value.stripEmpty)
      · intro entry hmem
        obtain ⟨old, hold, rfl⟩ := List.mem_map.mp (List.mem_filter.mp hmem).1
        exact ih old hold
  | null => exact .null
  | bool b => exact .bool b
  | int n => exact .int n
  | real x => exact .real x
  | str s => exact .str s

theorem IsObject.of_stripEmpty {value : Json} (hobject : value.stripEmpty.IsObject) :
    value.IsObject := by
  cases value with
  | obj fields => exact isObject_obj fields
  | _ => simp [Json.stripEmpty, IsObject, asObject] at hobject

end Json

namespace Store

open Json (Path)

/-- The identity that is made from a number. -/
def uidOf (number : Nat) : String := "uid-" ++ toString number

theorem uidOf_injective {m n : Nat} (heq : uidOf m = uidOf n) : m = n := by
  unfold uidOf at heq
  exact Text.eq_of_toString_eq ((String.append_right_inj _).mp heq)

/-! ## What the server makes of a body -/

theorem allocate_canonical {body : Json} (hbody : body.Canonical) (number : Nat) :
    (allocate number body).Canonical := by
  unfold allocate
  refine Json.Canonical.setAt ?_ (.str _) _
  have hip : ∀ {value : Json}, value.Canonical → (Json.arr [value]).Canonical :=
    fun hvalue => .arr _ (by simpa using hvalue)
  split
  · exact (hbody.setAt (.str _) _).setAt (hip (.str _)) _
  · exact (hbody.setAt (.str _) _).setAt (hip (.str _)) _
  next ip _ hat =>
    split
    · exact hbody.setAt (hip (hbody.at? hat)) _
    · exact hbody

theorem completed_isProper {object : Object} (hproper : object.IsProper) (kind : Kind)
    (number : Nat) : (completed kind number object).IsProper := by
  unfold completed
  split
  · exact ⟨hproper.named, allocate_canonical hproper.body number⟩
  · exact hproper

theorem stored_isProper {object : Object} (s : Store) (hproper : object.IsProper) :
    (s.stored object).IsProper := by
  unfold stored
  split
  · exact ⟨hproper.named, hproper.body.stripEmpty⟩
  · exact hproper

/-! ## The invariant -/

/-- Each object stands at its own place with an identity of its own. -/
structure Sound (s : Store) : Prop where
  ordered : InOrder s.objects
  placed : ∀ {key object}, s.get? key = some object → key = .ofObject key.kind object
  proper : ∀ {key object}, s.get? key = some object → object.IsProper
  numbered : ∀ {key object}, s.get? key = some object →
    ∃ n, n ≤ s.counter ∧ object.metadata.uid = some (uidOf n)
  distinct : ∀ {key other object another}, s.get? key = some object →
    s.get? other = some another → object.metadata.uid = another.metadata.uid → key = other

namespace Sound

variable {s t : Store} {key : StoreKey} {object : Object}

theorem empty : Sound {} := by
  constructor <;> intros <;> simp_all [InOrder, get?]

theorem of_objects_eq (hs : s.Sound) (hobjects : t.objects = s.objects)
    (hcounter : s.counter ≤ t.counter) : t.Sound where
  ordered := hobjects ▸ hs.ordered
  placed hget := hs.placed (get?_congr hobjects _ ▸ hget)
  proper hget := hs.proper (get?_congr hobjects _ ▸ hget)
  numbered hget := by
    obtain ⟨n, hle, huid⟩ := hs.numbered (get?_congr hobjects _ ▸ hget)
    exact ⟨n, Nat.le_trans hle hcounter, huid⟩
  distinct hget hother :=
    hs.distinct (get?_congr hobjects _ ▸ hget) (get?_congr hobjects _ ▸ hother)

theorem of_putEntry (hs : s.Sound) (hobjects : t.objects = putEntry key object s.objects)
    (hcounter : s.counter ≤ t.counter) (hplaced : key = .ofObject key.kind object)
    (hproper : object.IsProper)
    (hnumbered : ∃ n, n ≤ t.counter ∧ object.metadata.uid = some (uidOf n))
    (hdistinct : ∀ {other another}, other ≠ key → s.get? other = some another →
      another.metadata.uid ≠ object.metadata.uid) : t.Sound := by
  have hcases : ∀ {other another}, t.get? other = some another →
      other = key ∧ another = object ∨ other ≠ key ∧ s.get? other = some another := by
    intro other another hget
    by_cases heq : other = key
    · subst heq
      rw [get?_of_putEntry hobjects] at hget
      exact .inl ⟨rfl, (Option.some.inj hget).symm⟩
    · rw [get?_of_putEntry_of_ne hobjects heq] at hget
      exact .inr ⟨heq, hget⟩
  refine ⟨hobjects ▸ hs.ordered.putEntry key object, ?_, ?_, ?_, ?_⟩
  · intro other another hget
    rcases hcases hget with ⟨rfl, rfl⟩ | ⟨-, hold⟩
    · exact hplaced
    · exact hs.placed hold
  · intro other another hget
    rcases hcases hget with ⟨rfl, rfl⟩ | ⟨-, hold⟩
    · exact hproper
    · exact hs.proper hold
  · intro other another hget
    rcases hcases hget with ⟨rfl, rfl⟩ | ⟨-, hold⟩
    · exact hnumbered
    · obtain ⟨n, hle, huid⟩ := hs.numbered hold
      exact ⟨n, Nat.le_trans hle hcounter, huid⟩
  · intro first second object₁ object₂ hfirst hsecond huid
    rcases hcases hfirst with ⟨rfl, rfl⟩ | ⟨hne, hold⟩
    · rcases hcases hsecond with ⟨rfl, -⟩ | ⟨hne', hold'⟩
      · rfl
      · exact absurd huid.symm (hdistinct hne' hold')
    · rcases hcases hsecond with ⟨rfl, rfl⟩ | ⟨hne', hold'⟩
      · exact absurd huid (hdistinct hne hold)
      · exact hs.distinct hold hold' huid

/-- An object with a new identity may be put at its place. -/
theorem of_putEntry_fresh (hs : s.Sound)
    (hobjects : t.objects = putEntry key object s.objects)
    (hcounter : t.counter = s.counter + 1) (hplaced : key = .ofObject key.kind object)
    (hproper : object.IsProper) (huid : object.metadata.uid = some (uidOf (s.counter + 1))) :
    t.Sound := by
  refine hs.of_putEntry hobjects (by omega) hplaced hproper
    ⟨s.counter + 1, by omega, huid⟩ ?_
  intro other another _ hget heq
  obtain ⟨n, hle, hother⟩ := hs.numbered hget
  rw [hother, huid] at heq
  have hnumber := uidOf_injective (Option.some.inj heq)
  omega

/-- An object may be put in the place of one with its identity. -/
theorem of_putEntry_live (hs : s.Sound)
    (hobjects : t.objects = putEntry key object s.objects)
    (hcounter : s.counter ≤ t.counter) (hplaced : key = .ofObject key.kind object)
    (hproper : object.IsProper) {live : Object} (hlive : s.get? key = some live)
    (huid : object.metadata.uid = live.metadata.uid) : t.Sound := by
  obtain ⟨n, hle, hn⟩ := hs.numbered hlive
  refine hs.of_putEntry hobjects hcounter hplaced hproper
    ⟨n, Nat.le_trans hle hcounter, huid.trans hn⟩ ?_
  intro other another hne hget heq
  exact hne (hs.distinct hget hlive (heq.trans huid))

theorem of_remove (hs : s.Sound) (hobjects : t.objects = (s.remove key).objects)
    (hcounter : s.counter ≤ t.counter) : t.Sound := by
  have hold : ∀ {other another}, t.get? other = some another →
      s.get? other = some another := by
    intro other another hget
    rw [get?_congr hobjects] at hget
    by_cases heq : other = key
    · subst heq
      rw [get?_remove_self] at hget
      simp at hget
    · rwa [get?_remove_of_ne s heq] at hget
  refine ⟨?_, fun hget => hs.placed (hold hget), fun hget => hs.proper (hold hget), ?_,
    fun hget hother => hs.distinct (hold hget) (hold hother)⟩
  · rw [hobjects]
    exact List.Pairwise.filter _ hs.ordered
  · intro other another hget
    obtain ⟨n, hle, huid⟩ := hs.numbered (hold hget)
    exact ⟨n, Nat.le_trans hle hcounter, huid⟩

/-! ## The calls keep it -/

theorem of_sameButConflicts (hs : s.Sound) (hsame : s.SameButConflicts t) : t.Sound := by
  obtain ⟨_, rfl⟩ := hsame.eq
  exact hs.of_objects_eq rfl (Nat.le_refl _)

theorem guarded {α : Type} (hs : s.Sound) {name : String}
    {write : Store → Except Failure α × Store} (hwrite : (write s).2.Sound) :
    ((Store.guarded name write).run s).2.Sound := by
  rcases run_guarded name write s with hrun | ⟨failure, u, hrun, hsame⟩
  · rwa [hrun]
  · rw [hrun]
    exact hs.of_sameButConflicts hsame

theorem withWritten_new (hs : s.Sound) (kind : Kind) (hproper : object.IsProper) :
    (s.withWritten (.ofObject kind object) (s.newObject kind object)).Sound := by
  refine hs.of_putEntry_fresh rfl rfl ?_ ?_ ?_
  · unfold StoreKey.ofObject Object.name
    rw [newObject_metadata]
    rfl
  · apply stored_isProper
    apply completed_isProper
    exact ⟨hproper.named, hproper.body⟩
  · rw [newObject_metadata]
    rfl

theorem withWritten_next (hs : s.Sound) (kind : Kind) (hproper : object.IsProper)
    {live : Object} (hlive : s.get? (.ofObject kind object) = some live) :
    (s.withWritten (.ofObject kind object) (s.nextObject live object)).Sound := by
  refine hs.of_putEntry_live rfl (Nat.le_succ _) ?_ ?_ hlive ?_
  · unfold StoreKey.ofObject Object.name
    rw [nextObject_metadata]
    rfl
  · exact stored_isProper _ ⟨hproper.named, hproper.body⟩
  · rw [nextObject_metadata]

theorem withDeleted (hs : s.Sound) (key : StoreKey) : (s.withDeleted key).Sound :=
  hs.of_remove rfl (Nat.le_refl _)

theorem created (hs : s.Sound) (kind : Kind) (hproper : object.IsProper) :
    (Store.created kind object s).2.Sound := by
  cases hget : s.get? (.ofObject kind object) with
  | some live => rwa [created_of_some hget]
  | none =>
      rw [created_of_none hget]
      exact hs.withWritten_new kind hproper

theorem replaced (hs : s.Sound) (kind : Kind) (hproper : object.IsProper) :
    (Store.replaced kind object s).2.Sound := by
  cases hlive : s.get? (.ofObject kind object) with
  | none => rwa [replaced_of_none hlive]
  | some live =>
      rcases replaced_of_some hlive with hok | ⟨failure, hfail⟩
      · rw [hok]
        exact hs.withWritten_next kind hproper hlive
      · rwa [hfail]

theorem deletedAt (hs : s.Sound) (key : StoreKey) : (Store.deletedAt key s).2.Sound := by
  cases hget : s.get? key with
  | none => rwa [deletedAt_of_none hget]
  | some live =>
      rw [deletedAt_of_some hget]
      exact hs.withDeleted key

theorem seed (hs : s.Sound) (kind : Kind) (hproper : object.IsProper) :
    (s.seed kind object).2.Sound :=
  hs.of_putEntry_fresh rfl rfl rfl ⟨hproper.named, hproper.body⟩ rfl

theorem edit (hs : s.Sound) {change : Object → Object}
    (hchange : ∀ object, s.get? key = some object →
      object.SameIdentity (change object) ∧ (change object).IsProper) :
    (s.edit key change).Sound := by
  unfold Store.edit
  cases hlive : s.get? key with
  | none => exact hs
  | some live =>
      obtain ⟨hsame, hproper⟩ := hchange live hlive
      refine hs.of_putEntry_live rfl (Nat.le_refl _) ?_ hproper hlive hsame.uid
      have hplaced := hs.placed hlive
      unfold StoreKey.ofObject Object.name at hplaced ⊢
      rwa [hsame.name, hsame.namespaceName]

end Sound

end Store

end AgentOperator
