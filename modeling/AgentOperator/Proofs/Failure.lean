import AgentOperator.Failure

/-!
# What failures keep

A failure is a tree: at its leaves is what went wrong, and above them the keys of the
objects that it went wrong with and the lists in which failures were gathered.  Whether
it is worth trying again is decided by the leaves alone, at whatever depth they are, and
the message of a failure has in it those of all its parts.
-/

namespace AgentOperator

/-- The second text occurs in the first one. -/
def Text.Contains (text part : String) : Prop := part.toList <:+: text.toList

namespace Text

theorem contains_self (text : String) : Contains text text := List.infix_rfl

theorem Contains.trans {text part inner : String} (hpart : Contains text part)
    (hinner : Contains part inner) : Contains text inner := List.IsInfix.trans hinner hpart

theorem contains_append_left (text rest : String) : Contains (text ++ rest) text := by
  unfold Contains
  rw [String.toList_append]
  exact (List.prefix_append _ _).isInfix

theorem contains_append_right (before text : String) : Contains (before ++ text) text := by
  unfold Contains
  rw [String.toList_append]
  exact (List.suffix_append _ _).isInfix

theorem contains_intercalate (separator : String) {texts : List String} {text : String}
    (hmem : text ∈ texts) : Contains (String.intercalate separator texts) text := by
  induction texts with
  | nil => simp at hmem
  | cons first rest ih =>
      cases rest with
      | nil =>
          obtain rfl := List.mem_singleton.mp hmem
          rw [String.intercalate_singleton]
          exact contains_self text
      | cons second rest =>
          rw [String.intercalate_cons_cons]
          rcases List.mem_cons.mp hmem with rfl | hrest
          · rw [String.append_assoc]
            exact contains_append_left _ _
          · exact (contains_append_right _ _).trans (ih hrest)

end Text

namespace Failure

open Text (Contains)

variable {failure part leaf gathered : Failure} {failures : List Failure} {key : String}

/-! ## Parts -/

/-- The failure is not made of others. -/
def isLeaf : Failure → Bool
  | object .. | batch _ => false
  | _ => true

/-- The first failure is the second one or occurs in it, at any depth. -/
inductive Within : Failure → Failure → Prop
  | self (failure : Failure) : Within failure failure
  | object {part source : Failure} (key : String) (hsource : Within part source) :
    Within part (.object key source)
  | batch {part source : Failure} {failures : List Failure} (hmem : source ∈ failures)
    (hsource : Within part source) : Within part (.batch failures)

/-- What holds of every leaf, and of an object or a list when it holds of what is inside,
holds of every failure. -/
@[elab_as_elim]
theorem inductionOnParts {P : Failure → Prop} (failure : Failure)
    (leaf : ∀ leaf, leaf.isLeaf = true → P leaf)
    (object : ∀ key source, P source → P (.object key source))
    (batch : ∀ failures, (∀ failure ∈ failures, P failure) → P (.batch failures)) :
    P failure :=
  match failure with
  | .api e => leaf (.api e) rfl
  | .client detail => leaf (.client detail) rfl
  | .config text => leaf (.config text) rfl
  | .validation text => leaf (.validation text) rfl
  | .serialization text => leaf (.serialization text) rfl
  | .object key source => object key source (inductionOnParts source leaf object batch)
  | .batch failures =>
    batch failures fun failure _ => inductionOnParts failure leaf object batch

/-! ## Classes -/

theorem anyRetriable_iff :
    anyRetriable failures = true ↔ ∃ failure ∈ failures, failure.isRetriable = true := by
  induction failures with
  | nil => simp [anyRetriable]
  | cons failure rest ih => simp [anyRetriable, ih]

theorem isRetriable_of_within (hwithin : part.Within failure)
    (hpart : part.isRetriable = true) : failure.isRetriable = true := by
  induction hwithin with
  | self => exact hpart
  | object key _ ih => exact ih
  | batch hmem _ ih => exact anyRetriable_iff.mpr ⟨_, hmem, ih⟩

theorem exists_leaf_of_isRetriable (hretriable : failure.isRetriable = true) :
    ∃ leaf : Failure, leaf.Within failure ∧ leaf.isLeaf = true ∧ leaf.isRetriable = true := by
  induction failure using inductionOnParts with
  | leaf leaf hleaf => exact ⟨leaf, .self leaf, hleaf, hretriable⟩
  | object key source ih =>
      obtain ⟨leaf, hwithin, hleaf⟩ := ih hretriable
      exact ⟨leaf, .object key hwithin, hleaf⟩
  | batch failures ih =>
      obtain ⟨source, hmem, hsource⟩ := anyRetriable_iff.mp hretriable
      obtain ⟨leaf, hwithin, hleaf⟩ := ih source hmem hsource
      exact ⟨leaf, .batch hmem hwithin, hleaf⟩

/-- A failure is worth trying again exactly if one of its leaves is. -/
theorem isRetriable_iff_exists_leaf :
    failure.isRetriable = true ↔
      ∃ leaf : Failure, leaf.Within failure ∧ leaf.isLeaf = true ∧ leaf.isRetriable = true := by
  constructor
  · exact exists_leaf_of_isRetriable
  · rintro ⟨leaf, hwithin, -, hleaf⟩
    exact isRetriable_of_within hwithin hleaf

theorem isRetriable_of_isConflict (hconflict : failure.isConflict = true) :
    failure.isRetriable = true := by
  induction failure using inductionOnParts with
  | leaf leaf hleaf =>
      cases leaf <;> simp_all [isLeaf, isConflict, isRetriable, ApiError.isRetriable]
  | object key source ih => exact ih hconflict
  | batch failures => simp [isConflict] at hconflict

theorem gather_eq_ok_iff : gather failures = .ok () ↔ failures = [] := by
  match failures with
  | [] => simp [gather]
  | [_] => simp [gather]
  | _ :: _ :: _ => simp [gather]

theorem isRetriable_of_gather (hgather : gather failures = .error gathered) :
    gathered.isRetriable = true ↔ ∃ failure ∈ failures, failure.isRetriable = true := by
  match failures, hgather with
  | [_], hgather =>
      obtain rfl := Except.error.inj hgather
      simp
  | _ :: _ :: _, hgather =>
      obtain rfl := Except.error.inj hgather
      exact anyRetriable_iff

/-! ## Messages -/

theorem messages_eq (failures : List Failure) : messages failures = failures.map message := by
  induction failures with
  | nil => rfl
  | cons failure rest ih => exact congrArg (failure.message :: ·) ih

theorem message_object (key : String) (source : Failure) :
    (object key source).message = key ++ ": " ++ source.message := rfl

theorem message_batch (failures : List Failure) :
    (batch failures).message = toString failures.length ++ " object(s) failed: " ++
      String.intercalate "; " (failures.map message) := by
  rw [← messages_eq]
  rfl

theorem contains_message_batch (hmem : failure ∈ failures) :
    Contains (batch failures).message failure.message := by
  have htext := Text.contains_intercalate "; " (List.mem_map_of_mem (f := message) hmem)
  rw [message_batch]
  exact (Text.contains_append_right _ _).trans htext

theorem contains_message_of_within (hwithin : part.Within failure) :
    Contains failure.message part.message := by
  induction hwithin with
  | self => exact Text.contains_self _
  | object key _ ih =>
      rw [message_object]
      exact (Text.contains_append_right _ _).trans ih
  | batch hmem _ ih => exact (contains_message_batch hmem).trans ih

theorem contains_key_of_within {source : Failure}
    (hwithin : (object key source).Within failure) : Contains failure.message key := by
  refine (contains_message_of_within hwithin).trans ?_
  rw [message_object, String.append_assoc]
  exact Text.contains_append_left _ _

theorem contains_message_of_gather (hgather : gather failures = .error gathered)
    (hmem : failure ∈ failures) : Contains gathered.message failure.message := by
  match failures, hgather with
  | [_], hgather =>
      obtain rfl := Except.error.inj hgather
      obtain rfl := List.mem_singleton.mp hmem
      exact Text.contains_self _
  | _ :: _ :: _, hgather =>
      obtain rfl := Except.error.inj hgather
      exact contains_message_batch hmem

end Failure

end AgentOperator
