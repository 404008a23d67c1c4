import AgentOperator.Proofs.Json.Path
import AgentOperator.Proofs.Json.Strip
import AgentOperator.Proofs.Store.Calls
import Mathlib.Data.List.Forall2

/-!
# Addresses that the server gives

A service that asks for no address is given one that is made from the counter, so two
stores that count differently keep different bodies of one service.  The bodies have
the same fields in the same order and differ in the values of the address fields only.
Each step of the server keeps this relation: setting one field after the other, and
dropping the fields without content.
-/

namespace AgentOperator

/-! ## Entries that are alike -/

namespace Keyed

variable {α : Type} {related : String → α → α → Prop} {a b : List (String × α)}
  {key : String} {x y : α}

/-- The same keys in the same order, with related values. -/
def Alike (related : String → α → α → Prop) : List (String × α) → List (String × α) → Prop :=
  List.Forall₂ fun first second =>
    first.1 = second.1 ∧ related first.1 first.2 second.2

theorem Alike.refl (hrefl : ∀ key value, related key value value) (entries : List (String × α)) :
    Alike related entries entries :=
  List.forall₂_same.mpr fun entry _ => ⟨rfl, hrefl entry.1 entry.2⟩

theorem Alike.get? (halike : Alike related a b) (key : String) :
    Keyed.get? key a = none ∧ Keyed.get? key b = none ∨
      ∃ x y, Keyed.get? key a = some x ∧ Keyed.get? key b = some y ∧ related key x y := by
  induction halike with
  | nil => exact .inl ⟨rfl, rfl⟩
  | @cons first second _ _ hhead _ ih =>
      obtain ⟨k, x⟩ := first
      obtain ⟨_, y⟩ := second
      obtain ⟨rfl, hvalues⟩ := hhead
      by_cases hkey : k = key
      · subst hkey
        exact .inr ⟨x, y, by simp [Keyed.get?], by simp [Keyed.get?], hvalues⟩
      · simpa [Keyed.get?, hkey] using ih

theorem Alike.insert (halike : Alike related a b) (hvalues : related key x y) :
    Alike related (insert key x a) (insert key y b) := by
  induction halike with
  | nil => exact .cons ⟨rfl, hvalues⟩ .nil
  | @cons first second _ _ hhead htail ih =>
      obtain ⟨k, _⟩ := first
      obtain ⟨_, _⟩ := second
      obtain ⟨rfl, hold⟩ := hhead
      rw [Keyed.insert, Keyed.insert]
      split
      · exact .cons ⟨rfl, hvalues⟩ (.cons ⟨rfl, hold⟩ htail)
      · split
        · exact .cons ⟨rfl, hvalues⟩ htail
        · exact .cons ⟨rfl, hold⟩ ih

theorem Alike.isEmpty_eq (halike : Alike related a b) : a.isEmpty = b.isEmpty := by
  cases halike <;> rfl

/-- Where related values are equal but at the keys that are filtered out, the rest is
the same. -/
theorem Alike.filter_eq (halike : Alike related a b) (kept : String → Bool)
    (hkept : ∀ key x y, related key x y → kept key = true → x = y) :
    a.filter (fun entry => kept entry.1) = b.filter fun entry => kept entry.1 := by
  induction halike with
  | nil => rfl
  | @cons first second _ _ hhead _ ih =>
      obtain ⟨k, x⟩ := first
      obtain ⟨_, y⟩ := second
      obtain ⟨rfl, hvalues⟩ := hhead
      rw [List.filter_cons, List.filter_cons, ih]
      cases hkey : kept k with
      | false => rfl
      | true =>
          obtain rfl := hkept k x y hvalues hkey
          rfl

theorem Alike.map_eq {β : Type} {f : String → α → β} (halike : Alike related a b)
    (hsame : ∀ key x y, related key x y → f key x = f key y) :
    a.map (fun entry => (entry.1, f entry.1 entry.2)) =
      b.map fun entry => (entry.1, f entry.1 entry.2) := by
  induction halike with
  | nil => rfl
  | @cons first second _ _ hhead _ ih =>
      obtain ⟨k, x⟩ := first
      obtain ⟨_, y⟩ := second
      obtain ⟨rfl, hvalues⟩ := hhead
      rw [List.map_cons, List.map_cons, ih, hsame k x y hvalues]

end Keyed

open Keyed (Alike)

namespace Json

variable {related : String → Json → Json → Prop} {x y : Json} {key : String}

/-- Dropping empty fields keeps entries alike if it keeps each pair of related values
related, and both of them or neither are left without content. -/
theorem alike_stripFields {a b : List (String × Json)} (halike : Alike related a b)
    (hstrip : ∀ key x y, related key x y →
      related key x.stripEmpty y.stripEmpty ∧ x.stripEmpty.isEmpty = y.stripEmpty.isEmpty) :
    Alike related (stripFields a) (stripFields b) := by
  induction halike with
  | nil => exact .nil
  | @cons first second _ _ hhead _ ih =>
      obtain ⟨k, x⟩ := first
      obtain ⟨_, y⟩ := second
      obtain ⟨rfl, hvalues⟩ := hhead
      obtain ⟨hrelated, hempty⟩ := hstrip k x y hvalues
      rw [stripFields, stripFields]
      cases hx : x.stripEmpty.isEmpty with
      | true => simpa [hx, ← hempty] using ih
      | false => simpa [hx, ← hempty] using .cons ⟨rfl, hrelated⟩ ih

/-- The values are one, or objects with fields that are alike. -/
def FieldsAlike (related : String → Json → Json → Prop) (x y : Json) : Prop :=
  x = y ∨ ∃ a b, x = .obj a ∧ y = .obj b ∧ Alike related a b

theorem FieldsAlike.fieldsOrNone (halike : FieldsAlike related x y)
    (hrefl : ∀ key value, related key value value) :
    Alike related x.fieldsOrNone y.fieldsOrNone := by
  rcases halike with rfl | ⟨_, _, rfl, rfl, hfields⟩
  · exact Alike.refl hrefl _
  · exact hfields

theorem FieldsAlike.stripEmpty (halike : FieldsAlike related x y)
    (hstrip : ∀ key x y, related key x y →
      related key x.stripEmpty y.stripEmpty ∧ x.stripEmpty.isEmpty = y.stripEmpty.isEmpty) :
    FieldsAlike related x.stripEmpty y.stripEmpty ∧
      x.stripEmpty.isEmpty = y.stripEmpty.isEmpty := by
  rcases halike with rfl | ⟨_, _, rfl, rfl, hfields⟩
  · exact ⟨.inl rfl, rfl⟩
  · have hstripped := alike_stripFields hfields hstrip
    exact ⟨.inr ⟨_, _, rfl, rfl, hstripped⟩, hstripped.isEmpty_eq⟩

end Json

namespace Store

open Json (FieldsAlike)

variable {x y : Json} {key field : String}

/-! ## Bodies that differ in their addresses -/

/-- The fields of the spec of a service that hold its address. -/
def addressFields : List String := ["clusterIP", "clusterIPs"]

/-- A value that dropping empty fields leaves as it is. -/
structure IsSolid (value : Json) : Prop where
  stripEmpty : value.stripEmpty = value
  isEmpty : value.isEmpty = false

/-- Values of one field of a spec, which may be different addresses. -/
def SpecRelated (key : String) (x y : Json) : Prop :=
  x = y ∨ key ∈ addressFields ∧ IsSolid x ∧ IsSolid y

/-- Values of one field of a body, which may be specs with different addresses. -/
def BodyRelated (key : String) (x y : Json) : Prop :=
  x = y ∨ key = "spec" ∧ FieldsAlike SpecRelated x y

/-- The bodies differ at most in their addresses. -/
def SameButAddress (a b : Json) : Prop := FieldsAlike BodyRelated a b

theorem specRelated_stripEmpty (hrelated : SpecRelated key x y) :
    SpecRelated key x.stripEmpty y.stripEmpty ∧
      x.stripEmpty.isEmpty = y.stripEmpty.isEmpty := by
  rcases hrelated with rfl | ⟨hkey, hx, hy⟩
  · exact ⟨.inl rfl, rfl⟩
  · rw [hx.stripEmpty, hy.stripEmpty, hx.isEmpty, hy.isEmpty]
    exact ⟨.inr ⟨hkey, hx, hy⟩, rfl⟩

theorem bodyRelated_stripEmpty (hrelated : BodyRelated key x y) :
    BodyRelated key x.stripEmpty y.stripEmpty ∧
      x.stripEmpty.isEmpty = y.stripEmpty.isEmpty := by
  rcases hrelated with rfl | ⟨hkey, hspecs⟩
  · exact ⟨.inl rfl, rfl⟩
  · obtain ⟨hstripped, hempty⟩ := hspecs.stripEmpty fun _ _ _ => specRelated_stripEmpty
    exact ⟨.inr ⟨hkey, hstripped⟩, hempty⟩

theorem SameButAddress.stripEmpty (hsame : SameButAddress x y) :
    SameButAddress x.stripEmpty y.stripEmpty :=
  (FieldsAlike.stripEmpty hsame fun _ _ _ => bodyRelated_stripEmpty).1

theorem SameButAddress.setAt {a b : Json} (hsame : SameButAddress a b)
    (hvalues : SpecRelated field x y) :
    SameButAddress (a.setAt ["spec", field] x) (b.setAt ["spec", field] y) := by
  have hfields := FieldsAlike.fieldsOrNone hsame fun _ _ => .inl rfl
  have hspec : Alike SpecRelated
      ((Keyed.get? "spec" a.fieldsOrNone).getD .empty).fieldsOrNone
      ((Keyed.get? "spec" b.fieldsOrNone).getD .empty).fieldsOrNone := by
    rcases hfields.get? "spec" with ⟨hnone, hnone'⟩ | ⟨x, y, hx, hy, hrelated⟩
    · rw [hnone, hnone']
      exact .nil
    · have hspecs : FieldsAlike SpecRelated x y := hrelated.elim .inl And.right
      rw [hx, hy]
      exact hspecs.fieldsOrNone fun _ _ => .inl rfl
  have hset := hfields.insert (.inr ⟨rfl, .inr ⟨_, _, rfl, rfl, hspec.insert hvalues⟩⟩)
  exact .inr ⟨_, _, rfl, rfl, hset⟩

theorem isSolid_address (number : Nat) : IsSolid (.str ("10.96.0." ++ toString number)) :=
  ⟨rfl, by simp [Json.isEmpty]⟩

theorem isSolid_addresses (number : Nat) :
    IsSolid (.arr [.str ("10.96.0." ++ toString number)]) :=
  ⟨rfl, rfl⟩

/-- Whatever number its address is made from, the same fields are set of a service. -/
theorem sameButAddress_allocate (m n : Nat) (body : Json) :
    SameButAddress (allocate m body) (allocate n body) := by
  have hgiven : SameButAddress
      ((body.setAt ["spec", "clusterIP"] (.str ("10.96.0." ++ toString m))).setAt
        ["spec", "clusterIPs"] (.arr [.str ("10.96.0." ++ toString m)]))
      ((body.setAt ["spec", "clusterIP"] (.str ("10.96.0." ++ toString n))).setAt
        ["spec", "clusterIPs"] (.arr [.str ("10.96.0." ++ toString n)])) := by
    refine SameButAddress.setAt (SameButAddress.setAt (.inl rfl) ?_) ?_
    · exact .inr ⟨by simp [addressFields], isSolid_address m, isSolid_address n⟩
    · exact .inr ⟨by simp [addressFields], isSolid_addresses m, isSolid_addresses n⟩
  unfold allocate
  refine SameButAddress.setAt ?_ (.inl rfl)
  split
  · exact hgiven
  · exact hgiven
  · exact .inl rfl

theorem allocate_of_isUnset_eq_false {body : Json}
    (hasks : isUnset (body.at? ["spec", "clusterIP"]) = false) (m n : Nat) :
    allocate m body = allocate n body := by
  unfold allocate
  cases hip : body.at? ["spec", "clusterIP"] with
  | none => simp [hip, isUnset] at hasks
  | some ip => cases ip <;> simp_all [isUnset]

theorem SameButAddress.withoutSpecFields_eq {a b : Json} (hsame : SameButAddress a b) :
    a.withoutSpecFields addressFields = b.withoutSpecFields addressFields := by
  have hspecs : ∀ x y, FieldsAlike SpecRelated x y →
      Json.withoutFieldsOf addressFields "spec" x =
        Json.withoutFieldsOf addressFields "spec" y := by
    rintro x y (rfl | ⟨a, b, rfl, rfl, halike⟩)
    · rfl
    · have hkept := halike.filter_eq (fun key => !addressFields.contains key) ?_
      · simp only [Json.withoutFieldsOf, if_true, hkept]
      · rintro key x y (rfl | ⟨hkey, -⟩) hkept
        · rfl
        · simp [hkey] at hkept
  rcases hsame with rfl | ⟨a, b, rfl, rfl, halike⟩
  · rfl
  · have hvalues : ∀ key x y, BodyRelated key x y →
        Json.withoutFieldsOf addressFields key x =
          Json.withoutFieldsOf addressFields key y := by
      rintro key x y (rfl | ⟨rfl, hrelated⟩)
      · rfl
      · exact hspecs x y hrelated
    simp only [Json.withoutSpecFields, halike.map_eq hvalues]

end Store

end AgentOperator
