import AgentOperator.Object.Basic
import AgentOperator.Proofs.Json.Path

/-!
# Well-formed objects

What every object that travels satisfies, and what the objects that are made
for an agent satisfy beside it.  The immutable fields of all kinds are paths of
two segments below the spec, so an object whose spec is no other value than an
object can take any of them.
-/

namespace AgentOperator

/-! ## Bodies -/

/-- The body as an object: itself if it is one, else the object without fields. -/
def Json.asObject (body : Json) : Json := .obj body.fieldsOrNone

def Json.IsObject (body : Json) : Prop := body = body.asObject

theorem Json.isObject_obj (fields : List (String × Json)) : (Json.obj fields).IsObject := rfl

/-- A field of the spec is the same in a body as in the object that it counts as. -/
theorem Json.at?_asObject (body : Json) (field : String) :
    body.asObject.at? ["spec", field] = body.at? ["spec", field] := by
  have hindex : Json.index? "spec" = none := by decide
  cases body with
  | arr elements =>
      simp [Json.asObject, Json.fieldsOrNone, Json.at?, Json.child?, Keyed.get?, hindex]
  | _ => simp [Json.asObject, Json.fieldsOrNone, Json.at?, Json.child?, Keyed.get?]

/-- A body that is an object, in canonical form. -/
structure Json.IsBody (body : Json) : Prop where
  isObject : body = .obj body.fieldsOrNone
  canonical : body.Canonical

/-- A body as it is made for an agent: no key of it has a slash in it, and a spec
is an object. -/
structure Json.IsBuiltBody (body : Json) : Prop extends body.IsBody where
  plain : ∀ entry ∈ body.fieldsOrNone, Json.segmentsOf entry.1 = [entry.1]
  spec : ∀ value, Keyed.get? "spec" body.fieldsOrNone = some value →
    value = .obj value.fieldsOrNone

theorem Json.IsBody.setAt {body value : Json} (hbody : body.IsBody)
    (hvalue : value.Canonical) (segment : String) (rest : Json.Path) :
    (body.setAt (segment :: rest) value).IsBody :=
  ⟨rfl, hbody.canonical.setAt hvalue _⟩

theorem Json.segmentsOf_of_notMem {key : String} (hkey : '/' ∉ key.toList) :
    Json.segmentsOf key = [key] := by
  unfold Json.segmentsOf
  rw [List.splitOn_eq_singleton hkey]
  simp

theorem Json.segmentsOf_spec : Json.segmentsOf "spec" = ["spec"] := by
  decide

theorem Json.IsBuiltBody.setAt {body value : Json} (hbody : body.IsBuiltBody)
    (hvalue : value.Canonical) (field : String) :
    (body.setAt ["spec", field] value).IsBuiltBody := by
  refine ⟨hbody.toIsBody.setAt hvalue _ _, ?_, ?_⟩
  · intro entry hmem
    rcases Keyed.mem_insert hmem with rfl | hold
    · exact Json.segmentsOf_spec
    · exact hbody.plain entry hold
  · intro inner hinner
    rw [Json.setAt_cons, Json.fieldsOrNone_obj, Keyed.get?_insert_self] at hinner
    obtain rfl := Option.some.inj hinner
    rfl

/-- The body has no spec, or one that is an object. -/
def Json.HasOpenSpec (body : Json) : Prop :=
  ∀ spec, body.field? "spec" = some spec → ∃ fields, spec = .obj fields

theorem Json.HasOpenSpec.isOpenTo {fields : List (String × Json)}
    (hspec : (Json.obj fields).HasOpenSpec) (field : String) :
    (Json.obj fields).IsOpenTo ["spec", field] := by
  refine ⟨⟨fields, rfl⟩, ?_⟩
  intro _ spec hfound
  exact ⟨hspec spec hfound, fun hne => absurd rfl hne⟩

theorem Json.IsBuiltBody.isOpenTo {body : Json} (hbody : body.IsBuiltBody)
    (field : String) : body.IsOpenTo ["spec", field] := by
  have hspec : (Json.obj body.fieldsOrNone).HasOpenSpec :=
    fun spec hfound => ⟨_, hbody.spec spec hfound⟩
  rw [hbody.isObject]
  exact hspec.isOpenTo field

theorem Json.IsBuiltBody.at?_setAt_of_ne {body : Json} (hbody : body.IsBuiltBody)
    {field other : String} (hne : field ≠ other) (value : Json) :
    (body.setAt ["spec", field] value).at? ["spec", other] = body.at? ["spec", other] := by
  refine Json.at?_setAt_of_incomparable value (hbody.isOpenTo field) ?_ ?_
  · simpa [List.cons_prefix_cons] using hne
  · simpa [List.cons_prefix_cons] using hne.symm

/-! ## Immutable fields -/

namespace Kind

/-- Neither of two paths leads through the other. -/
def Incomparable (path other : Json.Path) : Prop := ¬ path <+: other ∧ ¬ other <+: path

instance (path other : Json.Path) : Decidable (Incomparable path other) :=
  inferInstanceAs (Decidable (_ ∧ _))

theorem immutableFields_pairwise (kind : Kind) :
    kind.immutableFields.Pairwise Incomparable := by
  cases kind <;> decide

theorem immutableFields_below_spec {kind : Kind} {path : Json.Path}
    (hmem : path ∈ kind.immutableFields) : ∃ field, path = ["spec", field] := by
  have hshape : ∀ path ∈ kind.immutableFields,
      path = ["spec", path.getLast?.getD ""] := by
    cases kind <;> decide
  exact ⟨_, hshape path hmem⟩

end Kind

/-! ## Objects -/

/-- An object as it travels: it has a name, and its body is in canonical form.  The
body need not be an object. -/
structure Object.IsProper (o : Object) : Prop where
  named : o.metadata.name.isSome = true
  body : o.body.Canonical

/-- An object as it is made for an agent. -/
structure Object.IsBuilt (o : Object) : Prop where
  named : o.metadata.name.isSome = true
  body : o.body.IsBuiltBody

theorem Object.IsBuilt.isProper {o : Object} (hbuilt : o.IsBuilt) : o.IsProper :=
  ⟨hbuilt.named, hbuilt.body.canonical⟩

/-- Changes to an object that leave it the object that it is. -/
structure Object.SameIdentity (before after : Object) : Prop where
  name : after.metadata.name = before.metadata.name
  namespaceName : after.metadata.namespaceName = before.metadata.namespaceName
  uid : after.metadata.uid = before.metadata.uid

end AgentOperator
