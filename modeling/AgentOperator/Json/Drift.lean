import AgentOperator.Json.Basic

/-!
# Drift

Whether a live value still holds everything that a desired value asks for. The
live value may carry more: fields that are not asked for are ignored, and a
field that asks for nothing (null, an empty text, array or object, false or
zero) may be missing.
-/

namespace AgentOperator.Json

/-- A value without content. -/
def isEmpty : Json → Bool
  | null => true
  | str s => s == ""
  | arr elements => elements.isEmpty
  | obj fields => fields.isEmpty
  | _ => false

/-- A value that may be left out when an object is stored. -/
def isOmissible : Json → Bool
  | bool b => !b
  | int n => n == 0
  | real x => x.isZero
  | other => other.isEmpty

mutual

/-- Whether a live value holds all that the desired value asks for. -/
def contains : Json → Json → Bool
  | _, null => true
  | obj live, obj desired => containsFields live desired
  | arr live, arr desired => containsElements live desired
  | live, desired => live == desired

/-- Whether each desired field is held by the live fields, or may be missing. -/
def containsFields (live : List (String × Json)) : List (String × Json) → Bool
  | [] => true
  | (key, desired) :: rest =>
    (match Keyed.get? key live with
      | none => desired.isOmissible
      | some value => contains value desired) &&
      containsFields live rest

/-- Whether two arrays of one length agree element by element. -/
def containsElements : List Json → List Json → Bool
  | [], [] => true
  | live :: lives, desired :: rest => contains live desired && containsElements lives rest
  | _, _ => false

end

mutual

/-- The value without the fields that hold no content, inner values first. The
elements of an array stay. -/
def stripEmpty : Json → Json
  | arr elements => arr (stripElements elements)
  | obj fields => obj (stripFields fields)
  | other => other

def stripElements : List Json → List Json
  | [] => []
  | element :: rest => stripEmpty element :: stripElements rest

/-- The fields of an object, each stripped, less those left without content. -/
def stripFields : List (String × Json) → List (String × Json)
  | [] => []
  | (key, value) :: rest =>
    let stripped := stripEmpty value
    if stripped.isEmpty then stripFields rest else (key, stripped) :: stripFields rest

end

end AgentOperator.Json
