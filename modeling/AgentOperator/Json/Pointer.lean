import AgentOperator.Json.Basic
import AgentOperator.Text.Digit

/-!
# Paths into a value

A path is a list of segments. Reading follows object fields by key and array
elements by index; writing follows fields only, makes the objects that are
missing on the way, and puts an object in the place of any other value it has to
pass through.
-/

namespace AgentOperator.Json

abbrev Path := List String

/-- The text of a path: each segment after a slash. -/
def Path.text (path : Path) : String :=
  String.join (path.map fun segment => "/" ++ segment)

/-- The index that a segment names: decimal digits without a leading zero. -/
def index? (segment : String) : Option Nat :=
  match segment.toList with
  | [] => none
  | first :: rest =>
    if (first :: rest).all Char.isDigit && (first != '0' || rest.isEmpty) then
      some (Text.decimalValue (first :: rest))
    else none

def child? (value : Json) (segment : String) : Option Json :=
  match value with
  | obj fields => Keyed.get? segment fields
  | arr elements => (index? segment).bind fun i => elements[i]?
  | _ => none

def at? (value : Json) : Path → Option Json
  | [] => some value
  | segment :: rest => (value.child? segment).bind fun inner => inner.at? rest

/-- The fields of an object; any other value counts as an object without fields. -/
def fieldsOrNone : Json → List (String × Json)
  | obj fields => fields
  | _ => []

def setAt (value : Json) (path : Path) (new : Json) : Json :=
  match path with
  | [] => new
  | segment :: rest =>
    let fields := value.fieldsOrNone
    let inner := (Keyed.get? segment fields).getD empty
    obj (Keyed.insert segment (inner.setAt rest new) fields)

/-- The segments of a key that is used as a path: it is cut at each slash. -/
def segmentsOf (key : String) : Path :=
  (key.toList.splitOn '/').map String.ofList

end AgentOperator.Json
