import AgentOperator.Decimal.Shortest
import AgentOperator.Dict

/-!
# JSON values

The values in which objects travel. Numbers written without a fraction or an
exponent are whole numbers, all others are floating-point, and the two never
equal each other. The fields of an object are entries in key order; `Canonical`
says so for a value and everything inside it, and what reads, merges or patches
values keeps it.

A text can also hold parts that are well formed and stand for no value. They are
kept in their places, because a record that passes over a field passes over what
is in it as well; whatever takes in a value refuses them, and no canonical value
has any.
-/

namespace AgentOperator

open Decimal (Binary64)

inductive Json
  | null
  | bool (value : Bool)
  | int (value : Int)
  | real (value : Binary64)
  | str (value : String)
  | arr (elements : List Json)
  | obj (fields : List (String × Json))
  /-- A part of a text that stands for no value: a number that is too large, a
  string with half a surrogate pair, or containers that nest too deep. -/
  | unreadable
deriving Inhabited

namespace Json

mutual

/-- Equality of values: zeros of either sign are equal, and a whole number never
equals a floating-point one. -/
def same : Json → Json → Bool
  | null, null => true
  | bool a, bool b => a == b
  | int a, int b => a == b
  | real a, real b => a.same b
  | str a, str b => a == b
  | arr a, arr b => sameElements a b
  | obj a, obj b => sameFields a b
  | unreadable, unreadable => true
  | _, _ => false

def sameElements : List Json → List Json → Bool
  | [], [] => true
  | a :: as, b :: bs => same a b && sameElements as bs
  | _, _ => false

def sameFields : List (String × Json) → List (String × Json) → Bool
  | [], [] => true
  | (k, a) :: as, (l, b) :: bs => k == l && same a b && sameFields as bs
  | _, _ => false

end

instance : BEq Json := ⟨same⟩

mutual

/-- Whether two values are one and the same, the signs of zeros and the order of
fields included. -/
def identical : Json → Json → Bool
  | null, null => true
  | bool a, bool b => a = b
  | int a, int b => a = b
  | real a, real b => a = b
  | str a, str b => a = b
  | arr a, arr b => identicalElements a b
  | obj a, obj b => identicalFields a b
  | unreadable, unreadable => true
  | _, _ => false

/-- Whether two lists of values are one and the same. -/
def identicalElements : List Json → List Json → Bool
  | [], [] => true
  | a :: as, b :: bs => identical a b && identicalElements as bs
  | _, _ => false

/-- Whether two lists of fields are one and the same. -/
def identicalFields : List (String × Json) → List (String × Json) → Bool
  | [], [] => true
  | (k, a) :: as, (l, b) :: bs => k = l && identical a b && identicalFields as bs
  | _, _ => false

end

mutual

theorem identical_iff (a b : Json) : identical a b = true ↔ a = b := by
  cases a with
  | arr a => cases b <;> simp [identical, identicalElements_iff a]
  | obj a => cases b <;> simp [identical, identicalFields_iff a]
  | _ => cases b <;> simp [identical]

theorem identicalElements_iff (a b : List Json) :
    identicalElements a b = true ↔ a = b := by
  match a, b with
  | [], [] => simp [identicalElements]
  | [], _ :: _ => simp [identicalElements]
  | _ :: _, [] => simp [identicalElements]
  | x :: xs, y :: ys =>
    simp [identicalElements, identical_iff x y, identicalElements_iff xs ys]

theorem identicalFields_iff (a b : List (String × Json)) :
    identicalFields a b = true ↔ a = b := by
  match a, b with
  | [], [] => simp [identicalFields]
  | [], _ :: _ => simp [identicalFields]
  | _ :: _, [] => simp [identicalFields]
  | (k, x) :: xs, (l, y) :: ys =>
    simp [identicalFields, identical_iff x y, identicalFields_iff xs ys, and_assoc]

end

instance : DecidableEq Json := fun a b => decidable_of_iff _ (identical_iff a b)

/-- The value is in canonical form: every part of it is readable, and the fields
of every object in it are in key order. -/
inductive Canonical : Json → Prop
  | null : Canonical null
  | bool (b : Bool) : Canonical (bool b)
  | int (n : Int) : Canonical (int n)
  | real (x : Binary64) : Canonical (real x)
  | str (s : String) : Canonical (str s)
  | arr (elements : List Json) (inside : ∀ e ∈ elements, Canonical e) :
    Canonical (arr elements)
  | obj (fields : List (String × Json)) (ordered : Keyed.Ordered fields)
    (inside : ∀ entry ∈ fields, Canonical entry.2) : Canonical (obj fields)

mutual

/-- The value with the fields of every object in key order, the last of several
values for a key winning. Each part has to be readable, those that are not kept
included. -/
def canonical? : Json → Option Json
  | arr elements => (canonicalElements? elements).map arr
  | obj fields => (canonicalFields? [] fields).map obj
  | unreadable => none
  | other => some other

def canonicalElements? : List Json → Option (List Json)
  | [] => some []
  | element :: rest =>
    (canonical? element).bind fun element =>
      (canonicalElements? rest).map (element :: ·)

/-- Fill a list in key order with fields in canonical form. -/
def canonicalFields? (acc : List (String × Json)) :
    List (String × Json) → Option (List (String × Json))
  | [] => some acc
  | (key, value) :: rest =>
    (canonical? value).bind fun value =>
      canonicalFields? (Keyed.insert key value acc) rest

end

/-- The object with the given fields, the last of several values for a key
winning. -/
def mkObj (fields : List (String × Json)) : Json := obj (Keyed.ofList fields)

/-- The object without fields. -/
def empty : Json := obj []

def ofDict {α : Type} (f : α → Json) (d : Dict α) : Json :=
  obj (d.entries.map fun entry => (entry.1, f entry.2))

def ofList {α : Type} (f : α → Json) (xs : List α) : Json := arr (xs.map f)

/-- The value of an optional one, an absent one being null. -/
def ofOption {α : Type} (f : α → Json) : Option α → Json
  | none => null
  | some x => f x

/-- A field of an object; other values have none. -/
def field? : Json → String → Option Json
  | obj fields, key => Keyed.get? key fields
  | _, _ => none

def str? : Json → Option String
  | str s => some s
  | _ => none

def bool? : Json → Option Bool
  | bool b => some b
  | _ => none

def int? : Json → Option Int
  | int n => some n
  | _ => none

def arr? : Json → Option (List Json)
  | arr elements => some elements
  | _ => none

def obj? : Json → Option (List (String × Json))
  | obj fields => some fields
  | _ => none

/-- Whether the value is null. -/
def isNull : Json → Bool
  | null => true
  | _ => false

end Json

end AgentOperator
