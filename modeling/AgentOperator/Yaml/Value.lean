import AgentOperator.Decimal.Binary64

/-!
# YAML values

The values of documents. A value may carry a tag of the document's own, which
look-ups see through. The keys of a mapping are values themselves, no two of
them equal.
-/

namespace AgentOperator.Yaml

open Decimal (Binary64)

inductive Value
  | null
  | bool (b : Bool)
  | int (n : Int)
  | real (x : Binary64)
  | str (s : String)
  | seq (elements : List Value)
  | map (entries : List (Value × Value))
  | tagged (tag : String) (value : Value)
deriving Inhabited

namespace Value

/-- Equality of numbers as keys: what stands for no number is one key. -/
def sameNumber (x y : Binary64) : Bool := x.same y || (x.isNaN && y.isNaN)

/-- The name in a tag, without an exclamation mark in front of it. -/
def tagName (tag : String) : List Char :=
  match tag.toList with
  | '!' :: c :: rest => c :: rest
  | cs => cs

mutual

/-- Equality of values; the entries of a mapping have no order. -/
def same : Value → Value → Bool
  | null, null => true
  | bool a, bool b => a == b
  | int a, int b => a == b
  | real a, real b => sameNumber a b
  | str a, str b => a == b
  | seq a, seq b => sameElements a b
  | map a, map b => a.length == b.length && sameEntries a b
  | tagged s a, tagged t b => tagName s == tagName t && same a b
  | _, _ => false

def sameElements : List Value → List Value → Bool
  | [], [] => true
  | a :: as, b :: bs => same a b && sameElements as bs
  | _, _ => false

/-- Whether each entry of the first mapping is one of the second. -/
def sameEntries : List (Value × Value) → List (Value × Value) → Bool
  | [], _ => true
  | (k, v) :: rest, entries =>
    (entries.any fun entry => same k entry.1 && same v entry.2) && sameEntries rest entries

end

/-- The value without its tags. -/
def untagged : Value → Value
  | tagged _ value => untagged value
  | value => value

def str? (value : Value) : Option String :=
  match value.untagged with
  | str s => some s
  | _ => none

def seq? (value : Value) : Option (List Value) :=
  match value.untagged with
  | seq elements => some elements
  | _ => none

def map? (value : Value) : Option (List (Value × Value)) :=
  match value.untagged with
  | map entries => some entries
  | _ => none

/-- Whether a key is a text without a tag. -/
def isKey (name : String) : Value → Bool
  | str s => s == name
  | _ => false

def get? (value : Value) (name : String) : Option Value :=
  value.map?.bind fun entries => (entries.find? fun entry => entry.1.isKey name).map Prod.snd

def at? (value : Value) (path : List String) : Option Value :=
  path.foldlM get? value

end Value

end AgentOperator.Yaml
