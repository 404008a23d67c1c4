import AgentOperator.Json.Basic

/-!
# Records

A record is read from an object by the names of its fields, and fields of other
names are passed over, readable or not. A plain record is also read from an array
that lists its fields in order, and refuses a field that is given twice. An open record is read from an object only; of the values
given for one field each has to be readable, and the last one counts.
-/

namespace AgentOperator.Json

/-- The fields that were given for a record, in the order of the text. -/
abbrev Record := List (String × Json)

/-- The fields of a plain record with the given field names. An array has to list
the first of them, at least as many as are said. -/
def record? (names : List String) (json : Json) (least : Nat := 0) : Option Record :=
  match json with
  | obj fields =>
    let known := fields.filter fun entry => names.contains entry.1
    if (known.map Prod.fst).Nodup then some known else none
  | arr elements =>
    if least ≤ elements.length ∧ elements.length ≤ names.length then
      some (names.zip elements)
    else none
  | _ => none

def openRecord? : Json → Option Record
  | obj fields => some fields
  | _ => none

namespace Record

/-- The values given for a field, in order. -/
def values (r : Record) (name : String) : List Json :=
  (r.filter fun entry => entry.1 == name).map Prod.snd

/-- A field that has to be given. -/
def required? {α : Type} (r : Record) (name : String) (read : Json → Option α) :
    Option α :=
  (Keyed.get? name r).bind read

def defaulted? {α : Type} (r : Record) (name : String) (default : α)
    (read : Json → Option α) : Option α :=
  match Keyed.get? name r with
  | none => some default
  | some value => read value

/-- An optional field; null stands for none. Of several values each has to be
readable, and the last one counts. -/
def optional? {α : Type} (r : Record) (name : String) (read : Json → Option α) :
    Option (Option α) :=
  (r.values name).foldlM
    (fun _ value => if value.isNull then some none else (read value).map some) none

/-- A field of an open record whose default also stands for null. -/
def filled? {α : Type} (r : Record) (name : String) (default : α)
    (read : Json → Option α) : Option α :=
  (r.optional? name read).map fun value => value.getD default

end Record

def int32? : Json → Option Int32
  | int n => if -Int.pow 2 31 ≤ n ∧ n < Int.pow 2 31 then some (.ofInt n) else none
  | _ => none

def int64? : Json → Option Int64
  | int n => if -Int.pow 2 63 ≤ n ∧ n < Int.pow 2 63 then some (.ofInt n) else none
  | _ => none

/-- A whole number from zero up to below a bound. -/
def natBelow? (bound : Nat) : Json → Option Nat
  | int n => if 0 ≤ n ∧ n < bound then some n.toNat else none
  | _ => none

/-- A list whose elements are all read. -/
def list? {α : Type} (read : Json → Option α) : Json → Option (List α)
  | arr elements => elements.mapM read
  | _ => none

/-- A map whose values are all read, the last value of a key winning. -/
def dict? {α : Type} (read : Json → Option α) : Json → Option (Dict α)
  | obj fields =>
    (fields.mapM fun entry => (read entry.2).map fun value => (entry.1, value)).map
      Dict.ofList
  | _ => none

/-- One of a list of named choices: its name, or an object that holds null at
its name. -/
def choice? {α : Type} (choices : List (String × α)) : Json → Option α
  | str name => Keyed.get? name choices
  | obj [(name, null)] => Keyed.get? name choices
  | _ => none

def ofPresent (fields : List (String × Option Json)) : Json :=
  mkObj (fields.filterMap fun entry => entry.2.map fun value => (entry.1, value))

end AgentOperator.Json
