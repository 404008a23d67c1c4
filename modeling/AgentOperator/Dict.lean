import AgentOperator.Keyed

/-!
# Maps with text keys

A finite map from texts to values. It holds its entries in key order, so a map
is determined by its look-ups and listing it gives the entries in the order in
which they are published.
-/

namespace AgentOperator

/-- A finite map from texts to values, listed in key order. -/
structure Dict (α : Type) where
  /-- The entries in key order. -/
  entries : List (String × α)
  /-- The keys ascend strictly. -/
  ordered : Keyed.Ordered entries

namespace Dict

variable {α β : Type}

instance [DecidableEq α] : DecidableEq (Dict α) := fun a b =>
  if h : a.entries = b.entries then
    isTrue (by cases a; cases b; cases h; rfl)
  else isFalse fun eq => h (congrArg Dict.entries eq)

/-- The map without entries. -/
def empty : Dict α := ⟨[], Keyed.ordered_nil⟩

instance : EmptyCollection (Dict α) := ⟨empty⟩

instance : Inhabited (Dict α) := ⟨empty⟩

def isEmpty (d : Dict α) : Bool := d.entries.isEmpty

def get? (d : Dict α) (key : String) : Option α := Keyed.get? key d.entries

def contains (d : Dict α) (key : String) : Bool := (d.get? key).isSome

/-- Put a value at a key, in the place of the one that was there. -/
def insert (d : Dict α) (key : String) (value : α) : Dict α :=
  ⟨Keyed.insert key value d.entries, d.ordered.insert key value⟩

def erase (d : Dict α) (key : String) : Dict α :=
  ⟨Keyed.erase key d.entries, d.ordered.erase key⟩

/-- The map that holds the last value given for each key. -/
def ofList (entries : List (String × α)) : Dict α :=
  ⟨Keyed.ofList entries, Keyed.ordered_ofList entries⟩

/-- The first map overlaid with the second. -/
def merge (d more : Dict α) : Dict α :=
  ⟨Keyed.merge d.entries more.entries, d.ordered.merge more.entries⟩

/-- The entries whose key satisfies a test. -/
def filterKeys (d : Dict α) (keep : String → Bool) : Dict α :=
  ⟨d.entries.filter fun entry => keep entry.1, List.Pairwise.filter _ d.ordered⟩

@[simp] theorem get?_insert_self (d : Dict α) (key : String) (value : α) :
    (d.insert key value).get? key = some value :=
  Keyed.get?_insert_self key value d.entries

theorem get?_insert_of_ne (d : Dict α) {key other : String} (ne : other ≠ key)
    (value : α) : (d.insert key value).get? other = d.get? other :=
  Keyed.get?_insert_of_ne ne value d.entries

end Dict

end AgentOperator
