import AgentOperator.Yaml.Event
import AgentOperator.Yaml.Scalar

/-!
# Reading a document

The events of a document give its value. An alias is read again at the node that
its anchor names; collections nest at most 128 deep, aliases included, and an
alias may be followed only a hundred times for each event.
-/

namespace AgentOperator.Yaml

/-- An event whose alias names its target by a number. -/
inductive Item
  | alias (target : Nat)
  | scalar (tag : Option Tag) (text : String) (style : Style)
  | sequenceStart (tag : Option Tag)
  | sequenceEnd
  | mappingStart (tag : Option Tag)
  | mappingEnd
deriving Inhabited

/-- The items from each anchored node on, by number. -/
abbrev Targets := List (Nat × List Item)

def Targets.get? (targets : Targets) (number : Nat) : Option (List Item) :=
  (targets.find? fun entry => entry.1 == number).map Prod.snd

def Event.anchor? : Event → Option String
  | .scalar properties _ _ | .sequenceStart properties | .mappingStart properties =>
    properties.anchor
  | _ => none

def Event.item? (anchors : List (String × Nat)) : Event → Option Item
  | .alias name => (Keyed.get? name anchors).map .alias
  | .scalar properties text style => some (.scalar properties.tag text style)
  | .sequenceStart properties => some (.sequenceStart properties.tag)
  | .sequenceEnd => some .sequenceEnd
  | .mappingStart properties => some (.mappingStart properties.tag)
  | .mappingEnd => some .mappingEnd

/-- Resolve aliases. An anchor is numbered by the count of names before it, and
of several anchors with one number the last is the target. -/
def link? (anchors : List (String × Nat)) : List Event → Option (List Item × Targets)
  | [] => some ([], [])
  | event :: rest => do
    let item ← event.item? anchors
    match event.anchor? with
    | none =>
      let (items, targets) ← link? anchors rest
      return (item :: items, targets)
    | some name =>
      let number := anchors.length
      let (items, targets) ← link? (Keyed.insert name number anchors) rest
      let items := item :: items
      return (items, targets ++ [(number, items)])

/-- The value with the document's own tag, if there is one. -/
def withTag (tag : Option Tag) (value : Value) : Value :=
  match tag.bind Tag.ownName? with
  | some t => .tagged t value
  | none => value

/-- What a scalar stands for; one with a tag of the document's own is read as if
it had none. -/
def readScalar? (tag : Option Tag) (text : String) (style : Style) : Option Value :=
  match tag.bind Tag.ownName? with
  | some t => (untaggedValue? text style).map (.tagged t)
  | none => scalarValue? tag text style

mutual

/-- Read the value at the front of the items. The numbers are the steps left,
the depth left and the jumps left; what is read leaves items and jumps. -/
def readValue? (targets : Targets) :
    Nat → Nat → Nat → List Item → Option (Value × List Item × Nat)
  | 0, _, _, _ => none
  | steps + 1, depth, jumps, items =>
    match items with
    | .alias number :: rest =>
      match targets.get? number, jumps with
      | some target, jumps + 1 => do
        let (value, _, jumps) ← readValue? targets steps depth jumps target
        return (value, rest, jumps)
      | _, _ => none
    | .scalar tag text style :: rest =>
      (readScalar? tag text style).map fun value => (value, rest, jumps)
    | .sequenceStart tag :: rest =>
      match depth with
      | 0 => none
      | depth + 1 => do
        let (elements, rest, jumps) ← readElements? targets steps depth jumps rest
        return (withTag tag (.seq elements), rest, jumps)
    | .mappingStart tag :: rest =>
      match depth with
      | 0 => none
      | depth + 1 => do
        let (entries, rest, jumps) ← readEntries? targets steps depth jumps [] rest
        return (withTag tag (.map entries), rest, jumps)
    | _ => none

def readElements? (targets : Targets) :
    Nat → Nat → Nat → List Item → Option (List Value × List Item × Nat)
  | 0, _, _, _ => none
  | steps + 1, depth, jumps, items =>
    match items with
    | .sequenceEnd :: rest => some ([], rest, jumps)
    | items => do
      let (value, rest, jumps) ← readValue? targets steps depth jumps items
      let (values, rest, jumps) ← readElements? targets steps depth jumps rest
      return (value :: values, rest, jumps)

/-- Read the entries of a mapping and its end; a key may occur only once. -/
def readEntries? (targets : Targets) :
    Nat → Nat → Nat → List Value → List Item →
      Option (List (Value × Value) × List Item × Nat)
  | 0, _, _, _, _ => none
  | steps + 1, depth, jumps, seen, items =>
    match items with
    | .mappingEnd :: rest => some ([], rest, jumps)
    | items => do
      let (key, rest, jumps) ← readValue? targets steps depth jumps items
      if seen.any fun other => key.same other then none
      else
        let (value, rest, jumps) ← readValue? targets steps depth jumps rest
        let (entries, rest, jumps) ← readEntries? targets steps depth jumps (key :: seen) rest
        return ((key, value) :: entries, rest, jumps)

end

def deepest : Nat := 128

/-- The value of the document that a text holds; a text without a document is
null. -/
def read? (text : String) : Option Value := do
  let tokens ← tokens? text
  let events ← events? tokens
  if events.isEmpty then some .null
  else
    let (items, targets) ← link? [] events
    let steps := (deepest + 2) * (items.length + 4)
    let (value, _, _) ← readValue? targets steps deepest (100 * items.length) items
    some value

end AgentOperator.Yaml
