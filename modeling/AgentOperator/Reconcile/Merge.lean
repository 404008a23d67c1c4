import AgentOperator.Json.Drift
import AgentOperator.Object.Basic

/-!
# Desired and live objects

How a desired object is brought together with the live one: fields that cannot
change keep their live value, an object that already holds what is desired is
left alone, and any other is written over the live one so that what others have
put there survives.
-/

namespace AgentOperator

/-- A value with content. -/
def Json.content? (value : Option Json) : Option Json :=
  value.filter fun v => !v.isEmpty

/-- Carry the live values of fields that cannot change into a desired body, field
by field, up to the first field on which the two disagree. -/
def mergeFields (live : Json) : List Json.Path → Json → Option Json.Path × Json
  | [], target => (none, target)
  | path :: rest, target =>
    match Json.content? (live.at? path) with
    | none => mergeFields live rest target
    | some value =>
      match Json.content? (target.at? path) with
      | none => mergeFields live rest (target.setAt path value)
      | some wanted =>
        if wanted == value then mergeFields live rest target else (some path, target)

/-- A desired object with the live values of the fields that cannot change, and
the first such field on which the two objects disagree. -/
def mergeImmutable (kind : Kind) (live desired : Object) : Option Json.Path × Object :=
  let (conflict, body) := mergeFields live.body kind.immutableFields desired.body
  (conflict, { desired with body })

def hasEntries (live desired : Option (Dict String)) : Bool :=
  (desired.getD ∅).entries.all fun entry => (live.getD ∅).get? entry.1 == some entry.2

def hasOwners (live desired : Option (List OwnerReference)) : Bool :=
  (desired.getD []).all fun owner => (live.getD []).contains owner

/-- Whether writing the desired object would change nothing of the live one. -/
def isUnchanged (live desired : Object) : Bool :=
  hasOwners live.metadata.ownerReferences desired.metadata.ownerReferences &&
    hasEntries live.metadata.labels desired.metadata.labels &&
    hasEntries live.metadata.annotations desired.metadata.annotations &&
    live.body.contains desired.body

/-- A live map with the desired entries over it. -/
def overlayEntries (live desired : Option (Dict String)) : Option (Dict String) :=
  match desired with
  | none => live
  | some entries => some ((live.getD ∅).merge entries)

/-- A live body with the desired top-level fields over it. -/
def overlayBody (live desired : Json) : Json :=
  desired.fieldsOrNone.foldl
    (fun body entry => body.setAt (Json.segmentsOf entry.1) entry.2) live

/-- The object to write: the live one, with the desired labels, annotations,
owners and top-level fields over it. -/
def updatedObject (live desired : Object) : Object :=
  { types := desired.types <|> live.types
    metadata := {
      live.metadata with
      labels := overlayEntries live.metadata.labels desired.metadata.labels
      annotations := overlayEntries live.metadata.annotations desired.metadata.annotations
      ownerReferences :=
        desired.metadata.ownerReferences <|> live.metadata.ownerReferences }
    body := overlayBody live.body desired.body }

end AgentOperator
