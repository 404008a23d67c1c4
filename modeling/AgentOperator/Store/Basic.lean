import AgentOperator.Agent.Spec
import AgentOperator.Cluster
import AgentOperator.Json.Drift

/-!
# The store

An API server in memory. Objects are kept under their kind, namespace and name;
every write takes the next number of a counter as the version of the object, and
a new object takes its identity from it too. Writes of chosen names can be made
to fail, for ever or a number of times, and the listing of chosen kinds.
-/

namespace AgentOperator

structure StoreKey where
  kind : Kind
  /-- The namespace, empty when there is none. -/
  space : String
  name : String
deriving DecidableEq, Inhabited

namespace StoreKey

/-- The order in which objects are listed: by kind, namespace and name. -/
def isBefore (a b : StoreKey) : Bool :=
  if a.kind ≠ b.kind then a.kind.index < b.kind.index
  else if a.space ≠ b.space then a.space < b.space
  else a.name < b.name

def of (kind : Kind) (space : Option String) (name : String) : StoreKey :=
  ⟨kind, space.getD "", name⟩

def ofObject (kind : Kind) (object : Object) : StoreKey :=
  .of kind object.metadata.namespaceName object.name

def text (k : StoreKey) : String := k.kind.name ++ "/" ++ k.space ++ "/" ++ k.name

end StoreKey

/-- An API server in memory. -/
structure Store where
  /-- The objects in the order of their places. -/
  objects : List (StoreKey × Object) := []
  /-- The last number that was given out. -/
  counter : Nat := 0
  /-- How many writes succeeded. -/
  writes : Nat := 0
  /-- The places of deleted objects, in order. -/
  deleted : List StoreKey := []
  /-- The statuses that were written, in order. -/
  statuses : List Status := []
  /-- The events that were published, in order. -/
  events : List Event := []
  /-- How many more writes of a name end in a conflict. -/
  conflicts : Dict Nat := ∅
  /-- The names whose writes fail. -/
  failing : List String := []
  /-- The kinds that cannot be listed. -/
  unlistable : List Kind := []
  /-- Whether fields without content are dropped when an object is stored. -/
  omitsEmpty : Bool := false
deriving Inhabited

namespace Store

def fault (code : Nat) (reason : String) : Failure :=
  .api { status := "Failure", message := "injected " ++ reason, reason, code }

/-! ## Objects -/

def get? (s : Store) (key : StoreKey) : Option Object :=
  (s.objects.find? fun entry => entry.1 == key).map Prod.snd

/-- Put an object at a place of a list, in the place of the one that was there. -/
def putEntry (key : StoreKey) (object : Object) :
    List (StoreKey × Object) → List (StoreKey × Object)
  | [] => [(key, object)]
  | (k, o) :: rest =>
    if k = key then (key, object) :: rest
    else if key.isBefore k then (key, object) :: (k, o) :: rest
    else (k, o) :: putEntry key object rest

def put (s : Store) (key : StoreKey) (object : Object) : Store :=
  { s with objects := putEntry key object s.objects }

def remove (s : Store) (key : StoreKey) : Store :=
  { s with objects := s.objects.filter fun entry => entry.1 ≠ key }

def tick (s : Store) : Store := { s with counter := s.counter + 1 }

def countWrite (s : Store) : Store := { s with writes := s.writes + 1 }

/-- The identity that is made from the last number. -/
def freshUid (s : Store) : String := "uid-" ++ toString s.counter

/-- The version that is made from the last number. -/
def freshVersion (s : Store) : String := toString s.counter

/-- An object as it is stored: without empty fields, if they are dropped. -/
def stored (s : Store) (object : Object) : Object :=
  if s.omitsEmpty then { object with body := object.body.stripEmpty } else object

/-! ## Addresses of services -/

/-- A field of the body that is absent or null. -/
def isUnset (value : Option Json) : Bool :=
  match value with
  | none | some .null => true
  | _ => false

/-- Give a service an address, unless it has one, and set its type. -/
def allocate (number : Nat) (body : Json) : Json :=
  let body :=
    match body.at? ["spec", "clusterIP"] with
    | none | some .null =>
      let ip := Json.str ("10.96.0." ++ toString number)
      (body.setAt ["spec", "clusterIP"] ip).setAt ["spec", "clusterIPs"] (.arr [ip])
    | some ip =>
      if isUnset (body.at? ["spec", "clusterIPs"]) then
        body.setAt ["spec", "clusterIPs"] (.arr [ip])
      else body
  body.setAt ["spec", "type"] (.str "ClusterIP")

/-- Set the fields of a new object that the server gives a value. -/
def completed (kind : Kind) (number : Nat) (object : Object) : Object :=
  if kind = .service then { object with body := allocate number object.body } else object

/-! ## Selectors -/

def terms (selector : String) : List (List Char) :=
  (selector.toList.splitOn ',').filter fun term => !term.isEmpty

/-- Whether labels satisfy a term: a label with a value, or just a label. -/
def matchesTerm (labels : Dict String) (term : List Char) : Bool :=
  match term.dropWhile fun c => c ≠ '=' with
  | _ :: value =>
    let key := String.ofList (term.takeWhile fun c => c ≠ '=')
    labels.get? key == some (String.ofList value)
  | [] => labels.contains (String.ofList term)

def isSelected (object : Object) (selector : String) : Bool :=
  (terms selector).all (matchesTerm object.labels)

/-! ## Calls -/

/-- Check whether a write of a name is to fail; a conflict is used up. -/
def inject (s : Store) (name : String) : Option Failure × Store :=
  if s.failing.contains name then (some (fault 500 "InternalError"), s)
  else
    match s.conflicts.get? name with
    | some (left + 1) =>
      (some (fault 409 "Conflict"), { s with conflicts := s.conflicts.insert name left })
    | _ => (none, s)

/-- A write that is tried only if it is not to fail. -/
def guarded {α : Type} (name : String) (write : Store → Except Failure α × Store) :
    Action Store α := fun s =>
  match s.inject name with
  | (some failure, s) => (.error failure, s)
  | (none, s) => write s

/-- Make an object, unless there is one at its place. -/
def created (kind : Kind) (object : Object) (s : Store) : Except Failure Object × Store :=
  let key := StoreKey.ofObject kind object
  match s.get? key with
  | some _ => (.error (fault 409 "AlreadyExists"), s)
  | none =>
    let s := s.tick
    let metadata :=
      { object.metadata with resourceVersion := some s.freshVersion, uid := some s.freshUid }
    let made := s.stored (completed kind s.counter { object with metadata })
    (.ok made, (s.countWrite).put key made)

/-- Whether a replacement would change the address of a service. -/
def changesAddress (kind : Kind) (live object : Object) : Bool :=
  kind == .service &&
    !(object.body.at? ["spec", "clusterIP"] == live.body.at? ["spec", "clusterIP"])

/-- Replace an object that has not changed since it was read. -/
def replaced (kind : Kind) (object : Object) (s : Store) : Except Failure Object × Store :=
  let key := StoreKey.ofObject kind object
  match s.get? key with
  | none => (.error (fault 404 "NotFound"), s)
  | some live =>
    if live.metadata.resourceVersion ≠ object.metadata.resourceVersion then
      (.error (fault 409 "Conflict"), s)
    else if changesAddress kind live object then (.error (fault 422 "Invalid"), s)
    else
      let s := s.tick
      let metadata :=
        { object.metadata with
          resourceVersion := some s.freshVersion
          uid := live.metadata.uid }
      let written := s.stored { object with metadata }
      (.ok written, (s.countWrite).put key written)

/-- Delete an object, if it is there. -/
def deletedAt (key : StoreKey) (s : Store) : Except Failure Unit × Store :=
  match s.get? key with
  | none => (.ok (), s)
  | some _ =>
    let s := (s.remove key).countWrite
    (.ok (), { s with deleted := s.deleted ++ [key] })

/-- The objects of a kind in a namespace that a selector matches, by name. -/
def listed (s : Store) (kind : Kind) (space selector : String) : List Object :=
  (s.objects.filter fun entry =>
    entry.1.kind == kind && entry.1.space == space && isSelected entry.2 selector).map Prod.snd

def cluster : Cluster Store :=
  { get := fun kind space name s => (.ok (s.get? (.of kind space name)), s)
    list := fun kind space selector s =>
      if s.unlistable.contains kind then (.error (fault 503 "ServiceUnavailable"), s)
      else (.ok (s.listed kind space selector), s)
    create := fun kind object => guarded object.name (created kind object)
    replace := fun kind object => guarded object.name (replaced kind object)
    delete := fun kind space name => guarded name (deletedAt (.of kind space name))
    patchStatus := fun _ status s =>
      (.ok (), { s.countWrite with statuses := s.statuses ++ [status] })
    publish := fun _ event s => (.ok (), { s with events := s.events ++ [event] }) }

/-! ## What others do -/

/-- Put an object into the store as if someone else had made it; its new identity
is answered. -/
def seed (s : Store) (kind : Kind) (object : Object) : String × Store :=
  let s := s.tick
  let metadata :=
    { object.metadata with uid := some s.freshUid, resourceVersion := some s.freshVersion }
  (s.freshUid, s.put (.ofObject kind object) { object with metadata })

/-- Change a stored object in place without a write, if it is there. -/
def edit (s : Store) (key : StoreKey) (change : Object → Object) : Store :=
  match s.get? key with
  | some object => s.put key (change object)
  | none => s

def conflictOn (s : Store) (name : String) (times : Nat) : Store :=
  { s with conflicts := s.conflicts.insert name times }

def failOn (s : Store) (name : String) : Store := { s with failing := s.failing ++ [name] }

def failList (s : Store) (kind : Kind) : Store :=
  { s with unlistable := s.unlistable ++ [kind] }

def omitEmpty (s : Store) : Store := { s with omitsEmpty := true }

end Store

end AgentOperator
