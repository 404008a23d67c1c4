import AgentOperator.Store.Basic

/-!
# Faults of reads and reports

A store whose reads, status writes and events can be made to fail as well. A read
of a chosen object may succeed a number of times before it fails.
-/

namespace AgentOperator

structure ReadFault where
  kind : Kind
  name : String
  /-- How many more reads succeed. -/
  spared : Nat
  code : Nat
deriving DecidableEq, Inhabited

/-- A store with faults of its reads and reports. -/
structure FaultyStore where
  store : Store := {}
  reads : List ReadFault := []
  /-- The code with which status writes fail, if they do. -/
  status : Option Nat := none
  /-- The code with which events fail, if they do. -/
  events : Option Nat := none
deriving Inhabited

namespace FaultyStore

def concerns (kind : Kind) (name : String) (fault : ReadFault) : Bool :=
  fault.kind == kind && fault.name == name

/-- A read of an object passes the faults in their order: one that spares it
spares one read fewer from then on, and the first that does not makes it fail
with its code. -/
def passFaults (kind : Kind) (name : String) : List ReadFault → Option Nat × List ReadFault
  | [] => (none, [])
  | fault :: rest =>
    if concerns kind name fault then
      match fault.spared with
      | 0 => (some fault.code, fault :: rest)
      | spared + 1 =>
        let (code, rest) := passFaults kind name rest
        (code, { fault with spared } :: rest)
    else
      let (code, rest) := passFaults kind name rest
      (code, fault :: rest)

def onStore {α : Type} (action : Action Store α) : Action FaultyStore α := fun s =>
  let (result, store) := action.run s.store
  (result, { s with store })

/-- A read of an object, unless a fault is due. -/
def read (kind : Kind) (space : Option String) (name : String) :
    Action FaultyStore (Option Object) := fun s =>
  let (code, reads) := passFaults kind name s.reads
  match code with
  | some code => (.error (Store.fault code "GetFault"), { s with reads })
  | none => onStore (Store.cluster.get kind space name) { s with reads }

/-- A report, unless it is to fail. -/
def report (code : Option Nat) (reason : String) (action : Action Store Unit) :
    Action FaultyStore Unit :=
  match code with
  | some code => throw (Store.fault code reason)
  | none => onStore action

def cluster : Cluster FaultyStore :=
  { get := read
    list := fun kind space selector => onStore (Store.cluster.list kind space selector)
    create := fun kind object => onStore (Store.cluster.create kind object)
    replace := fun kind object => onStore (Store.cluster.replace kind object)
    delete := fun kind space name => onStore (Store.cluster.delete kind space name)
    patchStatus := fun agent status s =>
      report s.status "StatusFault" (Store.cluster.patchStatus agent status) s
    publish := fun agent event s =>
      report s.events "EventFault" (Store.cluster.publish agent event) s }

end FaultyStore

end AgentOperator
