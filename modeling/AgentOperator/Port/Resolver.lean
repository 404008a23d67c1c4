import AgentOperator.Port.Family
import AgentOperator.Port.Receiver
import AgentOperator.Port.Registry

/-!
# Resolving the ports of an agent

The ports of an agent are those that its configuration implies, then those of
its pipelines, as far as their numbers are free; an override takes the place of
the ports that have its name or its number and protocol. What is not a port is
dropped, a name that is taken is replaced by one made from the number, and the
rest is listed by number, protocol and name.
-/

namespace AgentOperator.Port

def derived (families : List Family) (config : String) (otel : Option String) : List Port :=
  let receivers :=
    match Text.given? otel with
    | some text => Receiver.groupsOfText text
    | none => []
  (PortRegistry.registerAll {} (Family.groupsOfText families config ++ receivers)).ports

/-- Whether an override takes the place of a derived port. -/
def isReplacedBy (derived override : Port) : Bool :=
  override.name == derived.name || override.address == derived.address

/-- The overrides, and behind them the derived ports that none of them replaces. -/
def candidates (overrides derived : List Port) : List Port :=
  overrides ++ derived.filter fun d => !overrides.any d.isReplacedBy

/-- The name that a port is given in place of one that is taken. -/
def fallbackName (p : Port) : String := "port-" ++ toString p.number

/-- Whether a port has numbers of ports and none of the accepted ones has its
address. -/
def isAdmissible (accepted : List Port) (p : Port) : Bool :=
  1 ≤ p.number && p.number ≤ 65535 && 1 ≤ p.containerPort && p.containerPort ≤ 65535 &&
    !accepted.any fun q => q.address == p.address

/-- The name under which a port is accepted beside the others: its own one cut to
size, or else the one made from its number. -/
def acceptedName? (accepted : List Port) (p : Port) : Option String :=
  let taken := fun (name : String) => accepted.any fun q => q.name == name
  let name := truncateName p.name
  if !isValidName name then none
  else if !taken name then some name
  else if !taken p.fallbackName then some p.fallbackName
  else none

/-- Accept a port beside the others, unless it breaks a rule. -/
def accept (accepted : List Port) (p : Port) : List Port :=
  if isAdmissible accepted p then
    match acceptedName? accepted p with
    | some name => accepted ++ [{ p with name }]
    | none => accepted
  else accepted

/-- The order in which ports are listed: by number, protocol and name. -/
def isBefore (a b : Port) : Bool :=
  if a.number ≠ b.number then a.number < b.number
  else if a.protocol ≠ b.protocol then a.protocol.index < b.protocol.index
  else a.name ≤ b.name

/-- The ports that are accepted from a list, in the order of listing. -/
def finalize (ports : List Port) : List Port :=
  (ports.foldl accept []).mergeSort isBefore

def resolve (families : List Family) (config : String) (otel : Option String)
    (overrides : List PortOverride) : List Port :=
  finalize (candidates (overrides.map ofOverride) (derived families config otel))

end AgentOperator.Port
