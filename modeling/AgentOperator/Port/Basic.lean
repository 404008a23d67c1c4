import AgentOperator.Agent.Spec

/-!
# Ports

A port that an agent exposes, with the feature that asks for it, and the rule
for the names of ports: at most fifteen lower-case letters, digits and single
dashes, with a letter among them and no dash at either end.
-/

namespace AgentOperator

structure Port where
  name : String
  number : Int
  protocol : Protocol
  /-- The port of the container, where it differs. -/
  target : Option Int := none
  /-- The feature that asks for the port. -/
  feature : String
deriving DecidableEq, Inhabited

namespace Port

def overrideFeature : String := "override"

def containerPort (p : Port) : Int := p.target.getD p.number

/-- What tells two ports of a service apart. -/
def address (p : Port) : Int × Protocol := (p.number, p.protocol)

def ofOverride (o : PortOverride) : Port :=
  { name := o.name
    number := o.port.toInt
    protocol := o.protocol
    target := o.targetPort.map Int32.toInt
    feature := overrideFeature }

/-- The most characters that the name of a port has. -/
def maxNameLength : Nat := 15

def isLowerLetter (c : Char) : Bool := 'a' ≤ c && c ≤ 'z'

def isNameChar (c : Char) : Bool := isLowerLetter c || c.isDigit || c = '-'

def hasDoubleDash : List Char → Bool
  | '-' :: '-' :: _ => true
  | _ :: rest => hasDoubleDash rest
  | [] => false

def isValidName (name : String) : Bool :=
  let cs := name.toList
  !cs.isEmpty && cs.length ≤ maxNameLength && cs.all isNameChar && cs.any isLowerLetter &&
    cs.head? != some '-' && cs.getLast? != some '-' && !hasDoubleDash cs

/-- A name cut to the length that the name of a port may have. -/
def truncateName (name : String) : String :=
  String.ofList (name.toList.take maxNameLength)

end Port

/-- Ports that are registered together or not at all. -/
abbrev PortGroup := List Port

end AgentOperator
