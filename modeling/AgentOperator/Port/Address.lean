import AgentOperator.Text.Digit

/-!
# Ports of addresses

The port of an address is the number behind the last colon that is followed by a
digit. The run of digits is taken whole, in any script, but only ASCII digits
can be read, and the number has to be one of a port.
-/

namespace AgentOperator.Port

/-- The digits behind the last colon that is followed by one. -/
def lastRun? : List Char → Option (List Char)
  | [] => none
  | c :: rest =>
    match lastRun? rest with
    | some run => some run
    | none =>
      if c = ':' then
        let run := rest.takeWhile Text.isDecimal
        if run.isEmpty then none else some run
      else none

def portOfRun? (run : List Char) : Option Nat :=
  if run.all Char.isDigit then
    let n := Text.decimalValue run
    if 1 ≤ n ∧ n ≤ 65535 then some n else none
  else none

def ofAddress? (address : String) : Option Nat :=
  (lastRun? address.toList).bind portOfRun?

example : ofAddress? "udp://[::1]:25826" = some 25826 := by decide +kernel
example : ofAddress? ":0" = none := by decide +kernel

end AgentOperator.Port
