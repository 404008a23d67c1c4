import AgentOperator.Text.Form

/-!
# Targets of requests

The target of a request is a text: a path, and behind a question mark the fields
of a query. A text that holds a character that has no place in a target, or that
is too long, is no target, and what follows a number sign is not sent. Names are
put into paths as they are, so that a question mark in one begins the query.
-/

namespace AgentOperator.Api

structure Target where
  path : String
  query : List (String × String) := []
deriving DecidableEq, Inhabited

namespace Target

def isPathChar (c : Char) : Bool :=
  '!' ≤ c && c != '<' && c != '>' && c != '\x60'

def isQueryChar (c : Char) : Bool :=
  '!' ≤ c && c != '"' && c != '<' && c != '>'

/-- The most bytes of a target. -/
def mostBytes : Nat := 65534

def read? (text : String) : Option Target :=
  let (path, query) := (text.toList.takeWhile fun c => c != '#').span fun c => c != '?'
  let query := query.drop 1
  if text.utf8ByteSize ≤ mostBytes && path.all isPathChar && query.all isQueryChar then
    some ⟨String.ofList path, Text.readForm query⟩
  else none

def withFields (path : String) (fields : List (String × String)) : String :=
  path ++ String.ofList ('?' :: Text.formFields fields)

example : read? (withFields "/a?b" [("c", "d e")]) =
    some ⟨"/a", [("b?", ""), ("c", "d e")]⟩ := by decide +kernel
example : read? (withFields "/a#b c" [("d", "e")]) = some ⟨"/a", []⟩ := by decide +kernel
example : read? "/a b" = none := by decide +kernel

end Target

end AgentOperator.Api
