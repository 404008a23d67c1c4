import AgentOperator.Text.Digit
import AgentOperator.Text.Utf8

/-!
# Fields written as a form

Fields are written one behind the other with an ampersand in front of each, and
an equals sign between name and value. A space is written as a plus sign, and
every other byte of a character that does not stand for itself in hexadecimal
behind a percent sign.
-/

namespace AgentOperator.Text

/-- A character that stands for itself in a form. -/
def isFormChar (c : Char) : Bool :=
  c.isAlphanum || c = '*' || c = '-' || c = '.' || c = '_'

def capitalHexDigit (n : Nat) : Char := (hexDigit n).toUpper

def escapedByte (byte : UInt8) : List Char :=
  ['%', capitalHexDigit (byte.toNat / 16), capitalHexDigit (byte.toNat % 16)]

def formText (cs : List Char) : List Char :=
  cs.flatMap fun c =>
    if isFormChar c then [c]
    else if c = ' ' then ['+']
    else (bytesOfChar c).flatMap escapedByte

def formFields (fields : List (String × String)) : List Char :=
  fields.flatMap fun (name, value) =>
    '&' :: formText name.toList ++ '=' :: formText value.toList

/-- The bytes that a text in a form stands for; a percent sign without two
hexadecimal digits behind it stands for itself. -/
def formBytes : List Char → List UInt8
  | '%' :: a :: b :: rest =>
    match hexNumber? [a, b] with
    | some byte => .ofNat byte :: formBytes rest
    | none => bytesOfChar '%' ++ formBytes (a :: b :: rest)
  | '+' :: rest => bytesOfChar ' ' ++ formBytes rest
  | c :: rest => bytesOfChar c ++ formBytes rest
  | [] => []

/-- What a text in a form stands for. -/
def readFormText (cs : List Char) : String := String.ofList (charsOfBytes (formBytes cs))

/-- The fields of a form. Nothing between two ampersands is no field, and a field
without an equals sign has no value. -/
def readForm (text : List Char) : List (String × String) :=
  ((text.splitOn '&').filter fun field => !field.isEmpty).map fun field =>
    let (name, value) := field.span fun c => c != '='
    (readFormText name, readFormText (value.drop 1))

example : readForm "a=b&&c&d=%41+e%".toList = [("a", "b"), ("c", ""), ("d", "A e%")] := by
  decide +kernel

end AgentOperator.Text
