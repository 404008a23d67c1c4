import AgentOperator.Text.Digit

/-!
# Tags

A tag is a row of bytes, because its characters may be written byte by byte, and
it ends at the first byte of zero. Tags that begin with an exclamation mark are a
document's own; the others name types that all documents share.
-/

namespace AgentOperator.Yaml

abbrev Tag := List UInt8

namespace Tag

def ofText (text : String) : Tag := text.toUTF8.data.toList

def bare : Tag := ofText "!"

/-- The beginning of the tags that all documents share. -/
def standardPrefix : Tag := ofText "tag:yaml.org,2002:"

/-- The tag of a type that all documents share. -/
def standard (name : String) : Tag := standardPrefix ++ ofText name

/-- The bytes before the first one of zero. -/
def untilZero (tag : Tag) : Tag := tag.takeWhile fun byte => byte != 0

/-- Whether a tag is a document's own. -/
def isOwn (tag : Tag) : Bool := bare.isPrefixOf tag

/-- The name of a tag of the document's own: what follows the exclamation mark,
or the mark itself where nothing does. Bytes that are no text name nothing. -/
def ownName? (tag : Tag) : Option String :=
  if tag.isOwn then
    String.fromUTF8? (if tag == bare then tag else tag.drop bare.length).toByteArray
  else none

end Tag

/-! ## Characters written byte by byte -/

def byteCount? (first : Nat) : Option Nat :=
  if first < 0x80 then some 1
  else if first / 0x20 = 6 then some 2
  else if first / 0x10 = 14 then some 3
  else if first / 8 = 30 then some 4
  else none

/-- Bytes that a character has after its first one, each written in hexadecimal
behind a percent sign. -/
def moreBytes? : Nat → List Char → Option Tag
  | 0, _ => some []
  | count + 1, '%' :: a :: b :: rest => do
    let byte ← Text.hexNumber? [a, b]
    if byte / 0x40 = 2 then return .ofNat byte :: (← moreBytes? count rest) else none
  | _, _ => none

/-- The bytes of the character that is written byte by byte at the front of a
text. They have the form of a character; whether they are one is left open. -/
def escapedBytes? : List Char → Option Tag
  | '%' :: a :: b :: rest => do
    let first ← Text.hexNumber? [a, b]
    let count ← byteCount? first
    return .ofNat first :: (← moreBytes? (count - 1) rest)
  | _ => none

example : escapedBytes? "%C3%A9x".toList = some [0xC3, 0xA9] := by decide
example : (Tag.ofText "!a").ownName? = some "a" := by decide +kernel
example : Tag.bare.ownName? = some "!" := by decide +kernel
example : Tag.ownName? (Tag.bare ++ [0xC0, 0x80]) = none := by decide +kernel

end AgentOperator.Yaml
