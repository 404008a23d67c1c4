/-!
# Characters from bytes

Bytes are read as characters in UTF-8. Where they are none, each stretch that
begins like a character and does not end like one is replaced by a mark, and so
is each byte with which no character begins.
-/

namespace AgentOperator.Text

/-- The character that stands in the place of bytes that are none. -/
def replacementMark : Char := '\ufffd'

/-- A character of which some bytes were read: the bits so far, the number of
bytes after the next one, and the range of the next one. -/
structure PartialChar where
  bits : Nat
  later : Nat
  low : Nat := 0x80
  high : Nat := 0xBF
deriving DecidableEq, Inhabited

/-- Read the first byte of a character: what is complete, and what is not. -/
def beginChar (byte : Nat) : List Char × Option PartialChar :=
  if byte < 0x80 then ([Char.ofNat byte], none)
  else if 0xC2 ≤ byte ∧ byte ≤ 0xDF then ([], some { bits := byte % 0x20, later := 0 })
  else if byte = 0xE0 then ([], some { bits := 0, later := 1, low := 0xA0 })
  else if byte = 0xED then ([], some { bits := 0xD, later := 1, high := 0x9F })
  else if 0xE1 ≤ byte ∧ byte ≤ 0xEF then ([], some { bits := byte % 0x10, later := 1 })
  else if byte = 0xF0 then ([], some { bits := 0, later := 2, low := 0x90 })
  else if 0xF1 ≤ byte ∧ byte ≤ 0xF3 then ([], some { bits := byte % 8, later := 2 })
  else if byte = 0xF4 then ([], some { bits := 4, later := 2, high := 0x8F })
  else ([replacementMark], none)

/-- Read a byte behind those of a character that was begun, if one was. -/
def readByte (begun : Option PartialChar) (byte : Nat) : List Char × Option PartialChar :=
  match begun with
  | none => beginChar byte
  | some c =>
    if c.low ≤ byte ∧ byte ≤ c.high then
      let bits := 64 * c.bits + byte % 64
      match c.later with
      | 0 => ([Char.ofNat bits], none)
      | later + 1 => ([], some { bits, later })
    else
      let (complete, begun) := beginChar byte
      (replacementMark :: complete, begun)

/-- The characters of bytes, read behind those of a character that was begun, if
one was. -/
def charsFrom (begun : Option PartialChar) : List UInt8 → List Char
  | [] => if begun.isSome then [replacementMark] else []
  | byte :: rest =>
    let (complete, begun) := readByte begun byte.toNat
    complete ++ charsFrom begun rest

def charsOfBytes (bytes : List UInt8) : List Char := charsFrom none bytes

def bytesOfChar (c : Char) : List UInt8 := String.utf8EncodeChar c

example : charsOfBytes [0xC3, 0xA9, 0x41] = ['é', 'A'] := by decide
example : charsOfBytes [0xE2, 0x82, 0x41, 0xFF] =
    [replacementMark, 'A', replacementMark] := by decide
example : charsOfBytes (bytesOfChar '😀') = ['😀'] := by decide

end AgentOperator.Text
