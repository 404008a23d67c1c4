import AgentOperator.Text.Digit

/-!
# Places in YAML text

A cursor is the rest of a text together with the place where it begins. Lines
end with a line feed, a carriage return, both, or one of three further line
breaks.
-/

namespace AgentOperator.Yaml

/-- A place in a text: the bytes of the text before it, its line, and its column,
which counts characters. -/
structure Mark where
  bytes : Nat := 0
  line : Nat := 0
  column : Nat := 0
deriving DecidableEq, Inhabited

def byteSize (text : List Char) : Nat :=
  text.foldl (fun size c => size + c.utf8Size) 0

namespace Mark

/-- The place behind a text without line breaks. -/
def past (m : Mark) (text : List Char) : Mark :=
  { m with bytes := m.bytes + byteSize text, column := m.column + text.length }

def pastBreak (m : Mark) (text : List Char) : Mark :=
  { bytes := m.bytes + byteSize text, line := m.line + 1, column := 0 }

end Mark

/-- The rest of a text and the place where it begins. -/
structure Cursor where
  rest : List Char
  mark : Mark
deriving Inhabited

def isAllowed (c : Char) : Bool :=
  let n := c.toNat
  n == 0x09 || n == 0x0A || n == 0x0D || (0x20 ≤ n && n ≤ 0x7E) || n == 0x85 ||
    (0xA0 ≤ n && n ≤ 0xD7FF) || (0xE000 ≤ n && n ≤ 0xFFFD) || 0x10000 ≤ n

def isBreak (c : Char) : Bool :=
  c = '\n' || c = '\r' || c = '\u0085' || c = '\u2028' || c = '\u2029'

def isSpace (c : Char) : Bool := c = ' ' || c = '\t'

def isGap (c : Char) : Bool := isSpace c || isBreak c

def isNameChar (c : Char) : Bool := c.isAlphanum || c = '_' || c = '-'

/-- Whether a text ends, or goes on with a gap. -/
def startsGap : List Char → Bool
  | [] => true
  | c :: _ => isGap c

/-- Whether a text ends, or goes on with a line break. -/
def startsBreak : List Char → Bool
  | [] => true
  | c :: _ => isBreak c

/-- The form in which a line break is kept: the plain ones become line feeds. -/
def keptBreak (c : Char) : Char :=
  if c = '\r' || c = '\u0085' then '\n' else c

/-- A line break at the front of a text: the form in which it is kept, the
characters it takes, and what follows. -/
def takeBreak? : List Char → Option (Char × Nat × List Char)
  | '\r' :: '\n' :: rest => some ('\n', 2, rest)
  | c :: rest => if isBreak c then some (keptBreak c, 1, rest) else none
  | [] => none

namespace Cursor

/-- The cursor a number of characters further on the same line. -/
def skip (c : Cursor) (count : Nat) : Cursor :=
  ⟨c.rest.drop count, c.mark.past (c.rest.take count)⟩

/-- The cursor behind the line break at its front, if there is one. -/
def skipBreak (c : Cursor) : Cursor :=
  match takeBreak? c.rest with
  | some (_, count, rest) => ⟨rest, c.mark.pastBreak (c.rest.take count)⟩
  | none => c

/-- The characters at the front that satisfy a test, and the cursor behind them;
none of them is a line break. -/
def takeWhile (c : Cursor) (p : Char → Bool) : List Char × Cursor :=
  let taken := c.rest.takeWhile p
  (taken, c.skip taken.length)

def skipWhile (c : Cursor) (p : Char → Bool) : Cursor := (c.takeWhile p).2

def skipComment (c : Cursor) : Cursor :=
  match c.rest with
  | '#' :: _ => c.skipWhile fun x => !isBreak x
  | _ => c

/-- Whether the cursor stands at the mark of a document's start or end, three
characters at the start of a line. -/
def atDocumentMark (c : Cursor) : Bool :=
  c.mark.column == 0 &&
    (match c.rest with
      | '-' :: '-' :: '-' :: rest => startsGap rest
      | '.' :: '.' :: '.' :: rest => startsGap rest
      | _ => false)

/-- The cursor behind the blanks and the comment that may end a line, and behind
the line itself. -/
def endLine? (c : Cursor) : Option Cursor :=
  let c := (c.skipWhile isSpace).skipComment
  if startsBreak c.rest then some c.skipBreak else none

end Cursor

end AgentOperator.Yaml
