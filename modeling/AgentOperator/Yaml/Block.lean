import AgentOperator.Yaml.Cursor

/-!
# Block scalars

Scalars that are set off by their indentation, literal ones line by line and
folded ones with single line breaks turned into spaces. An indicator may fix the
indentation, and another one says what becomes of the line breaks at the end.
-/

namespace AgentOperator.Yaml

/-- What becomes of the line breaks at the end of a block scalar. -/
inductive Chomping
  | strip
  | clip
  | keep
deriving DecidableEq

/-- The indicators behind the mark of a block scalar, in either order: what
becomes of the end, the indentation, and the cursor behind them. -/
def blockHeader? (cursor : Cursor) : Option (Chomping × Option Nat × Cursor) :=
  let chomping? : List Char → Option Chomping
    | '+' :: _ => some .keep
    | '-' :: _ => some .strip
    | _ => none
  let digit? : List Char → Option Nat
    | c :: _ => if c.isDigit then some (Text.digitValue c) else none
    | _ => none
  match chomping? cursor.rest with
  | some chomping =>
    let cursor := cursor.skip 1
    match digit? cursor.rest with
    | some 0 => none
    | some indent => some (chomping, some indent, cursor.skip 1)
    | none => some (chomping, none, cursor)
  | none =>
    match digit? cursor.rest with
    | some 0 => none
    | some indent =>
      let cursor := cursor.skip 1
      match chomping? cursor.rest with
      | some chomping => some (chomping, some indent, cursor.skip 1)
      | none => some (.clip, some indent, cursor)
    | none => some (.clip, none, cursor)

/-- Take in the indentation and the empty lines at the front of a text, up to
the first character of a line that is not empty. The indentation may still be
unknown; the largest one seen is counted. -/
def blockBreaks? (indent : Option Nat) :
    List Char → Mark → Nat → List Char → Option (Nat × List Char × Cursor)
  | '\r' :: '\n' :: rest, mark, widest, breaks =>
    blockBreaks? indent rest (mark.pastBreak ['\r', '\n']) (max widest mark.column)
      (breaks ++ ['\n'])
  | c :: rest, mark, widest, breaks =>
    let inIndent := indent.all fun n => mark.column < n
    if inIndent && c = ' ' then blockBreaks? indent rest (mark.past [c]) widest breaks
    else if inIndent && c = '\t' then none
    else if isBreak c then
      blockBreaks? indent rest (mark.pastBreak [c]) (max widest mark.column)
        (breaks ++ [keptBreak c])
    else some (max widest mark.column, breaks, ⟨c :: rest, mark⟩)
  | [], mark, widest, breaks => some (max widest mark.column, breaks, ⟨[], mark⟩)

structure BlockText where
  text : List Char := []
  /-- The line break behind the last line. -/
  last : List Char := []
  /-- The empty lines behind it. -/
  trailing : List Char := []
  /-- Whether the last line began with a blank. -/
  spaced : Bool := false

/-- Add a line with its break. Between lines of a folded scalar that do not
begin with a blank, a single line feed becomes a space. -/
def BlockText.addLine (b : BlockText) (literal : Bool) (line lineBreak : List Char) :
    BlockText :=
  let starts := match line with
    | [] => false
    | c :: _ => isSpace c
  let joint :=
    if !literal && b.last.head? = some '\n' && !b.spaced && !starts then
      if b.trailing.isEmpty then [' '] else []
    else b.last
  { text := b.text ++ joint ++ b.trailing ++ line
    last := lineBreak
    trailing := []
    spaced := starts }

/-- Read the lines of a block scalar; each step takes a line and the empty lines
behind it. -/
def blockLines? (literal : Bool) (indent : Nat) :
    Nat → Cursor → BlockText → Option (BlockText × Cursor)
  | 0, _, _ => none
  | steps + 1, cursor, block =>
    if cursor.mark.column != indent || cursor.rest.isEmpty then some (block, cursor)
    else
      let (line, cursor) := cursor.takeWhile fun c => !isBreak c
      let lineBreak := match takeBreak? cursor.rest with
        | some (c, _, _) => [c]
        | none => []
      let cursor := cursor.skipBreak
      let block := block.addLine literal line lineBreak
      match blockBreaks? (some indent) cursor.rest cursor.mark 0 [] with
      | none => none
      | some (_, breaks, cursor) =>
        blockLines? literal indent steps cursor { block with trailing := breaks }

/-- Read a block scalar inside a block of the given indentation, the cursor
standing at its mark. -/
def blockScalar? (literal : Bool) (outer : Option Nat) (cursor : Cursor) :
    Option (List Char × Cursor) := do
  let (chomping, given, cursor) ← blockHeader? (cursor.skip 1)
  let cursor ← cursor.endLine?
  let least := match outer with
    | some n => n + 1
    | none => 0
  let known := given.map fun n => (outer.getD 0) + n
  let (widest, breaks, cursor) ← blockBreaks? known cursor.rest cursor.mark 0 []
  let indent := known.getD (max 1 (max widest least))
  let (block, cursor) ←
    blockLines? literal indent (cursor.rest.length + 1) cursor { trailing := breaks }
  let ending := match chomping with
    | .strip => []
    | .clip => block.last
    | .keep => block.last ++ block.trailing
  return (block.text ++ ending, cursor)

end AgentOperator.Yaml
