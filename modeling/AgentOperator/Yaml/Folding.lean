import AgentOperator.Yaml.Cursor

/-!
# Gaps inside scalars

The blanks and line breaks between two words of a plain or a quoted scalar. On
one line a gap is kept as it is; over a line break the blanks are dropped, a
single break becomes a space, and of several breaks all but the first are kept.
-/

namespace AgentOperator.Yaml

structure Gap where
  /-- Whether a line has ended in the gap. -/
  broken : Bool := false
  /-- The blanks before a line has ended. -/
  blanks : List Char := []
  /-- The line break that ended the first line. -/
  first : List Char := []
  /-- The line breaks after the first. -/
  more : List Char := []
deriving Inhabited

namespace Gap

def text (g : Gap) : List Char :=
  if g.broken then
    if g.first.head? = some '\n' then (if g.more.isEmpty then [' '] else g.more)
    else g.first ++ g.more
  else g.blanks

def addBlank (g : Gap) (c : Char) : Gap :=
  if g.broken then g else { g with blanks := g.blanks ++ [c] }

def addBreak (g : Gap) (c : Char) : Gap :=
  if g.broken then { g with more := g.more ++ [c] }
  else { broken := true, blanks := [], first := [c], more := [] }

end Gap

/-- Take in the gap at the front of a text. A tab that indents a line less than
the scalar has to be is an error. -/
def takeGap? (indent : Nat) : List Char → Mark → Gap → Option (Gap × Cursor)
  | '\r' :: '\n' :: rest, mark, gap =>
    takeGap? indent rest (mark.pastBreak ['\r', '\n']) (gap.addBreak '\n')
  | c :: rest, mark, gap =>
    if isSpace c then
      if gap.broken && mark.column < indent && c = '\t' then none
      else takeGap? indent rest (mark.past [c]) (gap.addBlank c)
    else if isBreak c then
      takeGap? indent rest (mark.pastBreak [c]) (gap.addBreak (keptBreak c))
    else some (gap, ⟨c :: rest, mark⟩)
  | [], mark, gap => some (gap, ⟨[], mark⟩)

end AgentOperator.Yaml
