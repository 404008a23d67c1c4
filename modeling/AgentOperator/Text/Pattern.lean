/-!
# Patterns

The part of the language of regular expressions in which filters are written:
characters that stand for themselves, any run of characters on one line, and the
two ends of the text. A pattern matches a text when it matches some part of it.
-/

namespace AgentOperator.Text

inductive PatternPart
  | literal (c : Char)
  /-- Any run of characters on one line: a dot with a star. -/
  | anyRun
  /-- The place before the first character of the text. -/
  | textStart
  /-- The place behind the last character of the text. -/
  | textEnd
deriving DecidableEq

abbrev Pattern := List PatternPart

namespace Pattern

/-- The characters that stand for themselves only behind a backslash. -/
def metacharacters : List Char :=
  ['\\', '.', '+', '*', '?', '(', ')', '|', '[', ']', '{', '}', '^', '$', '#', '&', '-', '~']

def isMeta (c : Char) : Bool := metacharacters.contains c

/-- The text of a pattern in which each of the characters stands for itself. -/
def escape (cs : List Char) : List Char :=
  cs.flatMap fun c => if isMeta c then ['\\', c] else [c]

/-- Read the text of a pattern; one that has more of the language than this part
is refused. -/
def read? : List Char → Option Pattern
  | [] => some []
  | '\\' :: c :: rest => if isMeta c then (read? rest).map (.literal c :: ·) else none
  | '.' :: '*' :: rest => (read? rest).map (.anyRun :: ·)
  | '^' :: rest => (read? rest).map (.textStart :: ·)
  | '$' :: rest => (read? rest).map (.textEnd :: ·)
  | c :: rest => if isMeta c then none else (read? rest).map (.literal c :: ·)

/-! ## Matching

A row says for each place in the text, from the first to the one behind the last
character, whether a pattern matches from there. One row is made for each part, so
that the work is no more than the product of the two lengths. -/

/-- The row for a pattern that begins with a character, from the row for the parts
behind it. -/
def literalRow (c : Char) : List Char → List Bool → List Bool
  | d :: text, _ :: row => (c == d && row.headD false) :: literalRow c text row
  | _, _ => [false]

/-- The row for a pattern that begins with a run, from the row for the parts behind
it: the run is empty, or it has one more character that is no line feed. -/
def runRow : List Char → List Bool → List Bool
  | c :: text, matched :: row =>
    let longer := runRow text row
    (matched || (c != '\n' && longer.headD false)) :: longer
  | _, row => row

/-- The row with the first place only. -/
def startRow : List Bool → List Bool
  | [] => []
  | first :: row => first :: row.map fun _ => false

/-- The row with the last place only. -/
def endRow : List Bool → List Bool
  | [] => []
  | [last] => [last]
  | _ :: row => false :: endRow row

def row (text : List Char) : Pattern → List Bool
  | [] => List.replicate (text.length + 1) true
  | .literal c :: parts => literalRow c text (row text parts)
  | .anyRun :: parts => runRow text (row text parts)
  | .textStart :: parts => startRow (row text parts)
  | .textEnd :: parts => endRow (row text parts)

/-- Whether a pattern matches from some place in a text. -/
def isMatch (p : Pattern) (text : List Char) : Bool := (row text p).any id

end Pattern

end AgentOperator.Text
