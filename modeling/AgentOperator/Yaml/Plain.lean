import AgentOperator.Yaml.Folding

/-!
# Plain scalars

Scalars without quotes. A colon before a gap ends one, as does a comment, and
inside brackets a comma or a bracket; over a line break it goes on as long as
the next line is indented deeply enough.
-/

namespace AgentOperator.Yaml

def isFlowIndicator (c : Char) : Bool :=
  c = ',' || c = '[' || c = ']' || c = '\x7b' || c = '\x7d'

def clashesWithColon (rest : List Char) : Bool :=
  match rest with
  | [] => false
  | c :: _ => c = '?' || isFlowIndicator c

def plainWord? (inFlow : Bool) : List Char → Option (List Char)
  | [] => some []
  | c :: rest =>
    if isGap c then some []
    else if inFlow && c = ':' && clashesWithColon rest then none
    else if (c = ':' && startsGap rest) || (inFlow && isFlowIndicator c) then some []
    else (plainWord? inFlow rest).map (c :: ·)

/-- Read the words of a plain scalar; each step takes a word and the gap behind
it. The result tells whether a line has ended behind the last word. -/
def plainWords? (inFlow : Bool) (indent : Nat) :
    Nat → Cursor → Gap → List Char → Option (List Char × Bool × Cursor)
  | 0, _, _, _ => none
  | steps + 1, cursor, gap, text =>
    if cursor.atDocumentMark || cursor.rest.head? = some '#' then
      some (text, gap.broken, cursor)
    else
      match plainWord? inFlow cursor.rest with
      | none => none
      | some word =>
        let (text, gap) := if word.isEmpty then (text, gap) else (text ++ gap.text ++ word, {})
        let cursor := cursor.skip word.length
        if cursor.rest.isEmpty || !startsGap cursor.rest then some (text, gap.broken, cursor)
        else
          match takeGap? indent cursor.rest cursor.mark gap with
          | none => none
          | some (gap, cursor) =>
            if !inFlow && cursor.mark.column < indent then some (text, gap.broken, cursor)
            else plainWords? inFlow indent steps cursor gap text

/-- Read a plain scalar that is indented at least so far. -/
def plainScalar? (inFlow : Bool) (indent : Nat) (cursor : Cursor) :
    Option (List Char × Bool × Cursor) :=
  plainWords? inFlow indent (cursor.rest.length + 1) cursor {} []

end AgentOperator.Yaml
