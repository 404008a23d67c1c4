import AgentOperator.Yaml.Folding

/-!
# Quoted scalars

Scalars in single or double quotes. Inside single quotes a quote is written
twice; inside double quotes a backslash begins an escape, or ends a line without
a gap.
-/

namespace AgentOperator.Yaml

/-- The character that a one-letter escape stands for. -/
def shortEscape? : Char → Option Char
  | '0' => some '\x00'
  | 'a' => some '\x07'
  | 'b' => some '\x08'
  | 't' => some '\t'
  | '\t' => some '\t'
  | 'n' => some '\n'
  | 'v' => some '\x0b'
  | 'f' => some '\x0c'
  | 'r' => some '\r'
  | 'e' => some '\x1b'
  | ' ' => some ' '
  | '"' => some '"'
  | '/' => some '/'
  | '\\' => some '\\'
  | 'N' => some '\u0085'
  | '_' => some '\u00a0'
  | 'L' => some '\u2028'
  | 'P' => some '\u2029'
  | _ => none

def escapeWidth? : Char → Option Nat
  | 'x' => some 2
  | 'u' => some 4
  | 'U' => some 8
  | _ => none

/-- The escape behind a backslash: its character and its length. -/
def escape? : List Char → Option (Char × Nat)
  | [] => none
  | e :: rest =>
    match escapeWidth? e with
    | none => (shortEscape? e).map fun c => (c, 1)
    | some width =>
      let digits := rest.take width
      if digits.length < width then none
      else do
        let n ← Text.hexNumber? digits
        if h : n.isValidChar then some (Char.ofNatAux n h, width + 1) else none

/-- What ends a word of a quoted scalar. -/
inductive WordEnd
  /-- The closing quote, or a gap. -/
  | closeOrGap
  /-- A backslash at the end of a line. -/
  | joinedLine

/-- Read a word of a quoted scalar: its text, and the cursor behind it. -/
def quotedWord? (single : Bool) :
    Nat → Cursor → List Char → Option (List Char × WordEnd × Cursor)
  | 0, _, _ => none
  | steps + 1, cursor, text =>
    match cursor.rest with
    | [] => some (text, .closeOrGap, cursor)
    | c :: rest =>
      if isGap c then some (text, .closeOrGap, cursor)
      else if single then
        if c = '\'' then
          if rest.head? = some '\'' then
            quotedWord? single steps (cursor.skip 2) (text ++ ['\''])
          else some (text, .closeOrGap, cursor)
        else quotedWord? single steps (cursor.skip 1) (text ++ [c])
      else if c = '"' then some (text, .closeOrGap, cursor)
      else if c = '\\' then
        if !rest.isEmpty && startsBreak rest then
          some (text, .joinedLine, (cursor.skip 1).skipBreak)
        else
          match escape? rest with
          | none => none
          | some (e, length) =>
            quotedWord? single steps (cursor.skip (length + 1)) (text ++ [e])
      else quotedWord? single steps (cursor.skip 1) (text ++ [c])

def quotedWords? (single : Bool) : Nat → Cursor → List Char → Option (List Char × Cursor)
  | 0, _, _ => none
  | steps + 1, cursor, text =>
    if cursor.atDocumentMark || cursor.rest.isEmpty then none
    else
      match quotedWord? single (cursor.rest.length + 1) cursor text with
      | none => none
      | some (text, ending, cursor) =>
        if cursor.rest.head? = some (if single then '\'' else '"') then
          some (text, cursor.skip 1)
        else
          let gap : Gap :=
            match ending with
            | .closeOrGap => {}
            | .joinedLine => { broken := true }
          match takeGap? 0 cursor.rest cursor.mark gap with
          | none => none
          | some (gap, cursor) => quotedWords? single steps cursor (text ++ gap.text)

def quotedScalar? (single : Bool) (cursor : Cursor) : Option (List Char × Cursor) :=
  quotedWords? single (cursor.rest.length + 1) (cursor.skip 1) []

end AgentOperator.Yaml
