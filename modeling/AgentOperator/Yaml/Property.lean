import AgentOperator.Yaml.Token

/-!
# Anchors, tags and directives

The names by which nodes are referred to, the tags that fix their type, and the
directives at the head of a document. The characters of a tag may be written as
their bytes in hexadecimal.
-/

namespace AgentOperator.Yaml

def mayFollowName (rest : List Char) : Bool :=
  startsGap rest ||
    (match rest with
      | c :: _ => "?:,]\x7d%@\x60".toList.contains c
      | [] => true)

def anchorName? (cursor : Cursor) : Option (String × Cursor) :=
  let (name, cursor) := (cursor.skip 1).takeWhile isNameChar
  if name.isEmpty || !mayFollowName cursor.rest then none
  else some (String.ofList name, cursor)

/-- A character of a tag; inside angle brackets and in directives, commas and
square brackets belong to it too. -/
def isTagChar (wide : Bool) (c : Char) : Bool :=
  isNameChar c || ";/?:@&=+$.%!~*'()".toList.contains c ||
    (wide && (c = ',' || c = '[' || c = ']'))

/-- Read the characters of a tag: their bytes, and the cursor behind them. -/
def tagChars? (wide : Bool) : Nat → Cursor → Tag → Option (Tag × Cursor)
  | 0, _, _ => none
  | steps + 1, cursor, text =>
    match cursor.rest with
    | [] => some (text, cursor)
    | c :: _ =>
      if c = '%' then do
        let bytes ← escapedBytes? cursor.rest
        tagChars? wide steps (cursor.skip (3 * bytes.length)) (text ++ bytes)
      else if isTagChar wide c then
        tagChars? wide steps (cursor.skip 1) (text ++ Tag.ofText c.toString)
      else some (text, cursor)

/-- Read the characters of a tag that is not empty, behind the part of it that
was read before. -/
def tagText? (wide : Bool) (before : List Char) (cursor : Cursor) :
    Option (Tag × Cursor) := do
  let (text, rest) ← tagChars? wide (cursor.rest.length + 1) cursor []
  if before.isEmpty && text.isEmpty then none
  else some (Tag.untilZero (Tag.ofText (String.ofList (before.drop 1)) ++ text), rest)

/-- Read what may be the handle of a tag: an exclamation mark, a name, and
another exclamation mark if there is one. -/
def tagHandle? (cursor : Cursor) : Option (List Char × Cursor) :=
  match cursor.rest with
  | '!' :: _ =>
    let (name, cursor) := (cursor.skip 1).takeWhile isNameChar
    match cursor.rest with
    | '!' :: _ => some ('!' :: name ++ ['!'], cursor.skip 1)
    | _ => some ('!' :: name, cursor)
  | _ => none

/-- Whether what was read as a handle is one: two exclamation marks around a
name. -/
def isHandle (handle : List Char) : Bool :=
  2 ≤ handle.length && handle.getLast? == some '!'

/-- Read a tag, the cursor standing at its mark: its handle, empty when there is
none, and its suffix. -/
def tag? (inFlow : Bool) (cursor : Cursor) : Option (Token × Cursor) := do
  let (handle, suffix, cursor) ←
    match cursor.rest with
    | '!' :: '<' :: _ => do
      let (text, cursor) ← tagText? true [] (cursor.skip 2)
      if cursor.rest.head? = some '>' then some ("", text, cursor.skip 1) else none
    | _ => do
      let (handle, cursor) ← tagHandle? cursor
      if isHandle handle then
        let (text, cursor) ← tagText? false [] cursor
        some (String.ofList handle, text, cursor)
      else
        let (text, cursor) ← tagText? false handle cursor
        if text.isEmpty then some ("", Tag.bare, cursor)
        else some ("!", text, cursor)
  if startsGap cursor.rest || (inFlow && cursor.rest.head? = some ',') then
    some (.tag handle suffix, cursor)
  else none

/-- Read a number of at most nine digits. -/
def versionNumber? (cursor : Cursor) : Option (Nat × Cursor) :=
  let (digits, cursor) := cursor.takeWhile Char.isDigit
  if digits.isEmpty || 9 < digits.length then none
  else some (Text.decimalValue digits, cursor)

/-- Read a directive, the cursor standing at its mark. Only the directives for
the version and for tags are known. -/
def directive? (cursor : Cursor) : Option (Token × Cursor) := do
  let (name, cursor) := (cursor.skip 1).takeWhile isNameChar
  if !startsGap cursor.rest then none
  else
    let cursor := cursor.skipWhile isSpace
    let (token, cursor) ←
      if name = "YAML".toList then do
        let (major, cursor) ← versionNumber? cursor
        if cursor.rest.head? = some '.' then do
          let (minor, cursor) ← versionNumber? (cursor.skip 1)
          some (Token.versionDirective major minor, cursor)
        else none
      else if name = "TAG".toList then do
        let (handle, cursor) ← tagHandle? cursor
        if handle.length ≠ 1 && !isHandle handle then none
        else
          match cursor.rest with
          | c :: _ =>
            if !isSpace c then none
            else do
              let (text, cursor) ← tagText? true [] (cursor.skipWhile isSpace)
              if startsGap cursor.rest then
                some (Token.tagDirective (String.ofList handle) text, cursor)
              else none
          | [] => none
      else none
    let cursor ← cursor.endLine?
    some (token, cursor)

end AgentOperator.Yaml
