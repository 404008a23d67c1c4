import AgentOperator.Yaml.Block
import AgentOperator.Yaml.Plain
import AgentOperator.Yaml.Property
import AgentOperator.Yaml.Quote

/-!
# Cutting YAML text into tokens

Most tokens are seen where they begin, but the mark of a mapping key is not: that
a node was a key shows only at the colon behind it. So at every place where a
key may begin, a candidate is kept with the number of the token that would begin
it; the colon turns the candidate into a key by putting tokens in front of that
one. A candidate lasts for one line and 1024 bytes.
-/

namespace AgentOperator.Yaml

/-- A place where a mapping key may have begun. -/
structure KeyCandidate where
  /-- Whether nothing but a key can stand here. -/
  required : Bool
  /-- The number of the token that begins the key. -/
  token : Nat
  mark : Mark

/-- A text that is being cut into tokens. -/
structure Lexer where
  cursor : Cursor
  tokens : List Token := []
  /-- The indentation of the innermost block, none outside all blocks. -/
  indent : Option Nat := none
  /-- The indentations of the blocks around it. -/
  outer : List (Option Nat) := []
  /-- Whether a key may begin here. -/
  keyAllowed : Bool := true
  /-- The candidate outside all brackets, or inside the innermost ones. -/
  candidate : Option KeyCandidate := none
  /-- The candidates outside each pair of brackets, the innermost first. -/
  enclosing : List (Option KeyCandidate) := []

namespace Lexer

def inFlow (s : Lexer) : Bool := !s.enclosing.isEmpty

def leastIndent (s : Lexer) : Nat :=
  match s.indent with
  | none => 0
  | some n => n + 1

def emit (s : Lexer) (token : Token) : Lexer := { s with tokens := s.tokens ++ [token] }

def emitAt (s : Lexer) (number : Nat) (token : Token) : Lexer :=
  { s with tokens := s.tokens.take number ++ token :: s.tokens.drop number }

def skip (s : Lexer) (count : Nat) : Lexer := { s with cursor := s.cursor.skip count }

/-- Skip blanks, comments and line ends up to the next token. Where a key may
begin, a tab is no blank; a new line allows a key outside brackets. -/
def skipToToken : Nat → Lexer → Lexer
  | 0, s => s
  | steps + 1, s =>
    let cursor := s.cursor
    let cursor :=
      if cursor.mark.column = 0 ∧ cursor.rest.head? = some '\ufeff' then cursor.skip 1 else cursor
    let tabs := s.inFlow || !s.keyAllowed
    let cursor := cursor.skipWhile fun c => c = ' ' || (tabs && c = '\t')
    let cursor := cursor.skipComment
    match takeBreak? cursor.rest with
    | none => { s with cursor }
    | some _ =>
      skipToToken steps
        { s with cursor := cursor.skipBreak, keyAllowed := s.keyAllowed || !s.inFlow }

/-- Whether a candidate lies too far back to become a key. -/
def KeyCandidate.isStale (k : KeyCandidate) (now : Mark) : Bool :=
  k.mark.line < now.line || k.mark.bytes + 1024 < now.bytes

/-- A candidate that lies too far back is dropped; a required one is an error. -/
def expire? (now : Mark) : Option KeyCandidate → Option (Option KeyCandidate)
  | none => some none
  | some k => if KeyCandidate.isStale k now then (if k.required then none else some none)
    else some (some k)

/-- Drop the candidates that lie too far back. -/
def expireCandidates? (s : Lexer) : Option Lexer := do
  let candidate ← expire? s.cursor.mark s.candidate
  let enclosing ← s.enclosing.mapM (expire? s.cursor.mark)
  return { s with candidate, enclosing }

/-- Drop the candidate; a required one is an error. -/
def dropCandidate? (s : Lexer) : Option Lexer :=
  match s.candidate with
  | some k => if k.required then none else some { s with candidate := none }
  | none => some s

/-- Note that a key may begin here, where that is allowed. -/
def noteCandidate? (s : Lexer) : Option Lexer :=
  if s.keyAllowed then do
    let required := !s.inFlow && s.indent == some s.cursor.mark.column
    let s ← s.dropCandidate?
    return { s with candidate := some ⟨required, s.tokens.length, s.cursor.mark⟩ }
  else some s

def isDeeper (column : Nat) : Option Nat → Bool
  | none => true
  | some n => n < column

/-- Open a block at a column that is deeper than the innermost one, its token in
front of the one of a given number. -/
def openBlock (s : Lexer) (column number : Nat) (token : Token) : Lexer :=
  if s.inFlow then s
  else if isDeeper column s.indent then
    { s.emitAt number token with indent := some column, outer := s.indent :: s.outer }
  else s

/-- Close the blocks that are deeper than a column; without a column, all. -/
def closeBlocks (column : Option Nat) : List (Option Nat) → Option Nat → List Token →
    List (Option Nat) × Option Nat × List Token
  | [], indent, tokens => ([], indent, tokens)
  | around :: outer, indent, tokens =>
    match indent with
    | none => (around :: outer, none, tokens)
    | some n =>
      if column.all fun c => c < n then
        closeBlocks column outer around (tokens ++ [.blockEnd])
      else (around :: outer, some n, tokens)

/-- Close the blocks that are deeper than a column, outside brackets. -/
def unindent (s : Lexer) (column : Option Nat) : Lexer :=
  if s.inFlow then s
  else
    let (outer, indent, tokens) := closeBlocks column s.outer s.indent s.tokens
    { s with outer, indent, tokens }

def atEnd? (s : Lexer) : Option Lexer := do
  let s ← (s.unindent none).dropCandidate?
  return { s.emit .streamEnd with keyAllowed := false }

def atDirective? (s : Lexer) : Option Lexer := do
  let s ← (s.unindent none).dropCandidate?
  let (token, cursor) ← directive? s.cursor
  return { s.emit token with cursor, keyAllowed := false }

def atDocument? (s : Lexer) (token : Token) : Option Lexer := do
  let s ← (s.unindent none).dropCandidate?
  return { (s.emit token).skip 3 with keyAllowed := false }

def atOpening? (s : Lexer) (token : Token) : Option Lexer := do
  let s ← s.noteCandidate?
  return {
    (s.emit token).skip 1 with
    keyAllowed := true, enclosing := s.candidate :: s.enclosing, candidate := none }

def atClosing? (s : Lexer) (token : Token) : Option Lexer := do
  let s ← s.dropCandidate?
  let s := { (s.emit token).skip 1 with keyAllowed := false }
  match s.enclosing with
  | [] => some s
  | candidate :: enclosing => some { s with candidate, enclosing }

def atFlowEntry? (s : Lexer) : Option Lexer := do
  let s ← s.dropCandidate?
  return { (s.emit .flowEntry).skip 1 with keyAllowed := true }

def atBlockEntry? (s : Lexer) : Option Lexer := do
  if !s.inFlow && !s.keyAllowed then none
  else
    let s := s.openBlock s.cursor.mark.column s.tokens.length .blockSequenceStart
    let s ← s.dropCandidate?
    return { (s.emit .blockEntry).skip 1 with keyAllowed := true }

def atKey? (s : Lexer) : Option Lexer := do
  if !s.inFlow && !s.keyAllowed then none
  else
    let s := s.openBlock s.cursor.mark.column s.tokens.length .blockMappingStart
    let s ← s.dropCandidate?
    return { (s.emit .key).skip 1 with keyAllowed := !s.inFlow }

/-- The colon of a value. If there is a candidate, it is the key. -/
def atValue? (s : Lexer) : Option Lexer :=
  match s.candidate with
  | some k =>
    let s := s.emitAt k.token .key
    let s := s.openBlock k.mark.column k.token .blockMappingStart
    some { (s.emit .value).skip 1 with candidate := none, keyAllowed := false }
  | none =>
    if !s.inFlow && !s.keyAllowed then none
    else
      let s := s.openBlock s.cursor.mark.column s.tokens.length .blockMappingStart
      some { (s.emit .value).skip 1 with keyAllowed := !s.inFlow }

/-- A token that may begin a key: note the place and put what was read there. -/
def atNode? (s : Lexer) (read : Cursor → Option (Token × Cursor)) : Option Lexer := do
  let s ← s.noteCandidate?
  let (token, cursor) ← read s.cursor
  return { s.emit token with cursor, keyAllowed := false }

def atBlockScalar? (s : Lexer) (literal : Bool) : Option Lexer := do
  let s ← s.dropCandidate?
  let (text, cursor) ← blockScalar? literal s.indent s.cursor
  return { s.emit (.scalar (String.ofList text) .quoted) with cursor, keyAllowed := true }

/-- A plain scalar. One that ran over a line end allows a key behind it. -/
def atPlain? (s : Lexer) : Option Lexer := do
  let s ← s.noteCandidate?
  let (text, broken, cursor) ← plainScalar? s.inFlow s.leastIndent s.cursor
  return { s.emit (.scalar (String.ofList text) .plain) with cursor, keyAllowed := broken }

/-- Characters that cannot begin a plain scalar, unless they are dashes,
question marks or colons that something follows. -/
def isIndicator (c : Char) : Bool :=
  "-?:,[]\x7b\x7d#&*!|>'\"%@\x60".toList.contains c

/-- The next token, or a failure. The cursor stands at it, and blocks that end
here are closed. -/
def next? (s : Lexer) : Option Lexer :=
  match s.cursor.rest with
  | [] => s.atEnd?
  | c :: rest =>
    let atLineStart := s.cursor.mark.column == 0
    let beforeGap := startsGap rest
    if atLineStart && c = '%' then s.atDirective?
    else if s.cursor.atDocumentMark then
      s.atDocument? (if c = '-' then .documentStart else .documentEnd)
    else if c = '[' then s.atOpening? .flowSequenceStart
    else if c = '\x7b' then s.atOpening? .flowMappingStart
    else if c = ']' then s.atClosing? .flowSequenceEnd
    else if c = '\x7d' then s.atClosing? .flowMappingEnd
    else if c = ',' then s.atFlowEntry?
    else if c = '-' && beforeGap then s.atBlockEntry?
    else if c = '?' && (s.inFlow || beforeGap) then s.atKey?
    else if c = ':' && (s.inFlow || beforeGap) then s.atValue?
    else if c = '*' then
      s.atNode? fun cursor => (anchorName? cursor).map fun (name, after) => (.alias name, after)
    else if c = '&' then
      s.atNode? fun cursor => (anchorName? cursor).map fun (name, after) => (.anchor name, after)
    else if c = '!' then s.atNode? (tag? s.inFlow)
    else if c = '|' && !s.inFlow then s.atBlockScalar? true
    else if c = '>' && !s.inFlow then s.atBlockScalar? false
    else if c = '\'' || c = '"' then
      s.atNode? fun cursor =>
        (quotedScalar? (c = '\'') cursor).map fun (text, after) =>
          (.scalar (String.ofList text) .quoted, after)
    else if (!isGap c && !isIndicator c) || c = '-' ||
        (!s.inFlow && (c = '?' || c = ':')) then s.atPlain?
    else none

/-- Move to the next token: skip what lies between, drop what lies too far back,
close the blocks that end, and take the token. -/
def step? (s : Lexer) : Option Lexer := do
  let s := skipToToken (s.cursor.rest.length + 1) s
  let s ← s.expireCandidates?
  (s.unindent (some s.cursor.mark.column)).next?

def run? : Nat → Lexer → Option (List Token)
  | 0, _ => none
  | steps + 1, s =>
    match s.step? with
    | none => none
    | some s =>
      if s.tokens.getLast? == some .streamEnd then some s.tokens else run? steps s

end Lexer

def tokens? (text : String) : Option (List Token) :=
  let cs := text.toList
  if cs.all isAllowed then Lexer.run? (cs.length + 1) { cursor := ⟨cs, {}⟩ } else none

end AgentOperator.Yaml
