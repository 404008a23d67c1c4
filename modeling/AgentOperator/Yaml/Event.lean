import AgentOperator.Keyed
import AgentOperator.Yaml.Lexer

/-!
# The events of a document

The tokens of a text are read as one document: a sequence of nodes, each a
scalar, an alias, or a collection with a start and an end. What is still open is
kept on a stack of the places where reading goes on.
-/

namespace AgentOperator.Yaml

structure Properties where
  anchor : Option String := none
  tag : Option Tag := none
deriving DecidableEq, Inhabited

inductive Event
  | alias (name : String)
  | scalar (properties : Properties) (text : String) (style : Style)
  | sequenceStart (properties : Properties)
  | sequenceEnd
  | mappingStart (properties : Properties)
  | mappingEnd
deriving DecidableEq, Inhabited

/-- A place in the grammar where reading goes on. -/
inductive Place
  | blockSequenceEntry
  | indentlessEntry
  | blockMappingKey
  | blockMappingValue
  | flowSequenceEntry (first : Bool)
  | pairKey
  | pairValue
  | pairEnd
  | flowMappingKey (first : Bool)
  | flowMappingValue
  | flowMappingNoValue
deriving DecidableEq, Inhabited

/-- A document that is being read: the tokens ahead and the places where reading
goes on, the innermost first. -/
structure Parser where
  tokens : List Token
  places : List Place
deriving Inhabited

abbrev TagTable := List (String × Tag)

def resolveTag? (table : TagTable) (handle : String) (suffix : Tag) :
    Option Tag :=
  if handle = "" then some suffix
  else (Keyed.get? handle table).map fun replacement => replacement ++ suffix

/-- The node without content. -/
def Event.emptyScalar (properties : Properties) : Event := .scalar properties "" .plain

/-- Read the anchor and the tag at the front of the tokens, in either order. -/
def readProperties? (table : TagTable) : List Token → Option (Properties × List Token)
  | .anchor name :: .tag handle suffix :: rest
  | .tag handle suffix :: .anchor name :: rest => do
    let tag ← resolveTag? table handle suffix
    return (⟨some name, some tag⟩, rest)
  | .anchor name :: rest => some (⟨some name, none⟩, rest)
  | .tag handle suffix :: rest => do
    let tag ← resolveTag? table handle suffix
    return (⟨none, some tag⟩, rest)
  | rest => some ({}, rest)

/-- Read the beginning of a node. Collections that go by indentation are read
where a block may stand, and lists that are not indented where a mapping holds
them. -/
def readNode? (table : TagTable) (block indentless : Bool) (tokens : List Token)
    (places : List Place) : Option (Event × Parser) :=
  match tokens with
  | .alias name :: rest => some (.alias name, ⟨rest, places⟩)
  | _ => do
    let (properties, tokens) ← readProperties? table tokens
    match tokens with
    | .scalar text style :: rest =>
      some (.scalar properties text style, ⟨rest, places⟩)
    | .flowSequenceStart :: rest =>
      some (.sequenceStart properties, ⟨rest, .flowSequenceEntry true :: places⟩)
    | .flowMappingStart :: rest =>
      some (.mappingStart properties, ⟨rest, .flowMappingKey true :: places⟩)
    | .blockSequenceStart :: rest =>
      if block then some (.sequenceStart properties, ⟨rest, .blockSequenceEntry :: places⟩)
      else emptyNode? properties tokens
    | .blockMappingStart :: rest =>
      if block then some (.mappingStart properties, ⟨rest, .blockMappingKey :: places⟩)
      else emptyNode? properties tokens
    | .blockEntry :: _ =>
      if indentless then
        some (.sequenceStart properties, ⟨tokens, .indentlessEntry :: places⟩)
      else emptyNode? properties tokens
    | _ => emptyNode? properties tokens
where
  /-- A node that has properties may be without content. -/
  emptyNode? (properties : Properties) (tokens : List Token) : Option (Event × Parser) :=
    if properties.anchor.isSome || properties.tag.isSome then
      some (.emptyScalar properties, ⟨tokens, places⟩)
    else none

/-- Whether a key or a value of a mapping is left out. -/
def endsBlockItem : List Token → Bool
  | .key :: _ | .value :: _ | .blockEnd :: _ => true
  | _ => false

/-- Whether an entry inside brackets is left out; the bracket is given. -/
def endsFlowItem (closing : Token) : List Token → Bool
  | .flowEntry :: _ => true
  | t :: _ => t == closing
  | [] => false

/-- Read a node, unless it is left out. -/
def readUnless? (table : TagTable) (leftOut block indentless : Bool) (tokens : List Token)
    (places : List Place) : Option (Event × Parser) :=
  if leftOut then some (.emptyScalar {}, ⟨tokens, places⟩)
  else readNode? table block indentless tokens places

def readListEntry? (table : TagTable) (tokens : List Token) (places : List Place) :
    Option (Event × Parser) :=
  match tokens with
  | .key :: rest => some (.mappingStart {}, ⟨rest, .pairKey :: places⟩)
  | .flowSequenceEnd :: rest => some (.sequenceEnd, ⟨rest, places⟩)
  | _ => readNode? table false false tokens (.flowSequenceEntry false :: places)

def readMappingEntry? (table : TagTable) (tokens : List Token) (places : List Place) :
    Option (Event × Parser) :=
  match tokens with
  | .key :: rest =>
    readUnless? table (rest.head? == some .value || endsFlowItem .flowMappingEnd rest)
      false false rest (.flowMappingValue :: places)
  | .flowMappingEnd :: rest => some (.mappingEnd, ⟨rest, places⟩)
  | _ => readNode? table false false tokens (.flowMappingNoValue :: places)

def readAt? (table : TagTable) (place : Place) (tokens : List Token) (places : List Place) :
    Option (Event × Parser) :=
  match place, tokens with
  | .blockSequenceEntry, .blockEntry :: rest =>
    let leftOut := rest.head? == some .blockEntry || rest.head? == some .blockEnd
    readUnless? table leftOut true false rest (.blockSequenceEntry :: places)
  | .blockSequenceEntry, .blockEnd :: rest => some (.sequenceEnd, ⟨rest, places⟩)
  | .indentlessEntry, .blockEntry :: rest =>
    let leftOut := rest.head? == some .blockEntry || endsBlockItem rest
    readUnless? table leftOut true false rest (.indentlessEntry :: places)
  | .indentlessEntry, tokens => some (.sequenceEnd, ⟨tokens, places⟩)
  | .blockMappingKey, .key :: rest =>
    readUnless? table (endsBlockItem rest) true true rest (.blockMappingValue :: places)
  | .blockMappingKey, .blockEnd :: rest => some (.mappingEnd, ⟨rest, places⟩)
  | .blockMappingValue, .value :: rest =>
    readUnless? table (endsBlockItem rest) true true rest (.blockMappingKey :: places)
  | .blockMappingValue, tokens =>
    some (.emptyScalar {}, ⟨tokens, .blockMappingKey :: places⟩)
  | .flowSequenceEntry _, .flowSequenceEnd :: rest => some (.sequenceEnd, ⟨rest, places⟩)
  | .flowSequenceEntry true, tokens => readListEntry? table tokens places
  | .flowSequenceEntry false, .flowEntry :: rest => readListEntry? table rest places
  | .pairKey, tokens =>
    if tokens.head? == some .value || endsFlowItem .flowSequenceEnd tokens then
      some (.emptyScalar {}, ⟨tokens.drop 1, .pairValue :: places⟩)
    else readNode? table false false tokens (.pairValue :: places)
  | .pairValue, .value :: rest =>
    readUnless? table (endsFlowItem .flowSequenceEnd rest) false false rest
      (.pairEnd :: places)
  | .pairValue, tokens => some (.emptyScalar {}, ⟨tokens, .pairEnd :: places⟩)
  | .pairEnd, tokens => some (.mappingEnd, ⟨tokens, .flowSequenceEntry false :: places⟩)
  | .flowMappingKey _, .flowMappingEnd :: rest => some (.mappingEnd, ⟨rest, places⟩)
  | .flowMappingKey true, tokens => readMappingEntry? table tokens places
  | .flowMappingKey false, .flowEntry :: rest => readMappingEntry? table rest places
  | .flowMappingValue, .value :: rest =>
    readUnless? table (endsFlowItem .flowMappingEnd rest) false false rest
      (.flowMappingKey false :: places)
  | .flowMappingValue, tokens =>
    some (.emptyScalar {}, ⟨tokens, .flowMappingKey false :: places⟩)
  | .flowMappingNoValue, tokens =>
    some (.emptyScalar {}, ⟨tokens, .flowMappingKey false :: places⟩)
  | _, _ => none

/-- Read events until every open node is closed. -/
def readEvents? (table : TagTable) :
    Nat → Parser → List Event → Option (List Event × List Token)
  | 0, _, _ => none
  | steps + 1, parser, events =>
    match parser.places with
    | [] => some (events, parser.tokens)
    | place :: places => do
      let (event, parser) ← readAt? table place parser.tokens places
      readEvents? table steps parser (events ++ [event])

/-- Read the directives at the head of a document: whether a version was given,
and the tag handles, each at most once. -/
def readDirectives? : List Token → Bool → TagTable → Option (TagTable × List Token)
  | .versionDirective major minor :: rest, versioned, table =>
    if versioned || major ≠ 1 || (minor ≠ 1 && minor ≠ 2) then none
    else readDirectives? rest true table
  | .tagDirective handle replacement :: rest, versioned, table =>
    if (Keyed.get? handle table).isSome then none
    else readDirectives? rest versioned (table ++ [(handle, replacement)])
  | rest, _, table => some (table, rest)

/-- The replacements that hold where no directive gives another. -/
def standardTags : TagTable := [("!", Tag.bare), ("!!", Tag.standardPrefix)]

/-- Whether the tokens hold nothing but the end of the document. -/
def endsStream : List Token → Bool
  | .documentEnd :: rest => endsStream rest
  | [.streamEnd] => true
  | _ => false

/-- Whether a document without content ends here. -/
def endsDocument : List Token → Bool
  | .versionDirective .. :: _ | .tagDirective .. :: _ | .documentStart :: _
  | .documentEnd :: _ | .streamEnd :: _ => true
  | _ => false

def readRoot? (table : TagTable) (tokens : List Token) : Option (List Event) := do
  let (event, parser) ← readNode? table true false tokens []
  let (events, rest) ← readEvents? table (4 * tokens.length + 4) parser [event]
  if endsStream rest then some events else none

/-- The events of the only document that the tokens hold; there are none when
there is no document. -/
def events? (tokens : List Token) : Option (List Event) :=
  match tokens with
  | .streamEnd :: _ => some []
  | .versionDirective .. :: _ | .tagDirective .. :: _ | .documentStart :: _ => do
    let (table, rest) ← readDirectives? tokens false []
    match rest with
    | .documentStart :: rest =>
      if endsDocument rest then
        if endsStream rest then some [.emptyScalar {}] else none
      else readRoot? (table ++ standardTags) rest
    | _ => none
  | _ => readRoot? standardTags tokens

end AgentOperator.Yaml
