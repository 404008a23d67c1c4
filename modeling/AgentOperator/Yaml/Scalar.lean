import AgentOperator.Text.Digit
import AgentOperator.Yaml.Token
import AgentOperator.Yaml.Value

/-!
# What a scalar stands for

A plain scalar is null, a boolean or a number if it is spelled like one, and
text otherwise; a quoted one is text. A number with a zero in front is text, and
a whole number between 64 and 128 bits is refused. A tag of the standard types
fixes the type.
-/

namespace AgentOperator.Yaml

open Decimal (Binary64)

/-- Whether a text is null. -/
def isNullText (cs : List Char) : Bool :=
  cs = "null".toList || cs = "Null".toList || cs = "NULL".toList || cs = ['~']

def bool? (cs : List Char) : Option Bool :=
  if cs = "true".toList || cs = "True".toList || cs = "TRUE".toList then some true
  else if cs = "false".toList || cs = "False".toList || cs = "FALSE".toList then some false
  else none

def isSign (c : Char) : Bool := c = '+' || c = '-'

def startsSign : List Char → Bool
  | c :: _ => isSign c
  | [] => false

/-- A text without one sign in front of it. -/
def dropSign : List Char → List Char
  | c :: rest => if isSign c then rest else c :: rest
  | [] => []

/-- A text without a plus sign in front of it. -/
def dropPlus : List Char → List Char
  | '+' :: rest => rest
  | cs => cs

/-- Digits with a zero in front of them, which are text. -/
def isZeroPadded (cs : List Char) : Bool :=
  match dropSign cs with
  | '0' :: c :: rest => (c :: rest).all Char.isDigit
  | _ => false

def digits? (base : Nat) : List Char → Option Nat
  | [] => none
  | cs =>
    cs.foldlM
      (fun n c => (Text.hexValue? c).bind fun d => if d < base then some (base * n + d) else none)
      0

def basedDigits? : List Char → Option (Nat × List Char)
  | '0' :: 'x' :: rest => some (16, rest)
  | '0' :: 'o' :: rest => some (8, rest)
  | '0' :: 'b' :: rest => some (2, rest)
  | _ => none

/-- The number of at most a bound that is spelled without a minus sign. -/
def unsigned? (largest : Nat) (cs : List Char) : Option Int :=
  let body := dropPlus cs
  let based := do
    let (base, digits) ← basedDigits? body
    (digits? base digits).filter fun n => n ≤ largest
  match based with
  | some n => some n
  | none =>
    if startsSign body || isZeroPadded cs then none
    else ((digits? 10 body).filter fun n => n ≤ largest).map fun n => (n : Int)

/-- The number that is spelled with a minus sign, down to a bound. -/
def negative? (largest : Nat) (cs : List Char) : Option Int :=
  let fits := fun (n : Nat) => decide (n ≤ largest)
  match cs with
  | '-' :: body =>
    let based := do
      let (base, digits) ← basedDigits? body
      (digits? base digits).filter fits
    match based with
    | some n => some (-n)
    | none =>
      if isZeroPadded cs then none
      else ((digits? 10 body).filter fits).map fun n => -(n : Int)
  | _ => none

inductive WholeNumber
  | value (n : Int)
  /-- A number of more than 64 bits. -/
  | tooWide
  | notWhole

def wholeNumber (cs : List Char) : WholeNumber :=
  match unsigned? (Nat.pow 2 64 - 1) cs <|> negative? (Nat.pow 2 63) cs with
  | some n => .value n
  | none =>
    if (unsigned? (Nat.pow 2 128 - 1) cs <|> negative? (Nat.pow 2 127) cs).isSome then
      .tooWide
    else .notWhole

def exponent? : List Char → Option Int
  | [] => some 0
  | e :: rest =>
    if e = 'e' || e = 'E' then
      let digits := dropSign rest
      if digits.isEmpty || !digits.all Char.isDigit then none
      else
        let n : Int := Text.decimalValue digits
        some (if rest.head? = some '-' then -n else n)
    else none

/-- The number that a decimal spells: digits with or without a point, then a
power of ten. -/
def decimal? (negative : Bool) (cs : List Char) : Option Binary64 :=
  let (whole, rest) := cs.span Char.isDigit
  let (fraction, rest) :=
    match rest with
    | '.' :: rest => rest.span Char.isDigit
    | _ => ([], rest)
  if whole.isEmpty && fraction.isEmpty then none
  else do
    let exponent ← exponent? rest
    let significand := Text.decimalValue (whole ++ fraction)
    let power := exponent - fraction.length
    if significand = 0 then some (Binary64.ofMagnitude negative 0)
    else if 400 < power + (whole ++ fraction).length then some (Binary64.infinity negative)
    else if power + (whole ++ fraction).length < -400 then
      some (Binary64.ofMagnitude negative 0)
    else some (Binary64.ofDecimal negative significand power)

/-- The floating-point number that a text spells; of decimals only finite ones. -/
def real? (cs : List Char) : Option Binary64 :=
  let body := dropPlus cs
  if cs ≠ body ∧ startsSign body then none
  else if body = ".inf".toList || body = ".Inf".toList || body = ".INF".toList then
    some (Binary64.infinity false)
  else if cs = "-.inf".toList || cs = "-.Inf".toList || cs = "-.INF".toList then
    some (Binary64.infinity true)
  else if cs = ".nan".toList || cs = ".NaN".toList || cs = ".NAN".toList then
    some Binary64.nan
  else (decimal? (body.head? = some '-') (dropSign body)).filter Binary64.isFinite

/-- What a plain scalar without a tag stands for. -/
def plainValue? (text : String) : Option Value :=
  let cs := text.toList
  if cs.isEmpty || isNullText cs then some .null
  else
    match bool? cs with
    | some b => some (.bool b)
    | none =>
      match wholeNumber cs with
      | .value n => some (.int n)
      | .tooWide => none
      | .notWhole =>
        if isZeroPadded cs then some (.str text)
        else
          match real? cs with
          | some x => some (.real x)
          | none => some (.str text)

/-- What a scalar without a tag stands for. -/
def untaggedValue? (text : String) : Style → Option Value
  | .plain => plainValue? text
  | .quoted => some (.str text)

/-- What a scalar with the given tag stands for. A tag of the document's own that
names nothing leaves it as it is. -/
def scalarValue? (tag : Option Tag) (text : String) (style : Style) : Option Value :=
  match tag with
  | none => untaggedValue? text style
  | some tag =>
    let cs := text.toList
    if tag == Tag.standard "bool" then (bool? cs).map .bool
    else if tag == Tag.standard "int" then
      match wholeNumber cs with
      | .value n => some (.int n)
      | _ => none
    else if tag == Tag.standard "float" then (real? cs).map .real
    else if tag == Tag.standard "null" then if isNullText cs then some .null else none
    else if tag.isOwn then untaggedValue? text style
    else some (.str text)

end AgentOperator.Yaml
