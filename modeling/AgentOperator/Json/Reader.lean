import AgentOperator.Json.Basic
import AgentOperator.Text.Digit

/-!
# Reading JSON text

A text is cut into tokens and the tokens are put together with a stack of the
containers that are still open. The text as a whole has to be well formed. A
part of it can be well formed and yet stand for no value: a number beyond the
floating-point range, a string that names one surrogate without the other, an
object with such a string for a key, or a container that is nested more than 127
deep. Such parts are read as `unreadable`.

The fields of an object are first read as they are written, repetitions and
unreadable parts included; `canonical?` then keeps the last value of each key,
and refuses a text with a part that is unreadable.
-/

namespace AgentOperator.Json

open Decimal (Binary64)

inductive Token
  | openArr | closeArr | openObj | closeObj | comma | colon
  /-- A string, none when it is unreadable. -/
  | quoted (content : Option String)
  | scalar (value : Json)
deriving Inhabited

/-! ## Strings -/

/-- A part of a string: a character, or an escape that names a 16-bit unit. -/
inductive StringPart
  | char (c : Char)
  | unit (n : Nat)

/-- The character that a one-letter escape stands for. -/
def shortEscape? : Char → Option Char
  | '"' => some '"'
  | '\\' => some '\\'
  | '/' => some '/'
  | 'b' => some '\x08'
  | 'f' => some '\x0c'
  | 'n' => some '\n'
  | 'r' => some '\r'
  | 't' => some '\t'
  | _ => none

/-- The parts of a string up to its closing quote, and what follows the quote. -/
def stringParts? : List Char → Option (List StringPart × List Char)
  | [] => none
  | '"' :: rest => some ([], rest)
  | '\\' :: 'u' :: a :: b :: c :: d :: rest => do
    let unit ← Text.hexNumber? [a, b, c, d]
    let (parts, after) ← stringParts? rest
    return (.unit unit :: parts, after)
  | '\\' :: e :: rest => do
    let c ← shortEscape? e
    let (parts, after) ← stringParts? rest
    return (.char c :: parts, after)
  | c :: rest =>
    if c.toNat < 0x20 then none
    else do
      let (parts, after) ← stringParts? rest
      return (.char c :: parts, after)

def isHighSurrogate (n : Nat) : Bool := 0xD800 ≤ n && n ≤ 0xDBFF

def isLowSurrogate (n : Nat) : Bool := 0xDC00 ≤ n && n ≤ 0xDFFF

/-- The characters that the parts spell. A surrogate must be one of a pair. -/
def joinParts? : List StringPart → Option (List Char)
  | [] => some []
  | .char c :: rest => (joinParts? rest).map (c :: ·)
  | .unit high :: .unit low :: rest =>
    if isHighSurrogate high then
      if isLowSurrogate low then
        let n := 0x10000 + (high - 0xD800) * 0x400 + (low - 0xDC00)
        (joinParts? rest).map (Char.ofNat n :: ·)
      else none
    else if isLowSurrogate high then none
    else (joinParts? (.unit low :: rest)).map (Char.ofNat high :: ·)
  | .unit n :: rest =>
    if isHighSurrogate n || isLowSurrogate n then none
    else (joinParts? rest).map (Char.ofNat n :: ·)

/-! ## Numbers -/

/-- The largest significand that is kept digit by digit. -/
def largestSignificand : Nat := Nat.pow 2 64 - 1

/-- Take in the digits of the whole part; once one would not fit, it and all
later digits only raise the exponent. -/
def wholeDigits : Nat → Int → List Char → Nat × Int
  | significand, exponent, [] => (significand, exponent)
  | significand, exponent, c :: rest =>
    let next := 10 * significand + Text.digitValue c
    if largestSignificand < next then (significand, exponent + (c :: rest).length)
    else wholeDigits next exponent rest

/-- Take in the digits of the fraction; once one would not fit, it and all later
digits are dropped. -/
def fractionDigits : Nat → Int → List Char → Nat × Int
  | significand, exponent, [] => (significand, exponent)
  | significand, exponent, c :: rest =>
    let next := 10 * significand + Text.digitValue c
    if largestSignificand < next then (significand, exponent)
    else fractionDigits next (exponent - 1) rest

/-- A significand scaled by a power of ten, as far as the powers that are
numbers of the format reach, each step rounded. Too large a value is none. -/
def scaled? : Nat → Binary64 → Int → Option Binary64
  | 0, _, _ => none
  | steps + 1, x, exponent =>
    if exponent.natAbs ≤ 308 then
      let power := Binary64.ofNat (Nat.pow 10 exponent.natAbs)
      let result := if 0 ≤ exponent then x.mul power else x.div power
      if result.isFinite then some result else none
    else if x.isZero then some x
    else if 0 ≤ exponent then none
    else scaled? steps (x.div (Binary64.ofNat (Nat.pow 10 308))) (exponent + 308)

/-- The floating-point number with a significand and a power of ten. After four
steps of 308 places the value is zero. -/
def realOf? (negative : Bool) (significand : Nat) (exponent : Int) : Option Binary64 :=
  (scaled? 6 (Binary64.ofNat significand) exponent).map fun x =>
    if negative then x.negate else x

def splitDigits (cs : List Char) : List Char × List Char :=
  cs.span Char.isDigit

def largestExponent : Nat := Nat.pow 2 31 - 1

/-- The number with a whole part, a fraction and an exponent. An exponent that
does not fit is refused when it makes the number large and gives zero when it
makes it small. -/
def decimal? (negative : Bool) (significand : Nat) (exponent : Int)
    (power : Option (Bool × Nat)) : Option Binary64 :=
  match power with
  | none => realOf? negative significand exponent
  | some (small, n) =>
    if largestExponent < n then
      if significand != 0 && !small then none
      else some (Binary64.ofMagnitude negative 0)
    else
      let total := if small then exponent - n else exponent + n
      realOf? negative significand (max (-Int.pow 2 31) (min (Int.pow 2 31 - 1) total))

/-- The exponent at the front of a text: its sign and digits, if there are any. -/
def power? : List Char → Option (Bool × Nat)
  | sign :: rest =>
    let (small, digits) :=
      if sign = '-' then (true, rest)
      else if sign = '+' then (false, rest)
      else (false, sign :: rest)
    if digits.isEmpty || !digits.all Char.isDigit then none
    else some (small, Text.decimalValue digits)
  | [] => none

/-- A floating-point number, if it is in range. -/
def ofReal : Option Binary64 → Json
  | some x => real x
  | none => unreadable

/-- A whole number; one of more than 64 bits is floating-point, as is a zero
with a sign. -/
def whole (negative : Bool) (digits : List Char) : Json :=
  let n := Text.decimalValue digits
  if negative then
    if 0 < n ∧ n ≤ Nat.pow 2 63 then int (-n)
    else
      let (significand, exponent) := wholeDigits 0 0 digits
      ofReal (realOf? true significand exponent)
  else if n ≤ largestSignificand then int n
  else
    let (significand, exponent) := wholeDigits 0 0 digits
    ofReal (realOf? false significand exponent)

/-- The number that a text spells, unreadable when it is out of range. -/
def number? (cs : List Char) : Option Json :=
  let (negative, cs) :=
    match cs with
    | '-' :: rest => (true, rest)
    | _ => (false, cs)
  let (digits, rest) := splitDigits cs
  if digits.isEmpty || (digits.head? == some '0' && digits.length != 1) then none
  else
    let (significand, exponent) := wholeDigits 0 0 digits
    match rest with
    | [] => some (whole negative digits)
    | '.' :: rest =>
      let (fraction, rest) := splitDigits rest
      if fraction.isEmpty then none
      else
        let (significand, exponent) := fractionDigits significand exponent fraction
        match rest with
        | [] => some (ofReal (decimal? negative significand exponent none))
        | e :: rest =>
          if e = 'e' || e = 'E' then do
            let power ← power? rest
            return ofReal (decimal? negative significand exponent (some power))
          else none
    | e :: rest =>
      if e = 'e' || e = 'E' then do
        let power ← power? rest
        return ofReal (decimal? negative significand exponent (some power))
      else none

/-! ## Tokens -/

def isBlank (c : Char) : Bool :=
  c = ' ' || c = '\t' || c = '\n' || c = '\r'

def isNumberChar (c : Char) : Bool :=
  c.isDigit || c = '-' || c = '+' || c = '.' || c = 'e' || c = 'E'

/-- The value that a word stands for. -/
def word? : List Char → Option Json
  | ['n', 'u', 'l', 'l'] => some null
  | ['t', 'r', 'u', 'e'] => some (bool true)
  | ['f', 'a', 'l', 's', 'e'] => some (bool false)
  | _ => none

/-- The token that begins with a character, and what follows it. -/
def token? (c : Char) (rest : List Char) : Option (Token × List Char) :=
  if c = '[' then some (.openArr, rest)
  else if c = ']' then some (.closeArr, rest)
  else if c = '\x7b' then some (.openObj, rest)
  else if c = '\x7d' then some (.closeObj, rest)
  else if c = ',' then some (.comma, rest)
  else if c = ':' then some (.colon, rest)
  else if c = '"' then do
    let (parts, after) ← stringParts? rest
    return (.quoted ((joinParts? parts).map String.ofList), after)
  else if c = '-' || c.isDigit then do
    let value ← number? (c :: rest.takeWhile isNumberChar)
    return (.scalar value, rest.dropWhile isNumberChar)
  else do
    let value ← word? (c :: rest.takeWhile Char.isAlpha)
    return (.scalar value, rest.dropWhile Char.isAlpha)

/-- The text behind a string is no longer than the string with it. -/
theorem length_of_stringParts? {cs after : List Char} {parts : List StringPart}
    (h : stringParts? cs = some (parts, after)) : after.length ≤ cs.length := by
  fun_induction stringParts? cs generalizing parts after with
  | case1 => simp at h
  | case2 rest =>
    cases h
    simp
  | case3 a b c d rest ih =>
    simp only [Option.bind_eq_bind, Option.bind_eq_some_iff] at h
    obtain ⟨_, _, ⟨_, _⟩, inner, h⟩ := h
    cases h
    have := ih inner
    simp only [List.length_cons]
    omega
  | case4 e rest _ ih =>
    simp only [Option.bind_eq_bind, Option.bind_eq_some_iff] at h
    obtain ⟨_, _, ⟨_, _⟩, inner, h⟩ := h
    cases h
    have := ih inner
    simp only [List.length_cons]
    omega
  | case5 => simp at h
  | case6 c rest _ _ _ _ ih =>
    simp only [Option.bind_eq_bind, Option.bind_eq_some_iff] at h
    obtain ⟨⟨_, _⟩, inner, h⟩ := h
    cases h
    have := ih inner
    simp only [List.length_cons]
    omega

/-- A token takes characters off the front of a text and adds none. -/
theorem length_of_token? {c : Char} {rest after : List Char} {token : Token}
    (h : token? c rest = some (token, after)) : after.length ≤ rest.length := by
  simp only [token?] at h
  repeat' split at h
  iterate 6
    · cases h
      exact Nat.le_refl _
  · simp only [Option.bind_eq_bind, Option.bind_eq_some_iff] at h
    obtain ⟨⟨_, _⟩, inner, h⟩ := h
    cases h
    exact length_of_stringParts? inner
  · simp only [Option.bind_eq_bind, Option.bind_eq_some_iff] at h
    obtain ⟨_, _, h⟩ := h
    cases h
    exact (List.dropWhile_sublist _).length_le
  · simp only [Option.bind_eq_bind, Option.bind_eq_some_iff] at h
    obtain ⟨_, _, h⟩ := h
    cases h
    exact (List.dropWhile_sublist _).length_le

def tokens? (cs : List Char) : Option (List Token) :=
  match cs with
  | [] => some []
  | c :: rest =>
    if isBlank c then tokens? rest
    else
      match _taken : token? c rest with
      | none => none
      | some (token, after) => (tokens? after).map (token :: ·)
  termination_by cs.length
  decreasing_by
    · simp
    · exact Nat.lt_succ_of_le (length_of_token? _taken)

/-! ## Values -/

inductive Expect
  | value | valueOrClose | key | keyOrClose | colon | commaOrClose

/-- A container that is still open, with its parts in reverse. A key that is
unreadable is none. -/
inductive Frame
  | inArr (elements : List Json)
  | inObj (fields : List (Option String × Json)) (key : Option String)

/-- A reader between two tokens: the open containers, innermost first, what is
expected, and the value once it is complete. -/
structure Partial where
  frames : List Frame
  expect : Expect
  done : Option Json

def deepest : Nat := 127

/-- A container with the containers around it that are still open: unreadable
when they are as many as may nest. -/
def container (around : List Frame) (value : Json) : Json :=
  if (around.drop (deepest - 1)).isEmpty then value else unreadable

/-- The object with the given fields, which are in reverse. One key that is
unreadable makes the object unreadable. -/
def ofFields (fields : List (Option String × Json)) : Json :=
  match fields.reverse.mapM fun entry => entry.1.map fun key => (key, entry.2) with
  | some fields => obj fields
  | none => unreadable

def Partial.put (frames : List Frame) (value : Json) : Partial :=
  match frames with
  | [] => ⟨[], .value, some value⟩
  | .inArr elements :: rest => ⟨.inArr (value :: elements) :: rest, .commaOrClose, none⟩
  | .inObj fields key :: rest =>
    ⟨.inObj ((key, value) :: fields) key :: rest, .commaOrClose, none⟩

def Partial.step? (state : Partial) (token : Token) : Option Partial :=
  if state.done.isSome then none
  else
    match state.expect, token, state.frames with
    | .value, .openArr, frames | .valueOrClose, .openArr, frames =>
      some ⟨.inArr [] :: frames, .valueOrClose, none⟩
    | .value, .openObj, frames | .valueOrClose, .openObj, frames =>
      some ⟨.inObj [] none :: frames, .keyOrClose, none⟩
    | .value, .quoted s, frames | .valueOrClose, .quoted s, frames =>
      some (.put frames ((s.map str).getD unreadable))
    | .value, .scalar v, frames | .valueOrClose, .scalar v, frames =>
      some (.put frames v)
    | .valueOrClose, .closeArr, .inArr elements :: rest
    | .commaOrClose, .closeArr, .inArr elements :: rest =>
      some (.put rest (container rest (arr elements.reverse)))
    | .keyOrClose, .closeObj, .inObj fields _ :: rest
    | .commaOrClose, .closeObj, .inObj fields _ :: rest =>
      some (.put rest (container rest (ofFields fields)))
    | .commaOrClose, .comma, .inArr elements :: rest =>
      some ⟨.inArr elements :: rest, .value, none⟩
    | .commaOrClose, .comma, .inObj fields key :: rest =>
      some ⟨.inObj fields key :: rest, .key, none⟩
    | .key, .quoted s, .inObj fields _ :: rest
    | .keyOrClose, .quoted s, .inObj fields _ :: rest =>
      some ⟨.inObj fields s :: rest, .colon, none⟩
    | .colon, .colon, frames => some ⟨frames, .value, none⟩
    | _, _, _ => none

/-- The value that a text spells, the fields of its objects as they are written
and its unreadable parts in their places. -/
def readRaw? (text : String) : Option Json := do
  let tokens ← tokens? text.toList
  let final ← tokens.foldlM Partial.step? ⟨[], .value, none⟩
  final.done

def read? (text : String) : Option Json :=
  (readRaw? text).bind canonical?

end AgentOperator.Json
