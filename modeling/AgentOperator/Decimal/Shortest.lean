import AgentOperator.Decimal.Binary64

/-!
# The shortest decimal that reads back

A finite number is written with the fewest digits from which it is read back,
and among decimals of that many digits with the nearest one. The digits are
positional for magnitudes from 10⁻⁵ up to below 10¹⁶ and have an exponent with
its sign beyond.
-/

namespace AgentOperator.Decimal

namespace Binary64

def readsBack (x : Binary64) (digits : Nat) (exponent : Int) : Bool :=
  (ofDecimal false digits exponent).bits.toNat = x.magnitude

/-- The position of the leading digit of a positive quotient: the `k` for which
the quotient lies from `10 ^ (k - 1)` up to below `10 ^ k`. -/
def leadingPlace (num den : Nat) : Int :=
  if den ≤ num then ((Nat.toDigits 10 (num / den)).length : Int)
  else
    let places := (Nat.toDigits 10 (den / num)).length
    if den ≤ num * Nat.pow 10 (places - 1) then -((places - 1 : Nat) : Int) + 1
    else -(places : Int) + 1

/-- The digits of a positive quotient on the grid of a power of ten: the number
below, the remainder it leaves, and the divisor of that remainder. -/
def onGrid (num den : Nat) (exponent : Int) : Nat × Nat × Nat :=
  let (n, d) :=
    if 0 ≤ exponent then (num, den * Nat.pow 10 exponent.toNat)
    else (num * Nat.pow 10 (-exponent).toNat, den)
  (n / d, n % d, d)

/-- A decimal of at most `count` digits that reads back, the nearest one if
there are two. -/
def decimalOf? (x : Binary64) (count : Nat) : Option (Nat × Int) :=
  let (num, den) := x.ratio
  let exponent := leadingPlace num den - count
  let (below, rest, divisor) := onGrid num den exponent
  let lower := x.readsBack below exponent
  let upper := x.readsBack (below + 1) exponent
  match lower, upper with
  | true, true =>
    if 2 * rest < divisor || (2 * rest == divisor && below % 2 == 0) then
      some (below, exponent)
    else some (below + 1, exponent)
  | true, false => some (below, exponent)
  | false, true => some (below + 1, exponent)
  | false, false => none

/-- The digits and the exponent of the shortest decimal of a positive number.
Seventeen digits always read back. -/
def shortest (x : Binary64) : Nat × Int :=
  ((List.range 17).findSome? fun n => x.decimalOf? (n + 1)).getD (0, 0)

end Binary64

/-- Drop the zeros at the end of a digit text, counting them into the exponent. -/
def dropZeros (digits : Nat) (exponent : Int) : List Char × Int :=
  let text := Nat.toDigits 10 digits
  let zeros := (text.reverse.takeWhile (· == '0')).length
  (text.take (text.length - zeros), exponent + zeros)

/-- The text of an exponent: its mark, its sign and the fewest digits. -/
def exponentText (power : Int) : List Char :=
  'e' :: (if power < 0 then '-' else '+') :: (toString power.natAbs).toList

/-- The text of a positive decimal: positional where the point falls within
sixteen digits or at most five zeros precede the first digit. -/
def decimalText (digits : List Char) (exponent : Int) : List Char :=
  let length : Int := digits.length
  let place := length + exponent
  if 0 ≤ exponent ∧ place ≤ 16 then
    digits ++ List.replicate exponent.toNat '0' ++ ['.', '0']
  else if 0 < place ∧ place ≤ 16 then
    digits.take place.toNat ++ '.' :: digits.drop place.toNat
  else if -5 < place ∧ place ≤ 0 then
    '0' :: '.' :: List.replicate (-place).toNat '0' ++ digits
  else
    let power := exponentText (place - 1)
    match digits with
    | [] => []
    | [d] => d :: power
    | d :: rest => d :: '.' :: rest ++ power

example : String.ofList (decimalText ['1'] 20) = "1e+20" := by decide +kernel
example : String.ofList (decimalText ['1', '5'] (-8)) = "1.5e-7" := by decide +kernel

def Binary64.text (x : Binary64) : String :=
  let mark := if x.isNegative then ['-'] else []
  if x.isZero then String.ofList (mark ++ ['0', '.', '0'])
  else
    let (digits, exponent) := dropZeros x.shortest.1 x.shortest.2
    String.ofList (mark ++ decimalText digits exponent)

end AgentOperator.Decimal
