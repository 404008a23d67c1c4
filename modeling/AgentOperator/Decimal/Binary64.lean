/-!
# Binary floating-point numbers of 64 bits

The numbers of the IEEE format `binary64`, kept as their bits and computed with
in exact arithmetic: a quotient of natural numbers is rounded to the nearest
number of the format, a tie going to the even significand.
-/

namespace AgentOperator.Decimal

/-- A number of the format `binary64`, by its bits. -/
structure Binary64 where
  bits : UInt64
deriving DecidableEq, Inhabited

namespace Binary64

def signBit : Nat := Nat.pow 2 63

/-- The bits without the sign, as a number. -/
def magnitude (x : Binary64) : Nat := x.bits.toNat % signBit

/-- Whether the sign is negative, zero included. -/
def isNegative (x : Binary64) : Bool := signBit ≤ x.bits.toNat

def infinityMagnitude : Nat := 0x7FF * Nat.pow 2 52

/-- Whether the number is a zero of either sign. -/
def isZero (x : Binary64) : Bool := x.magnitude = 0

def isFinite (x : Binary64) : Bool := x.magnitude < infinityMagnitude

def isNaN (x : Binary64) : Bool := infinityMagnitude < x.magnitude

/-- Where the number stands among the others, both zeros at zero. -/
def order (x : Binary64) : Int := if x.isNegative then -x.magnitude else x.magnitude

/-- Whether the number is zero or more, infinity included. -/
def isNonneg (x : Binary64) : Bool := !x.isNaN && 0 ≤ x.order

def ofMagnitude (negative : Bool) (magnitude : Nat) : Binary64 :=
  ⟨UInt64.ofNat (magnitude + if negative then signBit else 0)⟩

def infinity (negative : Bool) : Binary64 := ofMagnitude negative infinityMagnitude

def nan : Binary64 := ofMagnitude false (infinityMagnitude + Nat.pow 2 51)

def negate (x : Binary64) : Binary64 := ofMagnitude (!x.isNegative) x.magnitude

def significand (x : Binary64) : Nat :=
  if x.magnitude < Nat.pow 2 52 then x.magnitude else x.magnitude % Nat.pow 2 52 + Nat.pow 2 52

/-- The exponent of two that belongs to the significand, raised by 1074. -/
def scale (x : Binary64) : Nat :=
  x.magnitude / Nat.pow 2 52 - 1

def ratio (x : Binary64) : Nat × Nat :=
  (x.significand * Nat.pow 2 x.scale, Nat.pow 2 1074)

/-- Equality of values: the zeros of either sign are one value. -/
def same (x y : Binary64) : Bool :=
  x = y || (x.isZero && y.isZero)

/-- A quotient rounded to the nearest whole number, a tie going to the even one. -/
def roundDiv (num den : Nat) : Nat :=
  let q := num / den
  let rest := 2 * (num % den)
  if den < rest || (rest == den && q % 2 == 1) then q + 1 else q

/-- The scale at which a quotient has a significand of 53 bits, or zero when the
number is too small for that many. -/
def scaleOf (num den : Nat) : Nat :=
  let shifted := num * Nat.pow 2 1074 / den
  shifted.log2 - 52

/-- The number nearest to the quotient of two natural numbers; beyond the
largest finite number it is infinity. -/
def ofRatio (negative : Bool) (num den : Nat) : Binary64 :=
  let exponent := scaleOf num den
  let m := roundDiv (num * Nat.pow 2 1074) (den * Nat.pow 2 exponent)
  let magnitude := m + exponent * Nat.pow 2 52
  if magnitude < infinityMagnitude then ofMagnitude negative magnitude
  else infinity negative

def ofNat (n : Nat) : Binary64 := ofRatio false n 1

/-- The product of two finite numbers, rounded. -/
def mul (x y : Binary64) : Binary64 :=
  ofRatio (x.isNegative != y.isNegative) (x.ratio.1 * y.ratio.1) (x.ratio.2 * y.ratio.2)

/-- The product of any two numbers: zero times infinity is not a number. -/
def times (x y : Binary64) : Binary64 :=
  if x.isFinite && y.isFinite then x.mul y
  else if x.isNaN || y.isNaN || x.isZero || y.isZero then nan
  else infinity (x.isNegative != y.isNegative)

/-- The sum of two finite numbers that are not negative, rounded. -/
def plus (x y : Binary64) : Binary64 :=
  ofRatio false (x.ratio.1 + y.ratio.1) (Nat.pow 2 1074)

/-- The smaller of two numbers; what is not a number gives way to the other. -/
def least (x y : Binary64) : Binary64 :=
  if x.isNaN then y
  else if y.isNaN || x.order ≤ y.order then x
  else y

/-- The quotient of two finite numbers, rounded; the divisor is not zero. -/
def div (x y : Binary64) : Binary64 :=
  ofRatio (x.isNegative != y.isNegative) (x.ratio.1 * y.ratio.2) (x.ratio.2 * y.ratio.1)

def ofDecimal (negative : Bool) (significand : Nat) (exponent : Int) : Binary64 :=
  if 0 ≤ exponent then ofRatio negative (significand * Nat.pow 10 exponent.toNat) 1
  else ofRatio negative significand (Nat.pow 10 (-exponent).toNat)

example : ofNat 1 = ⟨0x3FF0000000000000⟩ := by decide +kernel
example : ofDecimal false 1 (-1) = ⟨0x3FB999999999999A⟩ := by decide +kernel
example : ofDecimal true 0 0 = ⟨0x8000000000000000⟩ := by decide +kernel
example : ofDecimal false 5 (-324) = ⟨1⟩ := by decide +kernel
example : ofDecimal false 17976931348623157 292 = ⟨0x7FEFFFFFFFFFFFFF⟩ := by decide +kernel
example : (ofDecimal false 1 309).isFinite = false := by decide +kernel
example : (ofNat 3).div (ofNat 10) = ofDecimal false 3 (-1) := by decide +kernel
example : ((ofDecimal false 0 0).times (infinity false)).isNaN = true := by decide +kernel
example : nan.least (ofNat 1) = ofNat 1 := by decide +kernel

end Binary64

end AgentOperator.Decimal
