import AgentOperator.Text.Blank
import AgentOperator.Text.Digit

/-!
# Timestamps

A timestamp is read from a date and a time of day with an offset, and written in
universal time to the whole second.
-/

namespace AgentOperator

/-- A second of universal time: the days since 1970 and the second of the day;
a leap second is second 60 of its minute. -/
structure Timestamp where
  day : Int
  hour : Nat
  minute : Nat
  second : Nat
deriving DecidableEq, Inhabited

namespace Timestamp

def isLeap (year : Int) : Bool :=
  year % 4 == 0 && (year % 100 != 0 || year % 400 == 0)

def daysIn (year : Int) (month : Nat) : Nat :=
  if month = 2 then (if isLeap year then 29 else 28)
  else if month = 4 ∨ month = 6 ∨ month = 9 ∨ month = 11 then 30
  else 31

/-- The days from 1970 to a date; years begin with March, so that the leap day
is the last of its year. -/
def dayOf (year : Int) (month day : Nat) : Int :=
  let y : Int := if month ≤ 2 then year - 1 else year
  let m : Int := if month ≤ 2 then month + 9 else month - 3
  365 * y + y / 4 - y / 100 + y / 400 + (153 * m + 2) / 5 + day - 1 - 719468

/-- The year, month and day of a day since 1970. -/
def dateOf (day : Int) : Int × Int × Int :=
  let z := day + 719468
  let era := z / 146097
  let doe := z - era * 146097
  let yoe := (doe - doe / 1460 + doe / 36524 - doe / 146096) / 365
  let doy := doe - (365 * yoe + yoe / 4 - yoe / 100)
  let mp := (5 * doy + 2) / 153
  let month := if mp < 10 then mp + 3 else mp - 9
  let year := yoe + era * 400 + (if month ≤ 2 then 1 else 0)
  (year, month, doy - (153 * mp + 2) / 5 + 1)

/-! ## Reading -/

def skipBlanks (cs : List Char) : List Char := cs.dropWhile Text.isBlank

def digits? (most : Nat) (cs : List Char) : Option (Nat × List Char) :=
  let digits := (cs.take most).takeWhile Char.isDigit
  if digits.isEmpty then none
  else some (Text.decimalValue digits, cs.drop digits.length)

/-- A number of one or two digits, white space before it allowed. -/
def number? (cs : List Char) : Option (Nat × List Char) := digits? 2 (skipBlanks cs)

/-- A year of up to four digits, or of any number of them behind a sign. -/
def year? (cs : List Char) : Option (Int × List Char) :=
  match skipBlanks cs with
  | '-' :: rest => (digits? rest.length rest).map fun (n, rest) => (-n, rest)
  | '+' :: rest => (digits? rest.length rest).map fun (n, rest) => (n, rest)
  | rest => (digits? 4 rest).map fun (n, rest) => (n, rest)

/-- The mark between two numbers, white space before it allowed. -/
def mark? (mark : Char) (cs : List Char) : Option (List Char) :=
  match skipBlanks cs with
  | [] => none
  | c :: rest => if c = mark then some rest else none

def timePart? : List Char → Option (List Char)
  | 'T' :: rest | 't' :: rest | ' ' :: rest => some rest
  | _ => none

/-- Drop the fraction of a second, which has at least one digit. -/
def skipFraction? : List Char → Option (List Char)
  | '.' :: rest =>
    if (rest.takeWhile Char.isDigit).isEmpty then none
    else some (rest.dropWhile Char.isDigit)
  | cs => some cs

def twoDigits? : List Char → Option (Nat × List Char)
  | a :: b :: rest =>
    if a.isDigit && b.isDigit then some (Text.decimalValue [a, b], rest) else none
  | _ => none

/-- The minutes that hours and minutes behind a sign make. -/
def offsetMinutes? (cs : List Char) : Option (Nat × List Char) := do
  let (hours, rest) ← twoDigits? cs
  let (minutes, rest) ← twoDigits? (rest.dropWhile fun c => c = ':' || Text.isBlank c)
  if 59 < minutes || 23 < hours then none else some (60 * hours + minutes, rest)

def startsWithUtc (cs : List Char) : Bool :=
  (cs.take 3).map Char.toLower == ['u', 't', 'c']

def offset? (cs : List Char) : Option (Int × List Char) :=
  if startsWithUtc cs then some (0, cs.drop 3)
  else
    match cs with
    | [] => none
    | sign :: rest =>
      if sign = 'Z' || sign = 'z' then some (0, rest)
      else if sign = '+' then (offsetMinutes? rest).map fun (n, rest) => (n, rest)
      else if sign = '-' || sign = '−' then
        (offsetMinutes? rest).map fun (n, rest) => (-n, rest)
      else none

def hasYear (year : Int) : Bool := -262143 ≤ year && year ≤ 262142

/-- The timestamp that a text spells: date, time of day and offset. The year has
to be a possible one both as it is spelled and in universal time. -/
def read? (text : String) : Option Timestamp := do
  let (year, rest) ← year? text.toList
  let rest ← mark? '-' rest
  let (month, rest) ← number? rest
  let rest ← mark? '-' rest
  let (day, rest) ← number? rest
  let rest ← timePart? rest
  let (hour, rest) ← number? rest
  let rest ← mark? ':' rest
  let (minute, rest) ← number? rest
  let rest ← mark? ':' rest
  let (second, rest) ← number? rest
  let rest ← skipFraction? rest
  let (offset, rest) ← offset? (skipBlanks rest)
  if !(skipBlanks rest).isEmpty then none
  else if !hasYear year || month < 1 || 12 < month || day < 1 || daysIn year month < day then
    none
  else if 23 < hour || 59 < minute || 60 < second then none
  else
    let minutes : Int := dayOf year month day * 1440 + hour * 60 + minute - offset
    let universal := minutes / 1440
    if hasYear (dateOf universal).1 then
      some ⟨universal, (minutes % 1440 / 60).toNat, (minutes % 60).toNat, second⟩
    else none

/-! ## Writing -/

def paddedTo (width : Nat) (n : Nat) : String :=
  let digits := toString n
  String.ofList (List.replicate (width - digits.length) '0') ++ digits

/-- The text of a year: four digits, or behind a sign as soon as that is not enough. -/
def yearText (year : Int) : String :=
  if 0 ≤ year ∧ year ≤ 9999 then paddedTo 4 year.toNat
  else (if year < 0 then "-" else "+") ++ paddedTo 4 year.natAbs

def text (t : Timestamp) : String :=
  let (year, month, day) := dateOf t.day
  yearText year ++ "-" ++ paddedTo 2 month.toNat ++ "-" ++ paddedTo 2 day.toNat ++
    "T" ++ paddedTo 2 t.hour ++ ":" ++ paddedTo 2 t.minute ++ ":" ++ paddedTo 2 t.second ++
    "Z"

example : dayOf 1970 1 1 = 0 := by decide
example : dateOf (dayOf 2024 2 29) = (2024, 2, 29) := by decide
example : (read? "2024-01-01T00:30:00.5+02:00").map text = some "2023-12-31T22:30:00Z" := by
  decide +kernel
example : read? "2024-02-30T00:00:00Z" = none := by decide +kernel

end Timestamp

end AgentOperator
