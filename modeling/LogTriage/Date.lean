import LogTriage.Text.Blank
import LogTriage.Text.Numeral

/-!
# Calendar dates

Dates of the proleptic Gregorian calendar, written `year-month-day`.  A written date may have
white space before each number and one digit for month and day; an unsigned year has at most four
digits, one with a sign any number.  Nothing may follow the day.
-/

namespace LogTriage

structure Date where
  year : Int
  month : Nat
  day : Nat
deriving DecidableEq, Inhabited

namespace Date
open Text

def isLeap (year : Int) : Bool := year % 4 = 0 && (year % 100 ≠ 0 || year % 400 = 0)

def daysIn (year : Int) (month : Nat) : Nat :=
  if month = 2 then (if isLeap year then 29 else 28)
  else if month = 4 ∨ month = 6 ∨ month = 9 ∨ month = 11 then 30
  else 31

/-- The years that a date can have. -/
def yearInRange (year : Int) : Bool := -262143 ≤ year && year ≤ 262142

def valid (d : Date) : Bool :=
  yearInRange d.year && 1 ≤ d.month && d.month ≤ 12 && 1 ≤ d.day && d.day ≤ daysIn d.year d.month

/-- The value of the leading digits, at most `width` of them, and what follows. -/
def number? (width : Nat) (cs : List Char) : Option (Nat × List Char) :=
  let digits := (cs.take width).takeWhile isDigit
  if digits.isEmpty then none else some (digitsValue 10 digits, cs.drop digits.length)

def year? (cs : List Char) : Option (Int × List Char) :=
  match trimStart cs with
  | '-' :: rest => (number? rest.length rest).map fun (n, rest) => (-(n : Int), rest)
  | '+' :: rest => (number? rest.length rest).map fun (n, rest) => ((n : Int), rest)
  | cs => (number? 4 cs).map fun (n, rest) => ((n : Int), rest)

/-- A number of one or two digits after a dash. -/
def part? (cs : List Char) : Option (Nat × List Char) :=
  match cs with
  | '-' :: rest => number? 2 (trimStart rest)
  | _ => none

def parse? (s : String) : Option Date :=
  match year? s.toList with
  | none => none
  | some (year, rest) =>
    match part? rest with
    | none => none
    | some (month, rest) =>
      match part? rest with
      | some (day, []) => some { year, month, day } |>.filter valid
      | _ => none

/-- A year outside 0 to 9999 is written with its sign and at least four digits after it. -/
def yearText (year : Int) : String :=
  if 0 ≤ year ∧ year ≤ 9999 then zeroPadded 4 year.toNat
  else if year < 0 then "-" ++ zeroPadded 4 year.natAbs
  else "+" ++ toString year.natAbs

def text (d : Date) : String :=
  yearText d.year ++ "-" ++ zeroPadded 2 d.month ++ "-" ++ zeroPadded 2 d.day

end Date

end LogTriage
