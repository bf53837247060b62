import LogTriage.Text.Double
import LogTriage.Toml.Value
import LogTriage.Date

/-!
# TOML numbers, dates and times

A scalar without quotes is one word.  Underscores may stand between digits; an integer has 64 bits
and no leading zero; a float that rounds to positive infinity is refused, and so is a date that
does not exist.
-/

namespace LogTriage.Toml
open Text

/-- The digits of a numeral without its underscores, each of which stands between two digits. -/
def plainDigits? (isDigit : Char → Bool) (cs : List Char) : Option (List Char) :=
  let rec go (afterDigit : Bool) (acc : List Char) : List Char → Option (List Char)
    | [] => if afterDigit then some acc.reverse else none
    | '_' :: cs => if afterDigit then go false acc cs else none
    | c :: cs => if isDigit c then go true (c :: acc) cs else none
  go false [] cs

def unsigned (cs : List Char) : Bool × List Char :=
  match cs with
  | '-' :: rest => (true, rest)
  | '+' :: rest => (false, rest)
  | _ => (false, cs)

/-- Decimal digits without a leading zero. -/
def decimalDigits? (cs : List Char) : Option (List Char) :=
  match plainDigits? isDigit cs with
  | some ('0' :: _ :: _) => none
  | digits => digits

/-- The integer that `n` with its sign is, if it has 64 bits. -/
def word? (negative : Bool) (n : Nat) : Option Int :=
  let i : Int := if negative then -(n : Int) else n
  if -9223372036854775808 ≤ i ∧ i ≤ 9223372036854775807 then some i else none

def integer? (cs : List Char) : Option Int :=
  let based (base : Nat) (cs : List Char) : Option Int :=
    (plainDigits? (fun c => (digitValue? base c).isSome) cs).bind
      fun ds => word? false (digitsValue base ds)
  match cs with
  | '0' :: 'x' :: rest => based 16 rest
  | '0' :: 'o' :: rest => based 8 rest
  | '0' :: 'b' :: rest => based 2 rest
  | _ =>
    let (negative, digits) := unsigned cs
    (decimalDigits? digits).bind fun ds => word? negative (digitsValue 10 ds)

/-- A float, by its text: an integer part, a fraction or an exponent or both. -/
def float? (cs : List Char) : Option String :=
  let (negative, body) := unsigned cs
  if body = "inf".toList ∨ body = "nan".toList then some (String.ofList cs)
  else
    let whole := body.takeWhile fun c => c ≠ '.' && c ≠ 'e' && c ≠ 'E'
    let rest := body.drop whole.length
    let (fraction, rest) := match rest with
      | '.' :: rest =>
        let fraction := rest.takeWhile fun c => c ≠ 'e' && c ≠ 'E'
        (some fraction, rest.drop fraction.length)
      | _ => (none, rest)
    let exponent := match rest with
      | [] => none
      | _ :: rest => some rest
    if fraction.isNone && exponent.isNone then none
    else do
      let whole ← decimalDigits? whole
      let fraction ← plainDigits? isDigit (fraction.getD ['0'])
      let (down, digits) := unsigned (exponent.getD ['0'])
      let exponent ← plainDigits? isDigit digits
      let e : Int := digitsValue 10 exponent
      let shift := (if down then -e else e) - fraction.length
      if negative || roundsFinite (whole ++ fraction) shift then
        some ((if negative then "-" else "") ++ String.ofList body)
      else none

/-! ### Dates and times -/

/-- The number that exactly `n` digits at the start of `cs` name, and what follows. -/
def fixed? (n : Nat) (cs : List Char) : Option (Nat × List Char) :=
  let digits := cs.take n
  if digits.length = n ∧ digits.all isDigit then some (digitsValue 10 digits, cs.drop n) else none

def after? (c : Char) : List Char → Option (List Char)
  | d :: rest => if c = d then some rest else none
  | [] => none

/-- A date at the start of `cs`, and what follows. -/
def fullDate? (cs : List Char) : Option (List Char) := do
  let (year, cs) ← fixed? 4 cs
  let (month, cs) ← fixed? 2 (← after? '-' cs)
  let (day, cs) ← fixed? 2 (← after? '-' cs)
  if Date.valid { year, month, day } then some cs else none

/-- A fraction of a second, if there is one, and what follows. -/
def skipFraction? (cs : List Char) : Option (List Char) :=
  match cs with
  | '.' :: rest =>
    let digits := rest.takeWhile isDigit
    if digits.isEmpty then none else some (rest.drop digits.length)
  | _ => some cs

def fullTime? (cs : List Char) : Option (List Char) := do
  let (hour, cs) ← fixed? 2 cs
  let (minute, cs) ← fixed? 2 (← after? ':' cs)
  let (second, cs) ← fixed? 2 (← after? ':' cs)
  if hour ≤ 23 ∧ minute ≤ 59 ∧ second ≤ 60 then skipFraction? cs else none

/-- A distance from the standard time, if there is one, up to the end of the text. -/
def endsWithOffset (cs : List Char) : Bool :=
  match cs with
  | [] => true
  | ['Z'] => true
  | ['z'] => true
  | c :: rest =>
    (c == '+' || c == '-') &&
      match fixed? 2 rest with
      | some (hour, ':' :: rest) =>
        match fixed? 2 rest with
        | some (minute, []) => hour ≤ 23 && minute ≤ 59
        | _ => false
      | _ => false

/-- A date, a time, or both with a letter or a space between them. -/
def isDatetime (cs : List Char) : Bool :=
  match fullDate? cs with
  | some [] => true
  | some (c :: rest) =>
    (c == 'T' || c == 't' || c == ' ') &&
      match fullTime? rest with
      | some rest => endsWithOffset rest
      | none => false
  | none => fullTime? cs == some []

/-- The value of a word without quotes. -/
def scalar? (cs : List Char) : Option Value :=
  if cs = "true".toList then some (.boolean true)
  else if cs = "false".toList then some (.boolean false)
  else if isDatetime cs then some (.datetime (String.ofList cs))
  else
    match integer? cs, float? cs with
    | some n, _ => some (.integer n)
    | none, some digits => some (.float digits)
    | none, none => none

end LogTriage.Toml
