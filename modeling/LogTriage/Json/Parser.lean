import LogTriage.Json.Value
import LogTriage.Text.Numeral

/-!
# Reading JSON

A reader takes the text at hand and gives what it has read and the text after it, or nothing when
the text is malformed.  White space is the space, the tab, the line feed and the carriage return;
numbers have no leading zeros; strings hold no control characters.
-/

namespace LogTriage.Json
open Text

abbrev Reader := StateT (List Char) Option

namespace Reader

def malformed {α : Type} : Reader α := fun _ => none

def isWhite (c : Char) : Bool := c == ' ' || c == '\t' || c == '\n' || c == '\r'

def skipWhite : Reader Unit := modify (List.dropWhile isWhite)

def peek : Reader (Option Char) := do return (← get).head?

def drop (n : Nat) : Reader Unit := modify (List.drop n)

def expect (text : String) : Reader Unit := do
  if text.toList.isPrefixOf (← get) then drop text.length else malformed

def run (p : Char → Bool) : Reader (List Char) := do
  let cs := (← get).takeWhile p
  drop cs.length
  return cs

/-! ### Numbers -/

def digits : Reader (List Char) := do
  let ds ← run isDigit
  if ds.isEmpty then malformed else return ds

/-- The character at hand, if it satisfies `p`. -/
def optional (p : Char → Bool) : Reader (List Char) := do
  match ← peek with
  | some c => if p c then do drop 1; return [c] else return []
  | none => return []

def number : Reader Value := do
  let minus ← optional (· == '-')
  let whole ← digits
  if whole.head? = some '0' && whole.length ≠ 1 then malformed
  let point ← optional (· == '.')
  let fraction ← if point.isEmpty then pure [] else digits
  let mark ← optional fun c => c == 'e' || c == 'E'
  let sign ← if mark.isEmpty then pure [] else optional fun c => c == '+' || c == '-'
  let power ← if mark.isEmpty then pure [] else digits
  return .number (String.ofList (minus ++ whole ++ point ++ fraction ++ mark ++ sign ++ power))

/-! ### Strings -/

def isLead (n : Nat) : Bool := 0xD800 ≤ n && n ≤ 0xDBFF

def isTrail (n : Nat) : Bool := 0xDC00 ≤ n && n ≤ 0xDFFF

/-- The unit that four hexadecimal digits name, and the text after them. -/
def unit? (cs : List Char) : Option (Nat × List Char) :=
  let ds := cs.take 4
  if ds.length = 4 ∧ ds.all (fun c => (digitValue? 16 c).isSome) then
    some (digitsValue 16 ds, cs.drop 4)
  else none

/-- The character of a unit, or of a pair of units, and the text after it; half of a pair has no
character. -/
def coded? (cs : List Char) : Option (Option Char × List Char) := do
  let (n, rest) ← unit? cs
  if isLead n then
    match rest with
    | '\\' :: 'u' :: tail =>
      let (m, tail) ← unit? tail
      if isTrail m then
        some (some (Char.ofNat (0x10000 + (n - 0xD800) * 0x400 + (m - 0xDC00))), tail)
      else some (none, rest)
    | _ => some (none, rest)
  else if isTrail n then some (none, rest)
  else some (some (Char.ofNat n), rest)

/-- The character that an escape names, after its backslash, and the text after it. -/
def escaped? (cs : List Char) : Option (Option Char × List Char) :=
  match cs with
  | '"' :: rest => some (some '"', rest)
  | '\\' :: rest => some (some '\\', rest)
  | '/' :: rest => some (some '/', rest)
  | 'b' :: rest => some (some '\x08', rest)
  | 'f' :: rest => some (some '\x0C', rest)
  | 'n' :: rest => some (some '\n', rest)
  | 'r' :: rest => some (some '\r', rest)
  | 't' :: rest => some (some '\t', rest)
  | 'u' :: rest => coded? rest
  | _ => none

/-- The text up to the quote that ends a string, its escapes as they are written, and the text
after the quote; `raw` is what has been passed, reversed. -/
def upToQuote? (raw : List Char) : List Char → Option (List Char × List Char)
  | [] => none
  | '\\' :: c :: cs => upToQuote? (c :: '\\' :: raw) cs
  | c :: cs => if c = '"' then some (raw.reverse, cs) else upToQuote? (c :: raw) cs

/-- What a string says that is written as `cs`; `acc` is what has been read, reversed, unless it is
no text. -/
def unescape? (acc : Option (List Char)) : Nat → List Char → Option (Option String)
  | _, [] => some (acc.map fun acc => String.ofList acc.reverse)
  | 0, _ :: _ => none
  | fuel + 1, c :: cs =>
    if c = '\\' then
      match escaped? cs with
      | some (c, cs) => unescape? (acc.bind fun acc => c.map (· :: acc)) fuel cs
      | none => none
    else if c.toNat < 0x20 then none
    else unescape? (acc.map (c :: ·)) fuel cs

def string : Reader (Option String) := do
  expect "\""
  match upToQuote? [] (← get) with
  | none => malformed
  | some (raw, rest) =>
    match unescape? (some []) raw.length raw with
    | none => malformed
    | some text =>
      set rest
      return text

/-! ### Values -/

mutual

def value : Nat → Reader Value
  | 0 => malformed
  | fuel + 1 => do
    skipWhite
    match ← peek with
    | some 'n' => do expect "null"; return .null
    | some 't' => do expect "true"; return .boolean true
    | some 'f' => do expect "false"; return .boolean false
    | some '"' => return .string (← string)
    | some '[' =>
      drop 1
      skipWhite
      if (← peek) = some ']' then
        drop 1
        return .array []
      elements fuel []
    | some '\x7b' =>
      drop 1
      skipWhite
      if (← peek) = some '\x7d' then
        drop 1
        return .object []
      members fuel []
    | _ => number

/-- The elements of an array, up to its closing bracket. -/
def elements : Nat → List Value → Reader Value
  | 0, _ => malformed
  | fuel + 1, items => do
    let item ← value fuel
    skipWhite
    if (← peek) = some ',' then
      drop 1
      elements fuel (item :: items)
    else
      expect "]"
      return .array (item :: items).reverse

/-- The members of an object, up to its closing brace. -/
def members : Nat → List (Option String × Value) → Reader Value
  | 0, _ => malformed
  | fuel + 1, entries => do
    skipWhite
    let name ← string
    skipWhite
    expect ":"
    let v ← value fuel
    skipWhite
    if (← peek) = some ',' then
      drop 1
      members fuel ((name, v) :: entries)
    else
      expect "\x7d"
      return .object ((name, v) :: entries).reverse

end

end Reader

/-- The value that a text stands for, white space around it aside. -/
def parse? (text : String) : Option Value :=
  let cs := text.toList
  match Reader.value (cs.length + 1) cs with
  | some (v, rest) => if rest.all Reader.isWhite then some v else none
  | none => none

end LogTriage.Json
