import LogTriage.Toml.Scalar

/-!
# Reading TOML

A document is read line by line: a key with its value, or the header of a table.  A reader takes
the text at hand and gives what it has read and the text after it, or nothing when the text is
malformed.  Control characters other than the tab stand nowhere, a carriage return only before a
line feed, and values are nested less than eighty deep.
-/

namespace LogTriage.Toml
open Text

abbrev Reader := StateT (List Char) Option

namespace Reader

def malformed {α : Type} : Reader α := fun _ => none

def expect (ok : Bool) : Reader Unit := if ok then pure () else malformed

def peek : Reader (Option Char) := do return (← get).head?

def isAt (text : String) : Reader Bool := do return text.toList.isPrefixOf (← get)

def drop (n : Nat) : Reader Unit := modify (List.drop n)

/-- The longest run of characters that satisfy `p`. -/
def run (p : Char → Bool) : Reader (List Char) := do
  let cs := (← get).takeWhile p
  drop cs.length
  return cs

def isWhite (c : Char) : Bool := c == ' ' || c == '\t'

def skipWhite : Reader Unit := do let _ ← run isWhite

/-- Characters that may stand in a comment or between quotes. -/
def isPrintable (c : Char) : Bool := c == '\t' || (0x20 ≤ c.toNat && c.toNat ≠ 0x7F)

/-- What follows white space, line ends and comments; `comment` within a comment. -/
def afterGap (comment : Bool) : List Char → List Char
  | [] => []
  | c :: cs =>
    if comment && isPrintable c then afterGap true cs
    else if isWhite c || c == '\n' || (c == '\r' && cs.head? == some '\n') then afterGap false cs
    else if c == '#' then afterGap true cs
    else c :: cs

def skipGap : Reader Unit := modify (afterGap false)

/-- The end of a line: a comment perhaps, and then a line end or the end of the text. -/
def lineEnd : Reader Unit := do
  skipWhite
  if (← peek) = some '#' then
    let _ ← run isPrintable
  if (← peek).isNone then return
  if ← isAt "\r\n" then drop 2
  else
    expect ((← peek) = some '\n')
    drop 1

/-! ### Strings -/

/-- The character that an escape names, after its backslash, and the text after it. -/
def escaped? (cs : List Char) : Option (Char × List Char) :=
  let coded (n : Nat) (rest : List Char) : Option (Char × List Char) :=
    let digits := rest.take n
    let code := digitsValue 16 digits
    if digits.length = n ∧ digits.all (fun c => (digitValue? 16 c).isSome)
        ∧ code ≤ 0x10FFFF ∧ ¬ (0xD800 ≤ code ∧ code ≤ 0xDFFF) then
      some (Char.ofNat code, rest.drop n)
    else none
  match cs with
  | 'b' :: rest => some ('\x08', rest)
  | 't' :: rest => some ('\t', rest)
  | 'n' :: rest => some ('\n', rest)
  | 'f' :: rest => some ('\x0C', rest)
  | 'r' :: rest => some ('\r', rest)
  | '"' :: rest => some ('"', rest)
  | '\\' :: rest => some ('\\', rest)
  | 'u' :: rest => coded 4 rest
  | 'U' :: rest => coded 8 rest
  | _ => none

/-- The text up to the quote that ends a string of one line, its escapes as they are written, and
the text after the quote; `raw` is what has been passed, reversed.  Only between double quotes does
a backslash begin an escape. -/
def upToQuote? (quote : Char) (raw : List Char) : List Char → Option (List Char × List Char)
  | [] => none
  | c :: cs =>
    if c = quote then some (raw.reverse, cs)
    else if c = '\\' ∧ quote = '"' then
      match cs with
      | [] => none
      | d :: cs => upToQuote? quote (d :: c :: raw) cs
    else upToQuote? quote (c :: raw) cs

/-- The text up to the three quotes that end a string of several lines, and the text after them.
Up to two more quotes may stand right before the three. -/
def upToQuotes? (quote : Char) (raw : List Char) : List Char → Option (List Char × List Char)
  | [] => none
  | c :: cs =>
    if c = quote ∧ [quote, quote].isPrefixOf cs then
      let inner := Nat.min ((cs.drop 2).takeWhile (· == quote)).length 2
      some ((List.replicate inner quote ++ raw).reverse, cs.drop (inner + 2))
    else if c = '\\' ∧ quote = '"' then
      match cs with
      | [] => none
      | d :: cs => upToQuotes? quote (d :: c :: raw) cs
    else upToQuotes? quote (c :: raw) cs

/-- White space and line ends, as many as there are. -/
def afterBlank : List Char → List Char
  | ' ' :: rest | '\t' :: rest | '\n' :: rest | '\r' :: '\n' :: rest => afterBlank rest
  | cs => cs

/-- After a backslash: the text that follows when nothing but white space stands between the
backslash and the end of its line. -/
def foldedLine? (cs : List Char) : Option (List Char) :=
  match cs.dropWhile isWhite with
  | '\n' :: rest | '\r' :: '\n' :: rest => some (afterBlank rest)
  | _ => none

/-- What a string in quotes of the given kind says that is written as `cs`; only one of several
lines (`block`) holds line ends.  `acc` is what has been read, reversed. -/
def unescape? (quote : Char) (block : Bool) (acc : List Char) : Nat → List Char → Option String
  | _, [] => some (String.ofList acc.reverse)
  | 0, _ :: _ => none
  | fuel + 1, c :: cs =>
    if c = '\\' ∧ quote = '"' then
      match escaped? cs, foldedLine? cs with
      | some (c, cs), _ => unescape? quote block (c :: acc) fuel cs
      | none, some cs => if block then unescape? quote block acc fuel cs else none
      | none, none => none
    else if block ∧ c = '\r' ∧ cs.head? = some '\n' then unescape? quote block acc fuel cs
    else if (block ∧ c = '\n') ∨ isPrintable c then unescape? quote block (c :: acc) fuel cs
    else none

/-- What a string says whose written form and the text after it are known. -/
def quoted (quote : Char) (block : Bool) (written? : Option (List Char × List Char)) :
    Reader String := do
  match written? with
  | none => malformed
  | some (raw, rest) =>
    match unescape? quote block [] raw.length raw with
    | none => malformed
    | some text =>
      set rest
      return text

/-- A string in quotes of the given kind; a line end right after three quotes does not count. -/
def string (quote : Char) : Reader String := do
  let three := String.ofList [quote, quote, quote]
  if ← isAt three then
    drop 3
    if ← isAt "\r\n" then drop 2 else if ← isAt "\n" then drop 1
    quoted quote true (upToQuotes? quote [] (← get))
  else
    drop 1
    quoted quote false (upToQuote? quote [] (← get))

/-! ### Keys -/

def isBareKey (c : Char) : Bool := c.isAlphanum || c == '_' || c == '-'

def simpleKey : Reader String := do
  match ← peek with
  | some '"' | some '\'' =>
    let three ← isAt "\"\"\""
    let threeLiteral ← isAt "'''"
    expect (!three && !threeLiteral)
    string ((← peek).getD '"')
  | _ =>
    let cs ← run isBareKey
    expect (!cs.isEmpty)
    return String.ofList cs

/-- A key has fewer parts, and values are nested less deep. -/
def maxDepth : Nat := 80

/-- The parts of a key after its first one, last part first. -/
def keyParts : Nat → List String → Reader (List String)
  | 0, _ => malformed
  | fuel + 1, parts => do
    skipWhite
    if (← peek) = some '.' then
      drop 1
      skipWhite
      keyParts fuel ((← simpleKey) :: parts)
    else return parts

/-- A key, as the path before its last part and that part. -/
def key : Reader (List String × String) := do
  skipWhite
  let first ← simpleKey
  match ← keyParts (maxDepth - 1) [first] with
  | last :: path => return (path.reverse, last)
  | [] => malformed

/-! ### Values -/

def isWordChar (c : Char) : Bool :=
  c.isAlphanum || c == '_' || c == '+' || c == '-' || c == '.' || c == ':'

/-- A word without quotes; a date may be followed by a space and a time. -/
def scalar : Reader Value := do
  let word ← run isWordChar
  let dated := fullDate? word == some []
  let word ←
    match dated, ← get with
    | true, ' ' :: c :: _ =>
      if isDigit c then do
        drop 1
        pure (word ++ ' ' :: (← run isWordChar))
      else pure word
    | _, _ => pure word
  match scalar? word with
  | some v => return v
  | none => malformed

mutual

/-- A value that stands `depth` deep. -/
def value : Nat → Nat → Reader Value
  | 0, _ => malformed
  | fuel + 1, depth => do
    match ← peek with
    | some '"' => return .string (← string '"')
    | some '\'' => return .string (← string '\'')
    | some '[' =>
      expect (depth + 1 < maxDepth)
      drop 1
      elements fuel (depth + 1) []
    | some '\x7b' =>
      expect (depth + 1 < maxDepth)
      drop 1
      skipWhite
      if (← peek) = some '\x7d' then
        drop 1
        return .table .closed []
      pairs fuel (depth + 1) (.table .headed [])
    | _ => scalar

/-- The elements of an array up to its closing bracket; a comma may follow the last one. -/
def elements : Nat → Nat → List Value → Reader Value
  | 0, _, _ => malformed
  | fuel + 1, depth, items => do
    skipGap
    if (← peek) = some ']' then
      drop 1
      return .array items.reverse
    let item ← value fuel depth
    skipGap
    if (← peek) = some ',' then
      drop 1
      elements fuel depth (item :: items)
    else
      expect ((← peek) = some ']')
      drop 1
      return .array (item :: items).reverse

/-- The pairs of an inline table up to its closing brace; no comma follows the last one. -/
def pairs : Nat → Nat → Value → Reader Value
  | 0, _, _ => malformed
  | fuel + 1, depth, table => do
    let (path, last) ← key
    skipWhite
    expect ((← peek) = some '=')
    drop 1
    skipWhite
    let v ← value fuel depth
    skipWhite
    match table.change (addValue path last v) with
    | none => malformed
    | some table =>
      if (← peek) = some ',' then
        drop 1
        pairs fuel depth table
      else
        expect ((← peek) = some '\x7d')
        drop 1
        match table with
        | .table _ entries => return .table .closed entries
        | _ => malformed

end

/-! ### Documents -/

/-- The lines of a document, under the header that was read last. -/
def document : Nat → List String → Value → Reader Value
  | 0, _, _ => malformed
  | fuel + 1, header, root => do
    skipWhite
    let (header, changed) ←
      match ← peek with
      | none => return root
      | some '\n' | some '\r' | some '#' => pure (header, some root)
      | some '[' => do
        let element ← isAt "[["
        drop (if element then 2 else 1)
        let (path, last) ← key
        skipWhite
        expect (← isAt (if element then "]]" else "]"))
        drop (if element then 2 else 1)
        let change := if element then openElement path last else openTable path last
        pure (path ++ [last], root.change change)
      | some _ => do
        let (path, last) ← key
        skipWhite
        expect ((← peek) = some '=')
        drop 1
        skipWhite
        let v ← value fuel 0
        pure (header, root.change (addUnder header path last v))
    match changed with
    | none => malformed
    | some root => do
      lineEnd
      document fuel header root

end Reader

/-- The table that a document stands for; a byte-order mark may lead. -/
def parse? (text : String) : Option Value :=
  let cs := match text.toList with
    | '\uFEFF' :: cs => cs
    | cs => cs
  match Reader.document (cs.length + 1) [] (.table .headed []) cs with
  | some (root, _) => some root
  | none => none

end LogTriage.Toml
