import LogTriage.Regex.Expr
import LogTriage.Regex.Property
import LogTriage.Text.Alphabetic
import LogTriage.Text.Substring
import LogTriage.Text.Numeral

/-!
# Reading a pattern

A pattern is read from left to right with the flags in force at each place.  A directive such as
a lone flag group changes the flags to the end of the group it stands in; a group with flags of
its own changes them within.  Look-around and back-references do not exist, a group name is used
once, and what is read may be nested at most 250 deep.

A reader takes a cursor and gives what it has read and the cursor after it, or nothing when the
pattern is malformed.  Fuel bounds the recursion; each step that uses one unit of it moves the
cursor on, so that the length of the pattern suffices.
-/

namespace LogTriage.Regex
open Text

structure Flags where
  caseless : Bool := false
  multiLine : Bool := false
  dotAll : Bool := false
  swapGreed : Bool := false
  unicode : Bool := true
  /-- A carriage return ends a line too. -/
  returns : Bool := false
  /-- Blanks and comments between the parts of a pattern are skipped. -/
  verbose : Bool := false
deriving Inhabited

structure Cursor where
  rest : List Char
  flags : Flags := {}
  /-- Groups opened so far, the whole match counted as one. -/
  groups : Nat := 1
  /-- Names of groups, last one first. -/
  names : List (String × Nat) := []

abbrev Reader := StateT Cursor Option

/-- An expression and how deep it is nested; a directive has no expression. -/
structure Item where
  expr? : Option Expr
  depth : Nat := 0

namespace Reader

def malformed {α : Type} : Reader α := fun _ => none

def expect (ok : Bool) : Reader Unit := if ok then pure () else malformed

def peek : Reader (Option Char) := do return (← get).rest.head?

def isAt (text : String) : Reader Bool := do return text.toList.isPrefixOf (← get).rest

def drop (n : Nat) : Reader Unit := modify fun c => { c with rest := c.rest.drop n }

/-- What follows blanks and comments; a comment runs from a number sign to the end of the line. -/
def skipGo (comment : Bool) : List Char → List Char
  | [] => []
  | c :: cs =>
    if comment then skipGo (c ≠ '\n') cs
    else if isBlank c then skipGo false cs
    else if c = '#' then skipGo true cs
    else c :: cs

def afterSpace (c : Cursor) (cs : List Char) : List Char :=
  if c.flags.verbose then skipGo false cs else cs

def skipSpace : Reader Unit := modify fun c => { c with rest := afterSpace c c.rest }

/-- Past one character and the space after it. -/
def advance : Reader Unit := modify fun c => { c with rest := afterSpace c (c.rest.drop 1) }

/-- The first character that is no blank, one number sign not counted. -/
def glimpse (signs : Nat) : List Char → Option Char
  | [] => none
  | c :: cs =>
    if isBlank c then glimpse signs cs
    else if c = '#' ∧ signs = 0 then glimpse 1 cs
    else some c

/-- A look at what follows the character at the cursor.  It enters a comment without passing it:
the first character of the comment is what it sees.  With blanks alone ahead it sees the next. -/
def peekSpaced : Reader (Option Char) := do
  let c ← get
  let ahead := c.rest.drop 1
  return if c.flags.verbose then glimpse 0 ahead <|> ahead.head? else ahead.head?

/-- The character at the cursor, which must not be the end. -/
def this : Reader Char := do
  match ← peek with
  | some c => return c
  | none => malformed

/-! ### Numbers -/

def skipBlanks : Reader Unit := modify fun c => { c with rest := c.rest.dropWhile isBlank }

/-- The characters that satisfy `p`, with space between them skipped. -/
def spacedWhile (p : Char → Bool) : Nat → List Char → Reader (List Char)
  | 0, acc => return acc.reverse
  | fuel + 1, acc => do
    match ← peek with
    | some c => if p c then do advance; spacedWhile p fuel (c :: acc) else return acc.reverse
    | none => return acc.reverse

def spaced (p : Char → Bool) : Reader (List Char) := do
  spacedWhile p (← get).rest.length []

/-- A decimal number below `2 ^ 32`, if there is one; blanks around it are skipped. -/
def decimal? : Reader (Option Nat) := do
  skipBlanks
  let digits ← spaced isDigit
  skipBlanks
  skipSpace
  if digits.isEmpty then return none
  let n := digitsValue 10 digits
  expect (n < 4294967296)
  return some n

def isHex (c : Char) : Bool := (digitValue? 16 c).isSome

/-- The character with the code point that hexadecimal digits name. -/
def codePoint (digits : List Char) : Reader Char := do
  let n := digitsValue 16 digits
  expect (!digits.isEmpty && n ≤ CharSet.maxCode && !(0xD800 ≤ n && n ≤ 0xDFFF))
  return Char.ofNat n

/-- Exactly `n` hexadecimal digits. -/
def hexDigits : Nat → List Char → Reader (List Char)
  | 0, acc => return acc.reverse
  | n + 1, acc => do
    let c ← this
    expect (isHex c)
    advance
    hexDigits n (c :: acc)

/-- A code point after `\x`, `\u` or `\U`: as many digits as the letter says, or any number of
them in braces. -/
def hex (digits : Nat) : Reader Char := do
  if (← this) = '\x7b' then
    advance
    let ds ← spaced isHex
    expect ((← this) = '\x7d')
    advance
    codePoint ds
  else
    codePoint (← hexDigits digits [])

/-! ### Escapes -/

inductive Atom where
  | char (c : Char)
  /-- A character that is given as the number of a byte. -/
  | byte (c : Char)
  | set (s : CharSet)
  | look (l : Look)

def Atom.char? : Atom → Option Char
  | char c | byte c => some c
  | set _ | look _ => none

/-- Outside Unicode mode only ASCII can be matched. -/
def admitted (s : CharSet) : Reader CharSet := do
  expect ((← get).flags.unicode || s.isAscii)
  return s

/-- Sets that a letter names, a capital one for the complement. -/
def letterSet? (unicode : Bool) (c : Char) : Option CharSet :=
  let pick (wide : CharSet) (ascii : String) : CharSet :=
    if unicode then wide else (CharSet.named? ascii).getD .empty
  match c with
  | 'd' => some (pick .digit "digit")
  | 's' => some (pick .space "space")
  | 'w' => some (pick .word "word")
  | 'D' => some (pick .digit "digit").complement
  | 'S' => some (pick .space "space").complement
  | 'W' => some (pick .word "word").complement
  | _ => none

def controlChar? : Char → Option Char
  | 'a' => some '\x07'
  | 'f' => some '\x0C'
  | 't' => some '\t'
  | 'n' => some '\n'
  | 'r' => some '\r'
  | 'v' => some '\x0B'
  | _ => none

/-- Characters that stand for themselves after a backslash. -/
def isEscapable (c : Char) : Bool :=
  c.toNat < 0x80 && !c.isAlphanum && c != '<' && c != '>'

def wordLook? : String → Option Look
  | "start" => some .wordStart
  | "end" => some .wordEnd
  | "start-half" => some .wordStartHalf
  | "end-half" => some .wordEndHalf
  | _ => none

/-- After `\b`: a name in braces narrows the assertion; braces that hold no name are left for a
repetition. -/
def wordEdge : Reader Look := do
  if !(← isAt "\x7b") then return .wordEdge
  let before ← get
  advance
  let isNameChar (c : Char) : Bool := c.isAlpha || c == '-'
  if !isNameChar (← this) then
    set before
    return .wordEdge
  let name ← spaced isNameChar
  expect ((← this) = '\x7d')
  drop 1
  match wordLook? (String.ofList name) with
  | some l => return l
  | none => malformed

/-- With each character, under the flag, all that differ from it in case only. -/
def folded (s : CharSet) : Reader CharSet := do
  let flags := (← get).flags
  return if !flags.caseless then s else if flags.unicode then s.fold else s.foldAscii

/-- The name of a property: one character, or any number of them in braces. -/
def propertyName : Reader (List Char) := do
  advance
  if !(← isAt "\x7b") then
    let c ← this
    expect (c ≠ '\\')
    drop 1
    return [c]
  advance
  let name ← spaced (· ≠ '\x7d')
  expect ((← this) = '\x7d')
  drop 1
  return name

/-- The text before the first `sep` and the text after it. -/
def parted? (sep name : List Char) : Option (List Char × List Char) :=
  (Text.after? sep name).map fun value =>
    (name.take (name.length - sep.length - value.length), value)

/-- The set that the name of a property stands for, and whether the name itself asks for the
other characters: a name may consist of the kind of a property and its value, with an equals sign,
a colon or the sign of inequality between them. -/
def propertySet? (name : List Char) : Option (CharSet × Bool) :=
  match parted? ['!', '='] name, parted? [':'] name <|> parted? ['='] name with
  | some (kind, value), _ => (CharSet.ofPair? kind value).map (·, true)
  | none, some (kind, value) => (CharSet.ofPair? kind value).map (·, false)
  | none, none => (CharSet.ofName? name).map (·, false)

/-- After `\p` or `\P`: the characters with a property, or all others. -/
def propertySet (others : Bool) : Reader CharSet := do
  match propertySet? (← propertyName) with
  | none => malformed
  | some (s, unequal) =>
    expect ((← get).flags.unicode)
    let s ← folded s
    return if others != unequal then s.negated else s

/-- What a backslash and the characters after it stand for. -/
def escape : Reader Atom := do
  drop 1
  let c ← this
  if c = 'x' then
    advance
    let braced ← isAt "\x7b"
    let c ← hex 2
    return if braced then .char c else .byte c
  if c = 'u' || c = 'U' then
    advance
    return .char (← hex (if c = 'u' then 4 else 8))
  if c = 'p' || c = 'P' then return .set (← propertySet (c = 'P'))
  drop 1
  if isEscapable c then return .char c
  match letterSet? (← get).flags.unicode c, controlChar? c with
  | some s, _ => return .set s
  | none, some c => return .char c
  | none, none =>
    match c with
    | 'A' => return .look .textStart
    | 'z' => return .look .textEnd
    | 'b' => return .look (← wordEdge)
    | 'B' => return .look .notWordEdge
    | '<' => return .look .wordStart
    | '>' => return .look .wordEnd
    | _ => malformed

/-! ### Bracketed sets -/

/-- A character or an escape within brackets. -/
def setAtom : Reader Atom := do
  let c ← this
  if c = '\\' then escape
  else
    drop 1
    return .char c

/-- One member of a bracketed set, or a range of members. -/
def setMember : Reader CharSet := do
  let first ← setAtom
  skipSpace
  let c ← this
  let next ← peekSpaced
  if c ≠ '-' || next = some ']' || next = some '-' then
    match first with
    | .char c | .byte c => admitted (.singleton c)
    | .set s => admitted s
    | .look _ => malformed
  else
    advance
    match first.char?, (← setAtom).char? with
    | some a, some b =>
      expect (a ≤ b)
      admitted ⟨#[(a.toNat, b.toNat)]⟩
    | _, _ => malformed

/-- A class such as `[:alpha:]` at the start of `cs`: its characters, whether it stands for the
others, and the length of its text. -/
def namedClass? (cs : List Char) : Option (CharSet × Bool × Nat) :=
  match cs with
  | '[' :: ':' :: rest =>
    let negated := rest.head? = some '^'
    let rest := if negated then rest.drop 1 else rest
    let name := rest.takeWhile (· ≠ ':')
    if [':', ']'].isPrefixOf (rest.drop name.length) then
      (CharSet.named? (String.ofList name)).map fun s =>
        (s, negated, name.length + (if negated then 1 else 0) + 4)
    else none
  | _ => none

inductive SetOp where
  | inter
  | diff
  | symmDiff

def SetOp.apply : SetOp → CharSet → CharSet → CharSet
  | inter => CharSet.inter
  | diff => CharSet.diff
  | symmDiff => CharSet.symmDiff

/-- The members collected between two operators. -/
structure Members where
  runs : List (Nat × Nat) := []
  count : Nat := 0
  depth : Nat := 0

def Members.add (m : Members) (s : CharSet) (depth : Nat) : Members :=
  { runs := s.runs.toList ++ m.runs, count := m.count + 1, depth := max m.depth depth }

/-- The members joined to what stands left of them. -/
def joined (left : Option (SetOp × CharSet × Nat)) (m : Members) : Reader (CharSet × Nat) := do
  let s := CharSet.ofRuns m.runs
  let depth := if m.count < 2 then m.depth else m.depth + 1
  match left with
  | none => return (s, depth)
  | some (op, l, leftDepth) =>
    return (op.apply (← folded l) (← folded s), max leftDepth depth + 1)

/-- Dashes that open a set stand for themselves. -/
def leadingDashes : Nat → Members → Reader Members
  | 0, m => return m
  | fuel + 1, m => do
    if (← this) = '-' then
      advance
      leadingDashes fuel (m.add (.singleton '-') 0)
    else return m

/-- The opening of a bracketed set: whether it is negated, and its first members. -/
def setOpening : Reader (Bool × Members) := do
  advance
  let negated := (← this) = '^'
  if negated then advance
  let m ← leadingDashes (← get).rest.length {}
  if m.count = 0 && (← this) = ']' then
    advance
    expect ((← peek).isSome)
    return (negated, m.add (.singleton ']') 0)
  return (negated, m)

/-- The rest of a bracketed set; `left` is what stands left of the last operator. -/
def setBody : Nat → Bool → Option (SetOp × CharSet × Nat) → Members → Reader (CharSet × Nat)
  | 0, _, _, _ => malformed
  | fuel + 1, negated, left, m => do
    skipSpace
    let c ← this
    let operator (op : SetOp) : Reader (CharSet × Nat) := do
      drop 2
      let (s, depth) ← joined left m
      setBody fuel negated (some (op, s, depth)) {}
    if c = '[' then
      match namedClass? (← get).rest with
      | some (s, others, length) =>
        drop length
        let s ← folded s
        let s ← admitted (if others then s.negated else s)
        setBody fuel negated left (m.add s 0)
      | none =>
        let (inner, opening) ← setOpening
        let (s, depth) ← setBody fuel inner none opening
        setBody fuel negated left (m.add s depth)
    else if c = ']' then
      drop 1
      let (s, depth) ← joined left m
      let s ← folded s
      return (← admitted (if negated then s.negated else s), depth + 1)
    else if ← isAt "&&" then operator .inter
    else if ← isAt "--" then operator .diff
    else if ← isAt "~~" then operator .symmDiff
    else setBody fuel negated left (m.add (← setMember) 0)

/-- A bracketed set at the cursor. -/
def bracketed : Reader Item := do
  let fuel := (← get).rest.length
  let (negated, m) ← setOpening
  let (s, depth) ← setBody fuel negated none m
  return { expr? := some (.set s), depth }

/-! ### Groups and flags -/

/-- Sets the flag that a letter names. -/
def Flags.put (f : Flags) (on : Bool) : Char → Option Flags
  | 'i' => some { f with caseless := on }
  | 'm' => some { f with multiLine := on }
  | 's' => some { f with dotAll := on }
  | 'U' => some { f with swapGreed := on }
  | 'u' => some { f with unicode := on }
  | 'R' => some { f with returns := on }
  | 'x' => some { f with verbose := on }
  | _ => none

/-- The flags after a list of letters; a dash, at most one and not the last, takes the letters
after it away, and no letter comes twice. -/
def flagLetters (f : Flags) (on : Bool) (seen : List Char) : List Char → Option Flags
  | [] => some f
  | '-' :: cs => if on && !cs.isEmpty then flagLetters f false seen cs else none
  | c :: cs =>
    if seen.contains c then none
    else
      match Flags.put f on c with
      | some f => flagLetters f on (c :: seen) cs
      | none => none

def isNameStart (c : Char) : Bool := c == '_' || isAlphabetic c

def isNameChar (c : Char) : Bool :=
  isNameStart c || isNumeric c || c == '.' || c == '[' || c == ']'

/-- The name of a group, up to the closing bracket, which is passed. -/
def groupName : Reader String := do
  let name := (← get).rest.takeWhile (· ≠ '>')
  drop name.length
  expect ((← this) = '>')
  drop 1
  match name with
  | [] => malformed
  | c :: cs =>
    expect (isNameStart c && cs.all isNameChar)
    return String.ofList name

inductive Opening where
  | directive (flags : Flags)
  | plain (flags : Flags)
  | capture (index : Nat)

def newGroup (name : Option String) : Reader Opening := do
  let c ← get
  let names := match name with
    | some name => (name, c.groups) :: c.names
    | none => c.names
  set { c with groups := c.groups + 1, names }
  return .capture c.groups

/-- What an opening parenthesis opens. -/
def opening : Reader Opening := do
  drop 1
  skipSpace
  if (← isAt "?=") || (← isAt "?!") || (← isAt "?<=") || (← isAt "?<!") then malformed
  let long ← isAt "?P<"
  if long || (← isAt "?<") then
    drop (if long then 3 else 2)
    let name ← groupName
    expect (!(← get).names.any (·.1 == name))
    newGroup (some name)
  else if ← isAt "?" then
    drop 1
    let letters := (← get).rest.takeWhile fun c => c ≠ ':' && c ≠ ')'
    drop letters.length
    let stop ← this
    drop 1
    match flagLetters (← get).flags true [] letters with
    | none => malformed
    | some flags =>
      if stop = ')' then
        expect (!letters.isEmpty)
        return .directive flags
      else return .plain flags
  else newGroup none

/-! ### Sequences -/

/-- The expression of a character or an escape, under the flags in force. -/
def atomExpr (a : Atom) : Reader Expr := do
  match a with
  | .char c => return .set (← folded (.singleton c))
  | .byte c =>
    expect ((← get).flags.unicode || c.toNat < 0x80)
    return .set (← folded (.singleton c))
  | .set s => return .set (← admitted s)
  | .look l =>
    let word := if (← get).flags.unicode then CharSet.word
      else (CharSet.named? "word").getD .empty
    return .look l word

def newline : CharSet := .singleton '\n'

/-- Everything but the characters that end a line. -/
def dot (flags : Flags) : CharSet :=
  if flags.dotAll then .any
  else if flags.returns then (newline.union (.singleton '\r')).complement
  else newline.complement

/-- The assertion that a caret or a dollar sign makes. -/
def anchor (flags : Flags) (start : Bool) : Look :=
  match flags.multiLine, flags.returns, start with
  | false, _, true => .textStart
  | false, _, false => .textEnd
  | true, false, true => .lineStart
  | true, false, false => .lineEnd
  | true, true, true => .lineStartReturn
  | true, true, false => .lineEndReturn

/-- A single character, an escape, a dot or an anchor. -/
def primitive : Reader Item := do
  let flags := (← get).flags
  let c ← this
  let expr ←
    if c = '\\' then do atomExpr (← escape)
    else do
      drop 1
      if c = '.' then do pure (Expr.set (← admitted (dot flags)))
      else if c = '^' then atomExpr (.look (anchor flags true))
      else if c = '$' then atomExpr (.look (anchor flags false))
      else atomExpr (.char c)
  return { expr? := some expr }

/-- The bounds in braces: a number, a number and a comma, or two numbers. -/
def bounds : Reader (Nat × Option Nat) := do
  advance
  expect ((← peek).isSome)
  let low ← decimal?
  if (← this) = ',' then
    advance
    if (← this) = '\x7d' then
      match low with
      | some n => return (n, none)
      | none => malformed
    else
      match low, ← decimal? with
      | some n, some m =>
        expect (n ≤ m)
        return (n, some m)
      | _, _ => malformed
  else
    match low with
    | some n => return (n, some n)
    | none => malformed

/-- Repeats the last item as an operator at the cursor says. -/
def repetition (op : Char) (item : Item) : Reader Item := do
  let (min, max) ←
    match op with
    | '?' => pure (0, some 1)
    | '*' => pure (0, none)
    | '+' => pure (1, none)
    | _ => bounds
  if op = '\x7b' then
    expect ((← this) = '\x7d')
    advance
  else drop 1
  let lazy ← isAt "?"
  if lazy then drop 1
  match item.expr? with
  | none => malformed
  | some e =>
    let greedy := lazy == (← get).flags.swapGreed
    return { expr? := some (.repeated min max greedy e), depth := item.depth + 1 }

/-- The items of one branch, last one first, as one item. -/
def branch (items : List Item) : Item :=
  let depth := items.foldl (fun d i => max d i.depth) 0
  { expr? := some (.seqOf (items.filterMap (·.expr?)).reverse)
    depth := if items.length < 2 then depth else depth + 1 }

/-- All branches, last one first, as one item. -/
def choice (branches : List Item) : Item :=
  let depth := branches.foldl (fun d i => max d i.depth) 0
  { expr? := some (.altOf (branches.filterMap (·.expr?)).reverse)
    depth := if branches.length < 2 then depth else depth + 1 }

/-- A pattern up to its end or to the parenthesis that closes it. -/
def body : Nat → List Item → List Item → Reader Item
  | 0, _, _ => malformed
  | fuel + 1, branches, items => do
    skipSpace
    match ← peek with
    | none => return choice (branch items :: branches)
    | some ')' => return choice (branch items :: branches)
    | some '|' =>
      drop 1
      body fuel (branch items :: branches) []
    | some '[' => body fuel branches ((← bracketed) :: items)
    | some '(' =>
      let outer := (← get).flags
      let inside (flags : Flags) : Reader Item := do
        modify fun c => { c with flags }
        let item ← body fuel [] []
        expect ((← peek) = some ')')
        drop 1
        modify fun c => { c with flags := outer }
        return item
      match ← opening with
      | .directive flags =>
        modify fun c => { c with flags }
        body fuel branches ({ expr? := none } :: items)
      | .plain flags =>
        let item ← inside flags
        body fuel branches ({ item with depth := item.depth + 1 } :: items)
      | .capture index =>
        let item ← inside outer
        body fuel branches
          ({ expr? := item.expr?.map (.group index), depth := item.depth + 1 } :: items)
    | some c =>
      if c = '?' || c = '*' || c = '+' || c = '\x7b' then
        match items with
        | [] => malformed
        | item :: items => body fuel branches ((← repetition c item) :: items)
      else body fuel branches ((← primitive) :: items)

end Reader

def maxNesting : Nat := 250

/-- The expression that a pattern stands for, with the names of its groups in their order. -/
def parse? (pattern : String) : Option (Expr × List (String × Nat)) :=
  let cs := pattern.toList
  match (Reader.body (cs.length + 1) [] []).run { rest := cs } with
  | some (item, cursor) =>
    match item.expr? with
    | some e =>
      if cursor.rest.isEmpty && item.depth ≤ maxNesting then
        let groups := e.groups
        some (e, cursor.names.reverse.filter fun (_, i) => groups.contains i)
      else none
    | none => none
  | none => none

end LogTriage.Regex
