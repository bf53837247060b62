import Std.Data.HashMap
import LogTriage.Regex.Expr
import LogTriage.Text.ByteRanges

/-!
# The size of a compiled pattern

A pattern is refused when its automaton over the bytes of UTF-8 would be too large: the one that
reads a text from its start, or the one that reads it from its end.  The size is that of the states
and of what leaves them.  A set of characters beyond ASCII becomes an automaton that shares the
ends of its byte sequences, or from the end their starts, as far as a table of bounded size
remembers the states made last; a repetition is a copy of its body for each round that its bounds
tell apart.

Nothing is built but the tally of the states, and the tally stops at the limit, so that a pattern
with a million rounds is refused at once.
-/

namespace LogTriage.Regex
open Text

/-- What an automaton is made of, as far as it is known before its states have numbers. -/
inductive Shape where
  /-- So many states, with so many bytes for what leaves them. -/
  | fixed (states memory : Nat)
  /-- The byte sequences of a set, read from their starts. -/
  | forward (ways : ByteTree)
  /-- The byte sequences of a set, read from their ends. -/
  | backward (seqs : List (List ByteRange))
  | group (s : Shape)
  /-- One after the other, in the order of reading. -/
  | seq (a b : Shape)
  | choice (first second : Shape)
  /-- One more alternative for a choice. -/
  | another (choice s : Shape)
  /-- Rounds; `advances` when each is known to take a character. -/
  | rep (min : Nat) (max : Option Nat) (advances : Bool) (s : Shape)
deriving Inhabited

namespace Shape

/-- Bytes of a state, of a transition of a state with several, and of a branch of a choice. -/
def stateSize : Nat := 32
def transitionSize : Nat := 8
def branchSize : Nat := 4

/-- Bytes of an automaton. -/
def limit : Nat := 10485760

/-! ### Alternatives that are texts -/

/-- Cuts a list at the texts that are empty. -/
def chunks : List (List Nat) → List (List (List Nat))
  | [] => [[]]
  | text :: texts =>
    match text, chunks texts with
    | [], cut => [] :: cut
    | text, chunk :: cut => (text :: chunk) :: cut
    | text, [] => [[text]]

/-- The texts without their first byte, by this byte. -/
def byFirst (texts : List (List Nat)) : List (List (List Nat)) :=
  (texts.filterMap List.head?).eraseDups.map fun b =>
    (texts.filter fun text => text.head? == some b).map List.tail

/-- States and memory of the tree of some texts, below a node that all of them pass, in order.  A
node is a choice between chunks, and where a text ends between two chunks, there is a branch to the
end; texts that end before any other goes on end once. -/
def treeCost : Nat → List (List Nat) → Nat × Nat
  | 0, _ => (0, 0)
  | depth + 1, texts =>
    if texts.all List.isEmpty then (0, 0)
    else
      let ends := texts.takeWhile List.isEmpty
      let cut := chunks (ends.take 1 ++ texts.drop ends.length)
      let ways := (cut.map byFirst).filter (!·.isEmpty)
      let below := (ways.flatten).map (treeCost depth)
      let wide := ways.map fun out => if out.length = 1 then 0 else transitionSize * out.length
      (below.foldl (fun n c => n + c.1) (1 + ways.length),
        below.foldl (fun n c => n + c.2)
          (wide.foldl (· + ·) (branchSize * (ways.length + cut.length - 1))))

/-- The tree of texts; all of them end in one state. -/
def ofTexts (texts : List (List Nat)) : Shape :=
  let depth := texts.foldl (fun n text => max n text.length) 0
  let (states, memory) := treeCost (depth + 1) texts
  fixed (states + 1) memory

/-! ### The shape of an expression -/

def ofSet (reverse : Bool) (s : CharSet) : Shape :=
  match s.only? with
  | some c => fixed (utf8Bytes c.toNat).length 0
  | none =>
    if s.isAscii then fixed 2 (transitionSize * s.runs.size)
    else
      let seqs := s.runs.toList.flatMap runByteRanges
      if reverse then backward seqs else forward (.ofSequences seqs)

/-- The bytes of an expression that is a text. -/
def textBytes? (e : Expr) : Option (List Nat) := do
  let cs ← e.parts.mapM Expr.char?
  guard (!cs.isEmpty)
  return cs.flatMap fun c => utf8Bytes c.toNat

/-- The texts that are the alternatives of a choice, if all of them are. -/
def texts? (reverse : Bool) (es : List Expr) : Option (List (List Nat)) :=
  es.mapM fun e => (textBytes? e).map fun bytes => if reverse then bytes.reverse else bytes

/-- The shape of an expression from the shapes of its alternatives. -/
def whole (reverse : Bool) (e : Expr) : List Shape → Shape
  | [] => fixed 1 0
  | [s] => s
  | first :: second :: more =>
    match texts? reverse e.branches with
    | some texts => ofTexts texts
    | none => more.foldl another (choice first second)

/-- The shapes of the alternatives of an expression.  Seen from the end, nothing is recorded and
all comes in reverse order. -/
def ofBranches (reverse : Bool) : Expr → List Shape
  | .empty => [fixed 1 0]
  | .set s => [ofSet reverse s]
  | .look .. => [fixed 1 0]
  | .group _ e =>
    let s := whole reverse e (ofBranches reverse e)
    [if reverse then s else group s]
  | .seq a b =>
    let first := whole reverse a (ofBranches reverse a)
    let second := whole reverse b (ofBranches reverse b)
    [if reverse then seq second first else seq first second]
  | .alt a b => ofBranches reverse a ++ ofBranches reverse b
  | .rep min max _ e =>
    [rep min max (!e.canBeEmpty && !e.hasVoid) (whole reverse e (ofBranches reverse e))]

def ofExpr (reverse : Bool) (e : Expr) : Shape := whole reverse e (ofBranches reverse e)

/-! ### The tally -/

structure Tally where
  states : Nat := 0
  memory : Nat := 0

/-- Counts as long as the limit is kept. -/
abbrev Count := StateT Tally Option

def charge (states memory : Nat) : Count Unit := fun t =>
  let t := { states := t.states + states, memory := t.memory + memory }
  if limit < stateSize * t.states + t.memory then none else some ((), t)

/-- Goes on from a part; from a choice, as one more branch of it. -/
def goOn (fromChoice : Bool) : Count Unit := charge 0 (if fromChoice then branchSize else 0)

/-- A state is remembered in the slot that its key falls on, until another one falls on it. -/
abbrev Memory := Std.HashMap UInt64 (List Nat × Nat)

/-- The scattering of keys over slots. -/
def scattered (key : List Nat) : UInt64 :=
  key.foldl (fun h n => (h ^^^ n.toUInt64) * 1099511628211) 14695981039346656037

/-- The number of the state with a key: the remembered one, or a new one. -/
def remembered (slots : UInt64) (key : List Nat) (memory : Nat) : StateT Memory Count Nat := do
  let slot := scattered key % slots
  match (← get).get? slot with
  | some (key', state) => if key' = key then return state
  | none => pure ()
  charge 1 memory
  let state := (← getThe Tally).states - 1
  modify fun m => m.insert slot (key, state)
  return state

/-- A node of a tree by its ways: for each the bytes of its range and the state it leads to. -/
def nodeKey (stop : Nat) : ByteTree → StateT Memory Count (List Nat)
  | .stop => return []
  | .way (first, last) next others => do
    let target ←
      if next.isStop then pure stop
      else do
        let key ← nodeKey stop next
        remembered 10000 key (transitionSize * (key.length / 3))
    return first :: last :: target :: (← nodeKey stop others)

def countForward (ways : ByteTree) : Count Unit := do
  let stop := (← get).states
  charge 1 0
  let root : StateT Memory Count Nat := do
    let key ← nodeKey stop ways
    remembered 10000 key (transitionSize * (key.length / 3))
  let _ ← root.run ∅

/-- A choice between the sequences, each of which begins at its last range. -/
def countBackward (seqs : List (List ByteRange)) : Count Unit := do
  charge 2 0
  let stop := (← get).states - 1
  let all : StateT Memory Count Unit := seqs.forM fun seq => do
    let _ ← seq.foldlM (fun next (first, last) => remembered 1000 [next, first, last] 0) stop
    charge 0 branchSize
  let _ ← all.run ∅

/-- Counts `n` more rounds after a part. -/
def rounds (round : Count Bool) : Nat → Bool → Count Bool
  | 0, fromChoice => return fromChoice
  | n + 1, fromChoice => do
    let fromChoice' ← round
    goOn fromChoice
    rounds round n fromChoice'

def exactly (round : Count Bool) : Nat → Count Bool
  | 0 => do
    charge 1 0
    return false
  | n + 1 => do rounds round n (← round)

/-- Up to `n` rounds more, before each of which there is a choice to end. -/
def further (round : Count Bool) : Nat → Bool → Count Bool
  | 0, fromChoice => return fromChoice
  | n + 1, fromChoice => do
    charge 1 (2 * branchSize)
    let fromChoice' ← round
    goOn fromChoice
    further round n fromChoice'

/-- A repetition.  Rounds without end are a round that leads to the choice of one more; where a
round may be empty, they can be left out by a choice of its own. -/
def repeated (min : Nat) (max : Option Nat) (advances : Bool) (round : Count Bool) :
    Count Bool := do
  match max, min with
  | some 1, 0 =>
    charge 1 (2 * branchSize)
    goOn (← round)
    charge 1 0
    return false
  | some max, min =>
    let fromChoice ← exactly round min
    if min = max then return fromChoice
    charge 1 0
    goOn (← further round (max - min) fromChoice)
    return false
  | none, 0 =>
    if advances then
      charge 1 branchSize
      goOn (← round)
      return true
    else
      goOn (← round)
      charge 3 (4 * branchSize)
      return false
  | none, 1 =>
    goOn (← round)
    charge 1 branchSize
    return true
  | none, n + 2 =>
    let fromChoice ← exactly round (n + 1)
    goOn (← round)
    goOn fromChoice
    charge 1 branchSize
    return true

/-- Counts a shape, and says whether it ends in a choice. -/
def count : Shape → Count Bool
  | fixed states memory => do
    charge states memory
    return false
  | forward ways => do
    countForward ways
    return false
  | backward seqs => do
    countBackward seqs
    return false
  | group s => do
    charge 1 0
    goOn (← count s)
    charge 1 0
    return false
  | seq a b => do
    let fromChoice ← count a
    let fromChoice' ← count b
    goOn fromChoice
    return fromChoice'
  | choice first second => do
    goOn (← count first)
    goOn (← count second)
    charge 2 (2 * branchSize)
    return false
  | another c s => do
    let _ ← count c
    goOn (← count s)
    charge 0 branchSize
    return false
  | rep min max advances s => repeated min max advances (count s)

/-- What stands before an automaton: one that is not tied to an end of the text can begin after any
number of bytes. -/
def countStart (tied : Bool) : Count Unit :=
  if tied then charge 1 0 else charge 3 (2 * branchSize + transitionSize)

/-- The automaton that reads from the start and records the bounds of the match. -/
def countWhole (e : Expr) : Count Unit := do
  countStart e.startsText
  let _ ← count (group (ofExpr false e))
  charge 1 0

/-- The automaton that reads from the end. -/
def countReverse (e : Expr) : Count Unit := do
  countStart e.endsText
  goOn (← count (ofExpr true e))
  charge 1 0

end Shape

/-- A choice between thousands of texts, which needs no automaton of this kind: the texts are
searched for all at once. -/
def Expr.isDictionary (e : Expr) : Bool :=
  let texts := e.branches
  3000 ≤ texts.length && (Shape.texts? false texts).isSome

/-- Both automata of an expression keep the limit, if it needs them. -/
def Expr.isCompact (e : Expr) : Bool :=
  e.isDictionary ||
    ((Shape.countWhole e).run {}).isSome && ((Shape.countReverse e).run {}).isSome

end LogTriage.Regex
