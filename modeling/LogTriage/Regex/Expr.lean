import LogTriage.Regex.CharSet

/-!
# Regular expressions

The structure of a pattern after its flags have been applied: what is left are sets of characters,
assertions about a position, capturing groups, and the ways to combine them.  A repetition is
greedy when it prefers one more round to going on.

Expressions are made by `repeated`, `seqOf` and `altOf`, which bring them to a simple form: chains
of `seq` and of `alt` are nested to the right, nothing that takes no character is repeated,
alternatives that take one character are a set, and what alternatives begin with in common stands
before them.
-/

namespace LogTriage.Regex

/-- Assertions about the position between two characters. -/
inductive Look where
  | textStart
  | textEnd
  | lineStart
  | lineEnd
  /-- As `lineStart` and `lineEnd`, where a carriage return and a line feed end a line together or
  each on its own. -/
  | lineStartReturn
  | lineEndReturn
  | wordEdge
  | notWordEdge
  | wordStart
  | wordEnd
  | wordStartHalf
  | wordEndHalf
deriving DecidableEq, Inhabited

inductive Expr where
  | empty
  | set (s : CharSet)
  /-- An assertion; `word` are the characters of words, for those that speak of words. -/
  | look (l : Look) (word : CharSet)
  | group (index : Nat) (e : Expr)
  | seq (a b : Expr)
  | alt (a b : Expr)
  | rep (min : Nat) (max : Option Nat) (greedy : Bool) (e : Expr)
deriving DecidableEq, Inhabited

namespace Expr

/-- Matches without taking a character, perhaps. -/
def canBeEmpty : Expr → Bool
  | empty => true
  | set _ => false
  | look .. => true
  | group _ e => e.canBeEmpty
  | seq a b => a.canBeEmpty && b.canBeEmpty
  | alt a b => a.canBeEmpty || b.canBeEmpty
  | rep min _ _ e => min == 0 || e.canBeEmpty

/-- Never takes a character. -/
def isEmptyOnly : Expr → Bool
  | empty => true
  | set _ => false
  | look .. => true
  | group _ e => e.isEmptyOnly
  | seq a b => a.isEmptyOnly && b.isEmptyOnly
  | alt a b => a.isEmptyOnly && b.isEmptyOnly
  | rep _ max _ e => max == some 0 || e.isEmptyOnly

/-- Some part of the expression is a set of no characters. -/
def hasVoid : Expr → Bool
  | empty | look .. => false
  | set s => s.isEmpty
  | group _ e | rep _ _ _ e => e.hasVoid
  | seq a b | alt a b => a.hasVoid || b.hasVoid

/-- Matches at the start of the text only. -/
def startsText : Expr → Bool
  | empty | set _ => false
  | look l _ => l == .textStart
  | group _ e => e.startsText
  | seq a b => a.startsText || (a.isEmptyOnly && b.startsText)
  | alt a b => a.startsText && b.startsText
  | rep min _ _ e => min != 0 && e.startsText

/-- Matches up to the end of the text only. -/
def endsText : Expr → Bool
  | empty | set _ => false
  | look l _ => l == .textEnd
  | group _ e => e.endsText
  | seq a b => b.endsText || (b.isEmptyOnly && a.endsText)
  | alt a b => a.endsText && b.endsText
  | rep min _ _ e => min != 0 && e.endsText

/-- The numbers of the groups, in order. -/
def groups : Expr → List Nat
  | empty | set _ | look .. => []
  | group i e => i :: e.groups
  | seq a b | alt a b => a.groups ++ b.groups
  | rep _ _ _ e => e.groups

/-! ### Repetitions -/

/-- A repetition in its simplest form: what takes no character need not be repeated, no round is
the empty expression, and one round is the expression itself. -/
def repeated (min : Nat) (max : Option Nat) (greedy : Bool) (e : Expr) : Expr :=
  let min' := if e.isEmptyOnly then Nat.min min 1 else min
  let max' := if e.isEmptyOnly then some (Nat.min (max.getD 1) 1) else max
  if min' = 0 ∧ max' = some 0 then .empty
  else if min' = 1 ∧ max' = some 1 then e
  else .rep min' max' greedy e

/-! ### Sequences -/

/-- What follows one another in an expression. -/
def parts : Expr → List Expr
  | empty => []
  | seq a b => a.parts ++ b.parts
  | e => [e]

def chain : List Expr → Expr
  | [] => .empty
  | [e] => e
  | e :: es => .seq e (chain es)

def seqOf (es : List Expr) : Expr := chain (es.flatMap parts)

/-- The character that an expression is, if it is one. -/
def char? : Expr → Option Char
  | set s => s.only?
  | _ => none

/-- Parts one after the other, with characters that follow one another in one unit. -/
def unitsOf : List Expr → List (List Expr)
  | [] => []
  | e :: es =>
    match unitsOf es with
    | (e' :: unit) :: units =>
      if e.char?.isSome && e'.char?.isSome then (e :: e' :: unit) :: units
      else [e] :: (e' :: unit) :: units
    | units => [e] :: units

def units (e : Expr) : List (List Expr) := unitsOf e.parts

/-! ### Alternatives -/

/-- The alternatives of an expression. -/
def branches : Expr → List Expr
  | alt a b => a.branches ++ b.branches
  | e => [e]

def altChain : List Expr → Expr
  | [] => .set .empty
  | [e] => e
  | e :: es => .alt e (altChain es)

/-- The characters that alternatives stand for when all of them are single characters, or all of
them sets of another size. -/
def oneSet? (es : List Expr) : Option CharSet := do
  let sets ← es.mapM fun e =>
    match e with
    | set s => some s
    | _ => none
  let single := sets.map fun s => s.only?.isSome
  if single.all id || single.all (!·) then some (CharSet.unions sets) else none

/-- The alternatives without what they begin with in common. -/
def merged (es : List Expr) : Expr :=
  let es := es.flatMap branches
  match es, oneSet? es with
  | [e], _ => e
  | _, some s => .set s
  | _, none => altChain es

/-- The units that two lists begin with in common. -/
def commonStart : List (List Expr) → List (List Expr) → List (List Expr)
  | u :: us, v :: vs => if u = v then u :: commonStart us vs else []
  | _, _ => []

/-- The units that all alternatives begin with, each being more than one unit long. -/
def sharedStart (es : List Expr) : List (List Expr) :=
  match es.map units with
  | [] => []
  | us :: rest =>
    if (us :: rest).all (1 < ·.length) then rest.foldl commonStart us else []

/-- Alternatives in their simplest form. -/
def altOf (es : List Expr) : Expr :=
  let es := es.flatMap branches
  let start := sharedStart es
  if es.length < 2 || start.isEmpty then merged es
  else
    let rests := es.map fun e => seqOf ((e.units.drop start.length).flatten)
    seqOf (start.flatten ++ [merged rests])

end Expr

end LogTriage.Regex
