import LogTriage.Regex.Program

/-!
# Matching

The threads of a program advance through a text together, one character at a time, the preferred
ones first.  Two threads at the same instruction differ in what they have recorded only, and the
preferred one is kept.  The match that is found starts as far left as possible, and among those
the preferred one wins: when a thread accepts, the threads after it end.
-/

namespace LogTriage.Regex

/-- Recorded positions, counted in characters. -/
abbrev Slots := Array (Option Nat)

structure Thread where
  pc : Nat
  slots : Slots

/-- The surroundings of a position. -/
structure Place where
  index : Nat
  before : Option Char
  after : Option Char

/-- Whether an assertion holds at a place. -/
def Look.holds (l : Look) (word : CharSet) (p : Place) : Bool :=
  let inWord (c : Option Char) : Bool := c.any word.holds
  let left := inWord p.before
  let right := inWord p.after
  match l with
  | textStart => p.before.isNone
  | textEnd => p.after.isNone
  | lineStart => p.before.isNone || p.before == some '\n'
  | lineEnd => p.after.isNone || p.after == some '\n'
  | lineStartReturn =>
    p.before.isNone || p.before == some '\n' || (p.before == some '\r' && p.after != some '\n')
  | lineEndReturn =>
    p.after.isNone || p.after == some '\r' || (p.after == some '\n' && p.before != some '\r')
  | wordEdge => left != right
  | notWordEdge => left == right
  | wordStart => !left && right
  | wordEnd => left && !right
  | wordStartHalf => !left
  | wordEndHalf => !right

namespace Program

/-- The threads at a place, preferred ones last, and for each instruction one more than the index
of the place where a thread last came to it. -/
structure Front where
  threads : List Thread := []
  seen : Array Nat

/-- Follows the threads on the stack to the instructions that take a character or accept. -/
def follow (p : Program) (place : Place) : Nat → List Thread → Front → Front
  | 0, _, front => front
  | _ + 1, [], front => front
  | fuel + 1, t :: stack, front =>
    if front.seen.getD t.pc 0 = place.index + 1 then follow p place fuel stack front
    else
      let front := { front with seen := front.seen.setIfInBounds t.pc (place.index + 1) }
      match p.code[t.pc]? with
      | none => follow p place fuel stack front
      | some (.split first second) =>
        follow p place fuel ({ t with pc := first } :: { t with pc := second } :: stack) front
      | some (.save slot next) =>
        let slots := t.slots.setIfInBounds slot (some place.index)
        follow p place fuel ({ pc := next, slots } :: stack) front
      | some (.look l word next) =>
        let stack := if l.holds word place then { t with pc := next } :: stack else stack
        follow p place fuel stack front
      | some (.take ..) | some .accept =>
        follow p place fuel stack { front with threads := t :: front.threads }

/-- Each instruction is followed once, and puts two threads on the stack at most. -/
def enter (p : Program) (place : Place) (t : Thread) (front : Front) : Front :=
  follow p place (2 * p.code.size + 2) [t] front

/-- Moves the threads past the character `c` to the place after it, preferred ones first, until
one of them accepts; what that one has recorded is the match found so far. -/
def step (p : Program) (c : Option Char) (place : Place) :
    List Thread → Front → Option Slots → Front × Option Slots
  | [], front, found => (front, found)
  | t :: ts, front, found =>
    match p.code[t.pc]? with
    | some .accept => (front, some t.slots)
    | some (.take s next) =>
      if c.any s.holds then step p c place ts (p.enter place { t with pc := next } front) found
      else step p c place ts front found
    | _ => step p c place ts front found

/-- The threads at `place`, with a new one at the start of the program while no match is found. -/
def spawn (p : Program) (place : Place) (blank : Slots) (front : Front) (found : Option Slots) :
    Front :=
  if found.isSome then front else p.enter place { pc := p.start, slots := blank } front

/-- Runs through the rest of a text, of which `before` is the character last passed. -/
def runGo (p : Program) (blank : Slots) (before : Option Char) (index : Nat) (front : Front)
    (found : Option Slots) : List Char → Option Slots
  | [] =>
    let place := { index, before, after := none }
    let front := p.spawn place blank front found
    (p.step none place front.threads.reverse { front with threads := [] } found).2
  | c :: cs =>
    let place := { index, before, after := some c }
    let front := p.spawn place blank front found
    if front.threads.isEmpty && found.isSome then found
    else
      let ahead := { index := index + 1, before := some c, after := cs.head? }
      let (front', found) :=
        p.step (some c) ahead front.threads.reverse { front with threads := [] } found
      runGo p blank (some c) (index + 1) front' found cs

/-- The recorded positions of the preferred leftmost match. -/
def run? (p : Program) (text : List Char) : Option Slots :=
  p.runGo (Array.replicate p.slots none) none 0 { seen := Array.replicate p.code.size 0 } none text

end Program

end LogTriage.Regex
