import LogTriage.Regex.Expr

/-!
# Programs

An expression is compiled to a program whose instructions name the ones that follow them.  A split
prefers its first branch.  The expression is compiled from its end to its start, so that what
follows an instruction is known when the instruction is written; the head of a loop is set down
first and completed once its body is there.
-/

namespace LogTriage.Regex

inductive Inst where
  | take (s : CharSet) (next : Nat)
  | look (l : Look) (word : CharSet) (next : Nat)
  /-- Records the position at hand in a slot. -/
  | save (slot next : Nat)
  | split (first second : Nat)
  | accept
deriving Inhabited

structure Program where
  code : Array Inst
  start : Nat
  /-- Two slots for each group, the whole match counted as one. -/
  slots : Nat
deriving Inhabited

namespace Program

abbrev Code := Array Inst

def addInst (i : Inst) (code : Code) : Nat × Code := (code.size, code.push i)

/-- A choice between going through `body` and going on to `next`. -/
def choose (greedy : Bool) (body next : Nat) : Inst :=
  if greedy then .split body next else .split next body

/-- Makes `n` copies one after the other; `compile` writes one copy before a given instruction. -/
def copies (compile : Nat → Code → Nat × Code) : Nat → Nat → Code → Nat × Code
  | 0, next, code => (next, code)
  | n + 1, next, code =>
    let (next, code) := compile next code
    copies compile n next code

/-- Up to `n` copies, each of which may be the last; all of them lead to `exit`. -/
def optional (compile : Nat → Code → Nat × Code) (greedy : Bool) (exit : Nat) :
    Nat → Code → Nat × Code
  | 0, code => (exit, code)
  | n + 1, code =>
    let (next, code) := optional compile greedy exit n code
    let (body, code) := compile next code
    addInst (choose greedy body exit) code

/-- A body that is followed by the choice to go through it again; the entry of the body, and the
place of the choice. -/
def loop (compile : Nat → Code → Nat × Code) (greedy : Bool) (next : Nat) (code : Code) :
    Nat × Nat × Code :=
  let (head, code) := addInst .accept code
  let (body, code) := compile head code
  (body, head, code.setIfInBounds head (choose greedy body next))

/-- Writes `e` before the instruction `next`.  A body that may be empty is entered through a choice
of its own, so that an empty round is tried only after the full ones. -/
def compile : Expr → Nat → Code → Nat × Code
  | .empty, next, code => (next, code)
  | .set s, next, code => addInst (.take s next) code
  | .look l word, next, code => addInst (.look l word next) code
  | .group i e, next, code =>
    let (next, code) := addInst (.save (2 * i + 1) next) code
    let (next, code) := compile e next code
    addInst (.save (2 * i) next) code
  | .seq a b, next, code =>
    let (next, code) := compile b next code
    compile a next code
  | .alt a b, next, code =>
    let (second, code) := compile b next code
    let (first, code) := compile a next code
    addInst (.split first second) code
  | .rep min max greedy e, next, code =>
    match max, min with
    | some m, n =>
      let (next, code) := optional (compile e) greedy next (m - n) code
      copies (compile e) n next code
    | none, 0 =>
      let (body, head, code) := loop (compile e) greedy next code
      if e.canBeEmpty then addInst (choose greedy body next) code else (head, code)
    | none, n + 1 =>
      let (body, _, code) := loop (compile e) greedy next code
      copies (compile e) n body code

/-- The program of `e`; slots 0 and 1 hold the bounds of the whole match. -/
def ofExpr (e : Expr) : Program :=
  let (start, code) := compile (.group 0 e) 0 #[.accept]
  { code, start, slots := 2 * (e.groups.foldl max 0 + 1) }

end Program

end LogTriage.Regex
