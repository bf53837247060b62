/-!
# Name patterns

Patterns in which a star stands for any run of characters and every other character for itself.
Letters of ASCII match whether they are capitals or not; all other characters match themselves
only.
-/

namespace LogTriage.Glob

inductive Token where
  | char (c : Char)
  | anyRun
deriving DecidableEq

abbrev Pattern := List Token

def Pattern.ofString (s : String) : Pattern :=
  s.toList.map fun c => if c = '*' then .anyRun else .char c

/-- The same character, or the same ASCII letter. -/
def sameLetter (a b : Char) : Bool :=
  a == b || (a.toNat < 0x80 && b.toNat < 0x80 && a.toLower == b.toLower)

/-- Whether one of the tails of a name, the name itself and the empty one included, satisfies
`rest`. -/
def anyTail (rest : List Char → Bool) : List Char → Bool
  | [] => rest []
  | c :: cs => rest (c :: cs) || anyTail rest cs

def Pattern.accepts : Pattern → List Char → Bool
  | [], name => name.isEmpty
  | .anyRun :: p, name => anyTail (Pattern.accepts p) name
  | .char c :: p, d :: name => sameLetter c d && Pattern.accepts p name
  | .char _ :: _, [] => false

def Pattern.acceptsName (p : Pattern) (name : String) : Bool := p.accepts name.toList

end LogTriage.Glob
