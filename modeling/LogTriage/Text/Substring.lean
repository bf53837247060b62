/-!
# Searching and cutting texts

Occurrence of one text in another, the text after the first occurrence, and the two ways in which
a text is cut: at a separator, and into lines.  A line ends at a line feed, which it does not
hold; a carriage return right before the line feed goes with it, one at the very end of the text
stays.

* `occurs_iff`   `occurs` decides whether one text is an infix of another.
-/

namespace LogTriage.Text

/-- Whether `needle` occurs in the text. -/
def occurs (needle : List Char) : List Char → Bool
  | [] => needle.isEmpty
  | c :: cs => needle.isPrefixOf (c :: cs) || occurs needle cs

theorem occurs_iff {needle cs : List Char} : occurs needle cs = true ↔ needle <:+: cs := by
  induction cs with
  | nil => simp [occurs]
  | cons c cs ih =>
    rw [occurs, Bool.or_eq_true, List.isPrefixOf_iff_prefix, ih, List.infix_cons_iff]

/-- The text after the first occurrence of `needle`. -/
def after? (needle : List Char) : List Char → Option (List Char)
  | [] => if needle.isEmpty then some [] else none
  | c :: cs =>
    if needle.isPrefixOf (c :: cs) then some ((c :: cs).drop needle.length) else after? needle cs

/-- The pieces of `cs` between the separators, in order; `piece` holds the open piece reversed
and `done` the closed ones. -/
def splitGo (sep : Char) (piece : List Char) (done : List (List Char)) :
    List Char → List (List Char)
  | [] => (piece.reverse :: done).reverse
  | c :: cs =>
    if c = sep then splitGo sep [] (piece.reverse :: done) cs else splitGo sep (c :: piece) done cs

def splitAt (sep : Char) (cs : List Char) : List (List Char) := splitGo sep [] [] cs

/-- A closed line, without the carriage return that stood before its line feed. -/
def dropReturn (cs : List Char) : List Char :=
  if cs.getLast? = some '\r' then cs.dropLast else cs

/-- The lines of a text; the last piece is a line only if it is not empty. -/
def lines (cs : List Char) : List (List Char) :=
  let pieces := splitAt '\n' cs
  let last := pieces.getLast?.getD []
  pieces.dropLast.map dropReturn ++ if last.isEmpty then [] else [last]

/-- Whether `s` holds `needle`. -/
def holds (s needle : String) : Bool := occurs needle.toList s.toList

end LogTriage.Text
