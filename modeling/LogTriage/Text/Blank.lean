/-!
# White space

The characters with the property `White_Space`, and what is left of a text when they are trimmed
from its ends.  The zero-width space U+200B and the byte-order mark U+FEFF are not white space.
-/

namespace LogTriage.Text

/-- The characters with the property `White_Space`, by runs. -/
def blankRuns : List (Nat × Nat) := [
  (0x09, 0x0D), (0x20, 0x20), (0x85, 0x85), (0xA0, 0xA0), (0x1680, 0x1680), (0x2000, 0x200A),
  (0x2028, 0x2029), (0x202F, 0x202F), (0x205F, 0x205F), (0x3000, 0x3000)]

def isBlank (c : Char) : Bool :=
  blankRuns.any fun (first, last) => first ≤ c.toNat && c.toNat ≤ last

def trimStart (cs : List Char) : List Char := cs.dropWhile isBlank

def trimEnd (cs : List Char) : List Char := (cs.reverse.dropWhile isBlank).reverse

def trim (cs : List Char) : List Char := trimEnd (trimStart cs)

/-- Gives `s` without the white space at its two ends. -/
def trimmed (s : String) : String := String.ofList (trim s.toList)

/-- No character other than white space. -/
def blank (s : String) : Bool := s.toList.all isBlank

/-- The first character that is left is not white space. -/
theorem isBlank_head_trimStart {cs : List Char} {c : Char} (h : (trimStart cs).head? = some c) :
    isBlank c = false := by
  unfold trimStart at h
  induction cs with
  | nil => simp at h
  | cons d cs ih =>
    by_cases hd : isBlank d = true
    · rw [List.dropWhile_cons_of_pos hd] at h
      exact ih h
    · rw [List.dropWhile_cons_of_neg hd] at h
      simp only [List.head?_cons, Option.some.injEq] at h
      subst h
      simpa using hd

end LogTriage.Text
