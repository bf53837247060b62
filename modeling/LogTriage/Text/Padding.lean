/-!
# Columns

Texts padded with spaces to a least width, and cut to a greatest one.  A width counts characters.
-/

namespace LogTriage.Text

/-- Sets `s` in a column of `width` characters, at its right edge. -/
def padStart (width : Nat) (s : String) : String :=
  String.ofList (List.replicate (width - s.length) ' ' ++ s.toList)

/-- Sets `s` in a column of `width` characters, at its left edge. -/
def padEnd (width : Nat) (s : String) : String :=
  String.ofList (s.toList ++ List.replicate (width - s.length) ' ')

/-- The first `n` characters of `s`. -/
def take (n : Nat) (s : String) : String := String.ofList (s.toList.take n)

/-- Characters of a line that are shown in a message. -/
def previewLength : Nat := 200

/-- The beginning of a line, for a message. -/
def preview (line : String) : String := take previewLength line

end LogTriage.Text
