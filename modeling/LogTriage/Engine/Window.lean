/-!
# Windows

The latest lines of a phase.  Lines come in at one end and leave at the other, so that they are
kept in two lists: the older ones in order, the newer ones last one first.  `lines` is the view
that all else is stated with.

* `lines_push`    a line comes in after the others;
* `lines_pop`     the line that leaves is the oldest one;
* `length_lines`  the size is the number of lines.
-/

namespace LogTriage

structure Window where
  older : List String
  newer : List String
  size : Nat
  size_eq : size = older.length + newer.length

namespace Window

/-- The lines, oldest first. -/
def lines (w : Window) : List String := w.older ++ w.newer.reverse

def push (w : Window) (line : String) : Window where
  older := w.older
  newer := line :: w.newer
  size := w.size + 1
  size_eq := by rw [w.size_eq, List.length_cons, Nat.add_assoc]

/-- The window of some lines, oldest first. -/
def ofList (lines : List String) : Window where
  older := lines
  newer := []
  size := lines.length
  size_eq := rfl

def empty : Window := ofList []

instance : Inhabited Window := ⟨empty⟩

/-- The oldest line, and the window without it. -/
def pop? (w : Window) : Option (String × Window) :=
  match h : w.older with
  | line :: older =>
    some (line, {
      older
      newer := w.newer
      size := w.size - 1
      size_eq := by have := w.size_eq; simp only [h, List.length_cons] at this; omega })
  | [] =>
    match w.newer.reverse with
    | [] => none
    | line :: older => some (line, ofList older)

theorem lines_push (w : Window) (line : String) : (w.push line).lines = w.lines ++ [line] := by
  simp [lines, push]

theorem length_lines (w : Window) : w.lines.length = w.size := by
  rw [lines, List.length_append, List.length_reverse, w.size_eq]

theorem lines_ofList (l : List String) : (ofList l).lines = l := by
  simp [lines, ofList]

theorem lines_pop {w w' : Window} {line : String} (h : w.pop? = some (line, w')) :
    w.lines = line :: w'.lines := by
  unfold pop? at h
  split at h
  · rename_i older hw
    simp only [Option.some.injEq, Prod.mk.injEq] at h
    obtain ⟨rfl, rfl⟩ := h
    simp [lines, hw]
  · rename_i hw
    split at h
    · simp at h
    · rename_i older hr
      simp only [Option.some.injEq, Prod.mk.injEq] at h
      obtain ⟨rfl, rfl⟩ := h
      rw [lines_ofList, lines, hw, hr, List.nil_append]

end Window

end LogTriage
