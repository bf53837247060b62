import LogTriage.Line.Splitter
import LogTriage.Proofs.Text.Decoding

/-!
# The pieces of a text

Line feeds cut a text into pieces.  All but the last one are the lines that are closed; the last
one is a line too, at the end of the log, if it is not empty.  A byte-order mark at the start of
the text belongs to the bytes of the first piece, not to its text.

* `pushText_spec`   what a splitter makes of more text, starting from its unfinished line;
* `pushText_new`    a new splitter closes the closed lines, and keeps the last piece;
* `fits_of_pushText`  when no line is too long in the end, none was before.
-/

namespace LogTriage
open Text (utf8Size)

structure Piece where
  text : List Char
  /-- Bytes that it takes, those of a byte-order mark included. -/
  raw : Nat
deriving DecidableEq, Inhabited

namespace Piece

/-- The piece as a line; `terminator` is the size of the line feed that ended it. -/
def line (p : Piece) (terminator : Nat) : Line :=
  ⟨stripReturn (String.ofList p.text), p.raw + terminator⟩

def ofText (text : List Char) : Piece := ⟨text, utf8Size text⟩

end Piece

/-- A text without the byte-order mark that it begins with. -/
def withoutMark : List Char → List Char
  | [] => []
  | c :: cs => if c = byteOrderMark then cs else c :: cs

def pieces (text : List Char) : List Piece :=
  match text.splitOn '\n' with
  | [] => []
  | first :: others => ⟨withoutMark first, utf8Size first⟩ :: others.map .ofText

def closedLines (text : List Char) : List Line := (pieces text).dropLast.map (·.line 1)

def lastPiece (text : List Char) : Piece := (pieces text).getLastD ⟨[], 0⟩

def openLine (text : List Char) : List Line :=
  if (lastPiece text).text.isEmpty then [] else [(lastPiece text).line 0]

def Short (n : Nat) (text : List Char) : Prop := ∀ p ∈ pieces text, utf8Size p.text ≤ n

instance (n : Nat) (text : List Char) : Decidable (Short n text) :=
  inferInstanceAs (Decidable (∀ p ∈ pieces text, utf8Size p.text ≤ n))

namespace Splitter

def last (s : Splitter) : Piece := ⟨s.unfinished.toList, s.uncharged + s.length⟩

/-- The pieces that `text` makes when the splitter goes on with it. -/
def resumed (s : Splitter) (text : List Char) : List Piece :=
  match text.splitOn '\n' with
  | [] => []
  | first :: others =>
    ⟨s.last.text ++ first, s.last.raw + utf8Size first⟩ :: others.map .ofText

theorem length_eq (s : Splitter) : s.length = utf8Size s.unfinished.toList := by
  rw [← Text.utf8ByteSize_ofList, String.ofList_toList]
  rfl

theorem splitOn_cons (c : Char) (text : List Char) : (c :: text).splitOn '\n' =
    if c = '\n' then [] :: text.splitOn '\n' else (text.splitOn '\n').modifyHead (c :: ·) := by
  rw [List.splitOn, List.splitOnP_cons_eq_if_modifyHead]
  simp [List.splitOn]

theorem splitOn_ne_nil (text : List Char) : text.splitOn '\n' ≠ [] := List.splitOnP_ne_nil _ _

theorem pushText_cons (s : Splitter) (c : Char) (text : List Char) :
    s.pushText (c :: text) = (s.push c).pushText text := rfl

theorem resumed_nil (s : Splitter) : s.resumed [] = [s.last] := by
  simp [resumed, utf8Size]

theorem resumed_feed (s : Splitter) (text : List Char) :
    s.resumed ('\n' :: text) = s.last :: (s.close 1).resumed text := by
  obtain ⟨first, others, h⟩ := List.exists_cons_of_ne_nil (splitOn_ne_nil text)
  simp [resumed, splitOn_cons, h, last, close, length, Piece.ofText, utf8Size]

theorem last_pushed (s : Splitter) (c : Char) :
    ({ s with unfinished := s.unfinished.push c } : Splitter).last
      = ⟨s.last.text ++ [c], s.last.raw + c.utf8Size⟩ := by
  simp only [last, length, String.toList_push, String.utf8ByteSize_push, Nat.add_assoc]

theorem resumed_char (s : Splitter) {c : Char} (hc : c ≠ '\n') (text : List Char) :
    s.resumed (c :: text)
      = ({ s with unfinished := s.unfinished.push c } : Splitter).resumed text := by
  obtain ⟨first, others, h⟩ := List.exists_cons_of_ne_nil (splitOn_ne_nil text)
  simp only [resumed, splitOn_cons, if_neg hc, h, List.modifyHead_cons, last_pushed,
    List.append_assoc, List.singleton_append, Text.utf8Size_cons, Nat.add_assoc]

theorem push_feed {s : Splitter} (ha : s.atStart = false) (ht : s.tooLong = none)
    (hl : s.length ≤ s.maxLine) : s.push '\n' = s.close 1 := by
  obtain ⟨maxLine, unfinished, uncharged, atStart, lines, tooLong⟩ := s
  simp only at ha ht
  subst ha ht
  have hb : ¬ maxLine < unfinished.utf8ByteSize := Nat.not_lt.mpr hl
  simp [push, close, length, hb]

theorem push_char {s : Splitter} (ha : s.atStart = false) (ht : s.tooLong = none) {c : Char}
    (hc : c ≠ '\n') : s.push c = { s with unfinished := s.unfinished.push c } := by
  obtain ⟨maxLine, unfinished, uncharged, atStart, lines, tooLong⟩ := s
  simp only at ha ht
  subst ha ht
  simp [push, hc]

theorem lines_close (s : Splitter) (n : Nat) : (s.close n).lines = s.last.line n :: s.lines := by
  simp only [close, Piece.line, last, length, String.ofList_toList]

/-- **A splitter closes the closed pieces and keeps the last one.** -/
theorem pushText_spec {s : Splitter} (ha : s.atStart = false) (ht : s.tooLong = none)
    (text : List Char) (hs : ∀ p ∈ s.resumed text, utf8Size p.text ≤ s.maxLine) :
    (s.pushText text).tooLong = none ∧
      (s.pushText text).lines = ((s.resumed text).dropLast.map (·.line 1)).reverse ++ s.lines ∧
      (s.resumed text).getLast? = some (s.pushText text).last := by
  induction text generalizing s with
  | nil =>
    rw [resumed_nil]
    exact ⟨ht, rfl, rfl⟩
  | cons c text ih =>
    rw [pushText_cons]
    by_cases hc : c = '\n'
    · subst hc
      rw [resumed_feed] at hs ⊢
      have hl : s.length ≤ s.maxLine := by
        rw [length_eq]
        exact hs s.last List.mem_cons_self
      rw [push_feed ha ht hl]
      obtain ⟨h₁, h₂, h₃⟩ := ih (s := s.close 1) ha ht fun p hp => hs p (List.mem_cons_of_mem _ hp)
      have hne : (s.close 1).resumed text ≠ [] := fun h => by
        rw [h] at h₃
        cases h₃
      refine ⟨h₁, ?_, ?_⟩
      · rw [h₂, lines_close, List.dropLast_cons_of_ne_nil hne, List.map_cons, List.reverse_cons,
          List.append_assoc, List.singleton_append]
      · rw [List.getLast?_cons, h₃]
        rfl
    · rw [resumed_char s hc] at hs ⊢
      rw [push_char ha ht hc]
      exact ih ha ht hs

/-! ## From the start -/

theorem push_start (n : Nat) {c : Char} (hc : c ≠ byteOrderMark) :
    ({ maxLine := n } : Splitter).push c = ({ maxLine := n, atStart := false } : Splitter).push c := by
  simp [push, hc, length, close]

theorem push_mark (n : Nat) : ({ maxLine := n } : Splitter).push byteOrderMark
    = { maxLine := n, uncharged := byteOrderMark.utf8Size, atStart := false } := by
  simp [push]

theorem pieces_mark (n : Nat) (text : List Char) : pieces (byteOrderMark :: text)
    = ({ maxLine := n, uncharged := byteOrderMark.utf8Size, atStart := false } : Splitter).resumed
      text := by
  obtain ⟨first, others, h⟩ := List.exists_cons_of_ne_nil (splitOn_ne_nil text)
  have hc : byteOrderMark ≠ '\n' := by decide
  simp [pieces, resumed, splitOn_cons, if_neg hc, h, last, length, withoutMark, Text.utf8Size_cons]

theorem withoutMark_cons {c : Char} (hc : c ≠ byteOrderMark) (text : List Char) :
    withoutMark (c :: text) = c :: text := if_neg hc

theorem pieces_of_ne_mark (n : Nat) {c : Char} (hc : c ≠ byteOrderMark) (text : List Char) :
    pieces (c :: text) = ({ maxLine := n, atStart := false } : Splitter).resumed (c :: text) := by
  obtain ⟨first, others, h⟩ := List.exists_cons_of_ne_nil (splitOn_ne_nil text)
  by_cases hf : c = '\n'
  · simp [pieces, resumed, splitOn_cons, hf, last, length, withoutMark, utf8Size]
  · simp [pieces, resumed, splitOn_cons, hf, h, last, length, withoutMark_cons hc]

/-- A new splitter may as well begin after a byte-order mark. -/
theorem exists_resumed (n : Nat) (text : List Char) : ∃ (s : Splitter) (rest : List Char),
    s.atStart = false ∧ s.tooLong = none ∧ s.maxLine = n ∧ s.lines = [] ∧
      pieces text = s.resumed rest ∧
      (text ≠ [] → ({ maxLine := n } : Splitter).pushText text = s.pushText rest) := by
  rcases text with _ | ⟨c, text⟩
  · exact ⟨{ maxLine := n, atStart := false }, [], rfl, rfl, rfl, rfl, by
      simp [pieces, resumed, last, length, withoutMark, utf8Size], fun h => absurd rfl h⟩
  by_cases hc : c = byteOrderMark
  · subst hc
    exact ⟨_, text, rfl, rfl, rfl, rfl, pieces_mark n text, fun _ => by rw [pushText_cons, push_mark]⟩
  · exact ⟨_, c :: text, rfl, rfl, rfl, rfl, pieces_of_ne_mark n hc text, fun _ => by
      rw [pushText_cons, push_start n hc]
      rfl⟩

theorem pieces_ne_nil (text : List Char) : pieces text ≠ [] := by
  obtain ⟨first, others, h⟩ := List.exists_cons_of_ne_nil (splitOn_ne_nil text)
  rw [pieces, h]
  exact List.cons_ne_nil _ _

theorem pushText_new {n : Nat} {text : List Char} (hs : Short n text) :
    (({ maxLine := n } : Splitter).pushText text).tooLong = none ∧
      (({ maxLine := n } : Splitter).pushText text).lines = (closedLines text).reverse ∧
      (({ maxLine := n } : Splitter).pushText text).last = lastPiece text := by
  by_cases hne : text = []
  · subst hne
    exact ⟨rfl, rfl, rfl⟩
  obtain ⟨s, rest, ha, ht, hn, hl, hp, he⟩ := exists_resumed n text
  obtain ⟨h₁, h₂, h₃⟩ := pushText_spec ha ht rest (hn ▸ hp ▸ hs)
  rw [he hne, closedLines, lastPiece, hp]
  refine ⟨h₁, by rw [h₂, hl, List.append_nil], ?_⟩
  rw [List.getLastD_eq_getLast?, h₃, Option.getD_some]

/-! ## Lines that were closed before -/

/-- The splitter that had closed `lines` before all others. -/
def after (s : Splitter) (lines : List Line) : Splitter := { s with lines := s.lines ++ lines }

theorem push_after (s : Splitter) (lines : List Line) (c : Char) :
    (s.after lines).push c = (s.push c).after lines := by
  by_cases ht : s.tooLong.isSome = true
  · simp [push, after, ht]
  by_cases hm : s.atStart = true ∧ c = byteOrderMark
  · simp [push, after, ht, hm]
  by_cases hc : c = '\n'
  · subst hc
    by_cases hl : s.maxLine < s.length
    · have hl' : s.maxLine < s.unfinished.utf8ByteSize := hl
      simp [push, after, length, ht, hm, hl']
    · have hl' : ¬ s.maxLine < s.unfinished.utf8ByteSize := hl
      simp [push, after, close, length, ht, hm, hl']
  · simp [push, after, ht, hm, hc]

theorem pushText_after (s : Splitter) (lines : List Line) (text : List Char) :
    (s.after lines).pushText text = (s.pushText text).after lines := by
  induction text generalizing s with
  | nil => rfl
  | cons c text ih => rw [pushText_cons, pushText_cons, push_after, ih]

/-! ## Lengths -/

def Fits (s : Splitter) : Prop := s.tooLong = none ∧ s.length ≤ s.maxLine

theorem maxLine_push (s : Splitter) (c : Char) : (s.push c).maxLine = s.maxLine := by
  unfold push
  split
  · rfl
  split
  · rfl
  split
  · dsimp only
    split <;> rfl
  · rfl

theorem tooLong_of_push {s : Splitter} {c : Char} (h : (s.push c).tooLong = none) :
    s.tooLong = none := by
  rw [← Option.not_isSome_iff_eq_none] at h ⊢
  intro ht
  rw [push, if_pos ht] at h
  exact h ht

theorem length_le_of_push {s : Splitter} {c : Char} (h : (s.push c).tooLong = none) :
    s.length ≤ (s.push c).length ∨ s.length ≤ s.maxLine := by
  unfold push at h ⊢
  split
  · exact .inl (Nat.le_refl _)
  split
  · exact .inl (Nat.le_refl _)
  rename_i ht hm
  split
  · rename_i hc
    by_cases hl : s.maxLine < s.length
    · have hl' : s.maxLine < s.unfinished.utf8ByteSize := hl
      rw [if_neg ht, if_neg hm, if_pos hc] at h
      simp [hl', length] at h
    · exact .inr (Nat.le_of_not_lt hl)
  · refine .inl ?_
    rw [length, length, String.utf8ByteSize_push]
    exact Nat.le_add_right _ _

theorem fits_of_push {s : Splitter} {c : Char} (h : (s.push c).Fits) : s.Fits := by
  obtain ⟨ht, hl⟩ := h
  rw [maxLine_push] at hl
  refine ⟨tooLong_of_push ht, ?_⟩
  rcases length_le_of_push ht with h | h
  · exact Nat.le_trans h hl
  · exact h

theorem fits_of_pushText {s : Splitter} {text : List Char} (h : (s.pushText text).Fits) :
    s.Fits := by
  induction text generalizing s with
  | nil => exact h
  | cons c text ih => exact fits_of_push (ih h)

theorem maxLine_pushText (s : Splitter) (text : List Char) :
    (s.pushText text).maxLine = s.maxLine := by
  induction text generalizing s with
  | nil => rfl
  | cons c text ih => rw [pushText_cons, ih, maxLine_push]

end Splitter

end LogTriage
