import LogTriage.Proofs.Line.Refusals

/-!
# What lines are charged with

Line feeds cut the bytes of a log as they cut its text, for no other character has such a byte.  So
the first lines take the bytes through as many line feeds, and all lines take all bytes, unless the
log is nothing but a byte-order mark.  A line is charged with its carriage return, and the first
line with a byte-order mark.

* `bytesThrough_succ`   a line more takes its own bytes and those of its line feed;
* `rawTotal_take`       the first lines of a text take the bytes through as many line feeds;
* `next_charged`        the lines that are asked for one by one;
* `items_ofChunks`      the items of all chunks take no more bytes than there are.
-/

namespace LogTriage
open Text (Reading Ending Decodes encode utf8Size)

def rawTotal : List Line → Nat
  | [] => 0
  | line :: lines => line.raw + rawTotal lines

theorem rawTotal_cons (line : Line) (lines : List Line) :
    rawTotal (line :: lines) = line.raw + rawTotal lines := rfl

theorem rawTotal_append (lines more : List Line) :
    rawTotal (lines ++ more) = rawTotal lines + rawTotal more := by
  induction lines with
  | nil => exact (Nat.zero_add _).symm
  | cons line lines ih => rw [List.cons_append, rawTotal_cons, rawTotal_cons, ih, Nat.add_assoc]

/-- How many bytes there are through the `k`-th line feed; all of them, if there are fewer. -/
def bytesThrough : Nat → Bytes → Nat
  | 0, _ => 0
  | _ + 1, [] => 0
  | k + 1, b :: bs => 1 + if b = 0x0A then bytesThrough k bs else bytesThrough (k + 1) bs

theorem bytesThrough_zero (bs : Bytes) : bytesThrough 0 bs = 0 := by
  unfold bytesThrough
  rfl

theorem bytesThrough_le (k : Nat) (bs : Bytes) : bytesThrough k bs ≤ bs.length := by
  induction bs generalizing k with
  | nil => cases k <;> exact Nat.le_refl 0
  | cons b bs ih =>
    cases k with
    | zero => exact Nat.zero_le _
    | succ k =>
      have hk := ih k
      have hsucc := ih (k + 1)
      rw [bytesThrough, List.length_cons]
      split <;> omega

theorem bytesThrough_feed (k : Nat) (bs : Bytes) :
    bytesThrough (k + 1) (0x0A :: bs) = 1 + bytesThrough k bs := by
  rw [bytesThrough, if_pos rfl]

theorem bytesThrough_append {before : Bytes} (h : 0x0A ∉ before) (k : Nat) (bs : Bytes) :
    bytesThrough (k + 1) (before ++ bs) = before.length + bytesThrough (k + 1) bs := by
  induction before with
  | nil => exact (Nat.zero_add _).symm
  | cons b before ih =>
    have hb : b ≠ 0x0A := fun hb => h (hb ▸ List.mem_cons_self)
    have hrest := ih fun hmem => h (List.mem_cons_of_mem _ hmem)
    rw [List.cons_append, bytesThrough, if_neg hb, hrest, List.length_cons]
    omega

/-! ## Line feeds in a text -/

theorem eq_of_feed_mem {bs : Bytes} (h : Text.CharForm bs) (hm : 0x0A ∈ bs) : bs = [0x0A] := by
  have hle : ∃ b ∈ bs, b.toNat < 0x80 := ⟨0x0A, hm, by decide⟩
  cases h with
  | one => rw [List.mem_singleton.mp hm]
  | two h₀ _ h₁ =>
    have hfollow := (Text.canFollow_iff.mp h₁).1
    simp only [List.mem_cons, List.not_mem_nil, or_false, exists_eq_or_imp, exists_eq_left] at hle
    omega
  | three h₀ _ h₁ h₂ _ =>
    have hfollow := (Text.canFollow_iff.mp h₁).1
    simp only [List.mem_cons, List.not_mem_nil, or_false, exists_eq_or_imp, exists_eq_left] at hle
    omega
  | four h₀ _ h₁ h₂ _ h₃ _ =>
    have hfollow := (Text.canFollow_iff.mp h₁).1
    simp only [List.mem_cons, List.not_mem_nil, or_false, exists_eq_or_imp, exists_eq_left] at hle
    omega

theorem feed_not_mem_utf8EncodeChar {c : Char} (hc : c ≠ '\n') :
    0x0A ∉ String.utf8EncodeChar c := by
  intro hmem
  have hform := eq_of_feed_mem (Text.charForm_utf8EncodeChar c) hmem
  have hfeed : String.utf8EncodeChar '\n' = [0x0A] := by decide
  exact hc (Text.utf8EncodeChar_inj (hform.trans hfeed.symm))

theorem bytesThrough_char {c : Char} (hc : c ≠ '\n') (k : Nat) (text : List Char) :
    bytesThrough (k + 1) (encode (c :: text)) = c.utf8Size + bytesThrough (k + 1) (encode text) := by
  rw [Text.encode_cons, bytesThrough_append (feed_not_mem_utf8EncodeChar hc),
    String.length_utf8EncodeChar]

theorem bytesThrough_newline (k : Nat) (text : List Char) :
    bytesThrough (k + 1) (encode ('\n' :: text)) = 1 + bytesThrough k (encode text) := by
  have hfeed : String.utf8EncodeChar '\n' = [0x0A] := by decide
  rw [Text.encode_cons, hfeed, List.singleton_append, bytesThrough_feed]

/-- **A line more takes its own bytes**, and that of its line feed, if it has one. -/
theorem bytesThrough_succ {k : Nat} {text stretch : List Char}
    (h : (text.splitOn '\n')[k]? = some stretch) : bytesThrough (k + 1) (encode text)
      = bytesThrough k (encode text) + utf8Size stretch
        + if k + 1 < (text.splitOn '\n').length then 1 else 0 := by
  -- on the text; only a line feed brings the stretch nearer to the start
  induction text generalizing k stretch with
  | nil =>
    rw [List.splitOn_nil, List.getElem?_singleton] at h
    split at h
    · rename_i hk
      obtain rfl := Option.some.inj h
      rw [hk]
      rfl
    · cases h
  | cons c text ih =>
    obtain ⟨first, others, hsplit⟩ := List.exists_cons_of_ne_nil (Splitter.splitOn_ne_nil text)
    rw [Splitter.splitOn_cons] at h ⊢
    by_cases hc : c = '\n'
    · subst hc
      rw [if_pos rfl] at h ⊢
      rw [List.length_cons]
      cases k with
      | zero =>
        obtain rfl := Option.some.inj h
        rw [bytesThrough_newline, bytesThrough_zero, bytesThrough_zero, hsplit, if_pos (by simp)]
        rfl
      | succ k =>
        have hk := ih h
        simp only [bytesThrough_newline, Nat.add_lt_add_iff_right]
        omega
    · rw [if_neg hc] at h ⊢
      rw [List.length_modifyHead]
      rw [hsplit, List.modifyHead_cons] at h
      cases k with
      | zero =>
        obtain rfl := Option.some.inj h
        have hfirst : (text.splitOn '\n')[0]? = some first := by
          rw [hsplit]
          rfl
        have hk := ih hfirst
        rw [bytesThrough_char hc, hk, bytesThrough_zero, bytesThrough_zero, Text.utf8Size_cons]
        omega
      | succ k =>
        have hk := ih (k := k + 1) (by rw [hsplit]; exact h)
        rw [bytesThrough_char hc, bytesThrough_char hc, hk]
        omega

theorem bytesThrough_length (text : List Char) :
    bytesThrough (text.splitOn '\n').length (encode text) = utf8Size text := by
  induction text with
  | nil => rfl
  | cons c text ih =>
    obtain ⟨first, others, hsplit⟩ := List.exists_cons_of_ne_nil (Splitter.splitOn_ne_nil text)
    rw [Splitter.splitOn_cons, Text.utf8Size_cons]
    by_cases hc : c = '\n'
    · subst hc
      rw [if_pos rfl, List.length_cons, bytesThrough_newline, ih]
      rfl
    · rw [if_neg hc, List.length_modifyHead]
      rw [hsplit, List.length_cons] at ih ⊢
      rw [bytesThrough_char hc, ih]

/-! ## The lines of a text -/

section lines
variable {n k : Nat} {text : List Char} {line : Line}

theorem length_pieces (text : List Char) : (pieces text).length = (text.splitOn '\n').length := by
  obtain ⟨first, others, hsplit⟩ := List.exists_cons_of_ne_nil (Splitter.splitOn_ne_nil text)
  rw [pieces, hsplit, List.length_cons, List.length_cons, List.length_map]

theorem getElem?_pieces (n : Nat) (text : List Char) : (pieces text)[n]?
    = (text.splitOn '\n')[n]?.map fun stretch =>
      ⟨if n = 0 then withoutMark stretch else stretch, utf8Size stretch⟩ := by
  obtain ⟨first, others, hsplit⟩ := List.exists_cons_of_ne_nil (Splitter.splitOn_ne_nil text)
  rw [pieces, hsplit]
  cases n with
  | zero => rfl
  | succ n =>
    simp only [List.getElem?_cons_succ, List.getElem?_map, if_neg (Nat.succ_ne_zero n)]
    rfl

/-- **A line has the bytes of its stretch of the text**: those of a carriage return and of a
byte-order mark, and that of the line feed after it. -/
theorem exists_stretch (h : (closedLines text ++ openLine text)[n]? = some line) :
    ∃ stretch, (text.splitOn '\n')[n]? = some stretch ∧
      line.text = stripReturn (String.ofList (if n = 0 then withoutMark stretch else stretch)) ∧
      line.raw = utf8Size stretch + if n + 1 < (text.splitOn '\n').length then 1 else 0 := by
  obtain ⟨p, hp, rfl⟩ := exists_piece h
  rw [getElem?_pieces] at hp
  obtain ⟨stretch, hstretch, rfl⟩ := Option.map_eq_some_iff.mp hp
  rw [length_pieces]
  exact ⟨stretch, hstretch, rfl, rfl⟩

/-- **The first lines take the bytes through as many line feeds.** -/
theorem rawTotal_take (hk : k ≤ (closedLines text ++ openLine text).length) :
    rawTotal ((closedLines text ++ openLine text).take k) = bytesThrough k (encode text) := by
  induction k with
  | zero =>
    rw [bytesThrough_zero]
    rfl
  | succ k ih =>
    have htake := ih (Nat.le_of_succ_le hk)
    have hline := List.getElem?_eq_getElem (Nat.lt_of_succ_le hk)
    obtain ⟨stretch, hstretch, -, hraw⟩ := exists_stretch hline
    rw [List.take_add_one, hline, rawTotal_append, htake, Option.toList_some, rawTotal_cons, hraw,
      bytesThrough_succ hstretch, rawTotal]
    omega

theorem length_lines (text : List Char) : (closedLines text ++ openLine text).length + 1
    = (text.splitOn '\n').length + if (lastPiece text).text.isEmpty then 0 else 1 := by
  have hpos : 0 < (text.splitOn '\n').length :=
    List.length_pos_iff.mpr (Splitter.splitOn_ne_nil text)
  rw [List.length_append, closedLines, List.length_map, List.length_dropLast, length_pieces, openLine]
  split
  · rw [List.length_nil]
    omega
  · rw [List.length_singleton]
    omega

theorem lines_mark : closedLines [byteOrderMark] ++ openLine [byteOrderMark] = [] := by decide

theorem eq_of_withoutMark (h : withoutMark text = []) : text = [] ∨ text = [byteOrderMark] := by
  cases text with
  | nil => exact .inl rfl
  | cons c text =>
    rw [withoutMark] at h
    split at h
    · rename_i hc
      exact .inr (by rw [hc, h])
    · cases h

theorem utf8Size_of_lastPiece (h : (lastPiece text).text = []) (ht : text ≠ [byteOrderMark]) :
    ∃ stretch, (text.splitOn '\n')[(text.splitOn '\n').length - 1]? = some stretch ∧
      utf8Size stretch = 0 := by
  have hlast := getElem?_lastPiece text
  rw [getElem?_pieces, length_pieces] at hlast
  obtain ⟨stretch, hstretch, hpiece⟩ := Option.map_eq_some_iff.mp hlast
  refine ⟨stretch, hstretch, ?_⟩
  have hempty := congrArg Piece.text hpiece
  rw [h] at hempty
  dsimp only at hempty
  split at hempty
  · rename_i hone
    rcases eq_of_withoutMark hempty with rfl | rfl
    · rfl
    · have hsplit : text.splitOn '\n' = [[byteOrderMark]] := by
        obtain ⟨first, others, hsplit⟩ := List.exists_cons_of_ne_nil (Splitter.splitOn_ne_nil text)
        rw [hsplit, List.length_cons, Nat.add_sub_cancel] at hone
        rw [hsplit, List.length_eq_zero_iff.mp hone] at hstretch ⊢
        exact congrArg (fun s => [s]) (Option.some.inj hstretch)
      have hjoin : ['\n'].intercalate (text.splitOn '\n') = text := List.intercalate_splitOn '\n'
      rw [hsplit, List.intercalate_singleton] at hjoin
      exact absurd hjoin.symm ht
  · rw [hempty]
    rfl

/-- **All lines take all bytes**, unless the text is nothing but a byte-order mark. -/
theorem rawTotal_lines (ht : text ≠ [byteOrderMark]) :
    rawTotal (closedLines text ++ openLine text) = utf8Size text := by
  have hall := rawTotal_take (Nat.le_refl (closedLines text ++ openLine text).length)
  have hlen := length_lines text
  rw [List.take_length] at hall
  rw [hall, ← bytesThrough_length text]
  split at hlen
  · rename_i hempty
    obtain ⟨stretch, hstretch, hsize⟩ := utf8Size_of_lastPiece (List.isEmpty_iff.mp hempty) ht
    have hplace : (closedLines text ++ openLine text).length = (text.splitOn '\n').length - 1 := by
      omega
    rw [← hplace] at hstretch
    have hsucc := bytesThrough_succ hstretch
    rw [hsize, if_neg (by omega), hlen] at hsucc
    exact hsucc.symm
  · rw [Nat.add_right_cancel hlen]

end lines

/-! ## All chunks -/

namespace Assembler
variable {limits : LineLimits} {source : List Chunk} {text : List Char} {ending : Ending}

/-- After no chunk more bytes of a character wait than may. -/
def Waits (limits : LineLimits) (chunks : List Bytes) : Prop :=
  ∀ before, before <+: chunks → (Reading.read {} before.flatten).held.length ≤ limits.maxPending

theorem waits_of_three_le (hp : 3 ≤ limits.maxPending) (chunks : List Bytes) :
    Waits limits chunks := by
  intro before _
  have hheld : Text.Held (Reading.read {} before.flatten).held := Text.held_read (.inl rfl) [] _
  exact Nat.le_trans hheld.length_le hp

theorem items_of_whole (hd : Decodes (delivered source).flatten text .whole)
    (hsource : sourceError? source = none) (hs : Short limits.maxLine text)
    (hw : Waits limits (delivered source)) :
    (ofChunks limits source).items = (closedLines text ++ openLine text).map .ok := by
  have hending := hd.ending_eq
  rw [hd.text_eq] at hs ⊢
  rcases items_cases limits source with ⟨-, -, hitems⟩ | ⟨before, error, hb, hrefused, -⟩
  · rw [hitems, ← hending, hsource, List.map_append]
    rfl
  cases hrefused with
  | lineTooLong hlong => exact absurd (hs.of_prefix (text_isPrefix hb)) hlong
  | invalidEncoding hf =>
    rw [read_of_refused hb hf, Reading.ending, hf] at hending
    cases hending
  | pendingOverflow hp => exact absurd (hw before hb) (Nat.not_le.mpr hp)

theorem eq_take_of_next (hd : Decodes (delivered source).flatten text ending) {lines : List Line}
    (hlines : ∀ n < lines.length,
      ((ofChunks limits source).asked n).next.1 = lines[n]?.map .ok) :
    lines.length ≤ (closedLines text ++ openLine text).length ∧
      lines = (closedLines text ++ openLine text).take lines.length := by
  have htake : lines = (closedLines text ++ openLine text).take lines.length := by
    refine List.ext_getElem? fun n => ?_
    rw [List.getElem?_take]
    split
    · rename_i hn
      have hline := hlines n hn
      rw [List.getElem?_eq_getElem hn] at hline ⊢
      exact (getElem?_of_next hd hline).1.symm
    · rename_i hn
      exact List.getElem?_eq_none (Nat.le_of_not_lt hn)
  have hmin := congrArg List.length htake
  rw [List.length_take] at hmin
  exact ⟨by omega, htake⟩

/-- **What is asked for one by one is charged exactly**: the first lines take the bytes through as
many line feeds, each line those of its stretch of the text and of the line feed after it. All
lines of a text that keeps to the limits take all bytes, if there is a line at all. -/
theorem next_charged (limits : LineLimits) (source : List Chunk) {text : List Char}
    {ending : Ending} (hd : Decodes (delivered source).flatten text ending) :
    let a := ofChunks limits source
    (∀ lines : List Line, (∀ n < lines.length, (a.asked n).next.1 = lines[n]?.map .ok) →
      rawTotal lines = bytesThrough lines.length (encode text)) ∧
    (∀ n line, (a.asked n).next.1 = some (.ok line) → ∃ stretch,
      (text.splitOn '\n')[n]? = some stretch ∧
      line.text = stripReturn (String.ofList (if n = 0 then withoutMark stretch else stretch)) ∧
      line.raw = utf8Size stretch + if n + 1 < (text.splitOn '\n').length then 1 else 0) ∧
    (ending = .whole → sourceError? source = none → Short limits.maxLine text →
      Waits limits (delivered source) →
      ∃ lines : List Line, (∀ n, (a.asked n).next.1 = lines[n]?.map .ok) ∧
        if text = [byteOrderMark] then lines = []
        else rawTotal lines = (delivered source).flatten.length) := by
  intro a
  refine ⟨?_, ?_, ?_⟩
  · intro lines hlines
    obtain ⟨hlen, htake⟩ := eq_take_of_next hd hlines
    have hsum := rawTotal_take hlen
    rwa [← htake] at hsum
  · intro n line hn
    exact exists_stretch (getElem?_of_next hd hn).1
  · rintro rfl hsource hs hw
    refine ⟨closedLines text ++ openLine text, fun n => ?_, ?_⟩
    · rw [next_ofChunks, items_of_whole hd hsource hs hw, List.getElem?_map]
    · split
      · rename_i hmark
        rw [hmark, lines_mark]
      · rename_i hmark
        rw [rawTotal_lines hmark, Text.utf8Size_eq_length, hd.eq_encode]

/-- A byte-order mark in two chunks, and a carriage return apart from its line feed. -/
theorem next_charged_of_four_chunks : Short 8 [byteOrderMark, 'a', '\r', '\n', 'b'] ∧
    ∃ lines : List Line, (∀ n, ((ofChunks { maxPending := 3, maxLine := 8 } [.ok [0xEF, 0xBB],
        .ok [0xBF, 0x61, 0x0D], .ok [0x0A], .ok [0x62]]).asked n).next.1 = lines[n]?.map .ok) ∧
      rawTotal lines = 7 := by
  have hs : Short 8 [byteOrderMark, 'a', '\r', '\n', 'b'] := by decide
  have hd : Decodes (delivered [.ok [0xEF, 0xBB], .ok [0xBF, 0x61, 0x0D], .ok [0x0A],
      .ok [0x62]]).flatten [byteOrderMark, 'a', '\r', '\n', 'b'] .whole := Text.decodes_read _
  obtain ⟨lines, hlines, htotal⟩ := (next_charged { maxPending := 3, maxLine := 8 } _ hd).2.2
    rfl rfl hs (waits_of_three_le (by decide) _)
  rw [if_neg (by decide)] at htotal
  exact ⟨hs, lines, hlines, htotal⟩

/-- **The items of all chunks**: lines that take no more bytes than there are, and an error if the
chunks end with one or the bytes give reason for it. -/
theorem items_ofChunks (limits : LineLimits) (chunks : List Bytes) (failure : Option StreamError) :
    ∃ lines tail,
      (ofChunks limits (chunks.map .ok ++ failure.toList.map .error)).items
        = lines.map .ok ++ tail ∧
      rawTotal lines ≤ chunks.flatten.length ∧ Ends limits chunks.flatten failure tail := by
  have hd := Text.decodes_read
    (delivered (chunks.map .ok ++ failure.toList.map .error)).flatten
  obtain ⟨lines, tail, hitems, hlines, -, hends⟩ := items_lines limits _ hd
  rw [delivered_append] at hd hlines
  rw [delivered_append, sourceError?_append] at hends
  refine ⟨lines, tail, hitems, ?_, hends⟩
  have htake := rawTotal_take hlines.length_le
  rw [← List.prefix_iff_eq_take.mp hlines] at htake
  rw [htake]
  exact Nat.le_trans (bytesThrough_le _ _) hd.encode_isPrefix.length_le

end Assembler

end LogTriage
