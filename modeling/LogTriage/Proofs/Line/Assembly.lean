import LogTriage.Proofs.Line.Items
import LogTriage.Proofs.Line.Pieces

/-!
# What an assembler gives out

The items of a log are told by its bytes alone, however they are cut into chunks: `itemsOf` says
what they are.  `Took` ties an assembler to the bytes of the chunks that it has taken and to the
lines that it has given out; every chunk keeps it.

* `Took.pull`         the step: a chunk is taken, and its lines are ready;
* `Took.items_eq`     the run: the lines given out and all items to come are those of the log;
* `items_eq_itemsOf`  the items of all chunks;
* `next_eq_itemsOf`   the items that are asked for one by one.
-/

namespace LogTriage
open Text (Reading Ending Decodes encode utf8Size)

/-- What comes after the closed lines of a log that is `text` and ends so; `failure` is the error
that its chunks end with. -/
def itemsAfter (text : List Char) (ending : Ending) (failure : Option StreamError) :
    List LineItem :=
  match ending, failure with
  | .illFormed bytes, _ => [.error (.invalidEncoding (encode text).length bytes)]
  | _, some e => [.error (.source e)]
  | .whole, none => (openLine text).map .ok
  | .cut held, none =>
    (openLine text).map .ok ++ [.error (.invalidEncoding (encode text).length held)]

def itemsOf (text : List Char) (ending : Ending) (failure : Option StreamError) : List LineItem :=
  (closedLines text).map .ok ++ itemsAfter text ending failure

namespace Splitter

theorem fits_of_short {n : Nat} {text more : List Char} (h : Short n (text ++ more)) :
    (({ maxLine := n } : Splitter).pushText text).Fits := by
  obtain ⟨ht, _, hl⟩ := pushText_new h
  have hmem : lastPiece (text ++ more) ∈ pieces (text ++ more) := by
    rw [lastPiece, List.getLastD_eq_getLast?]
    cases hp : (pieces (text ++ more)).getLast? with
    | none =>
      rw [List.getLast?_eq_none_iff] at hp
      exact absurd hp (pieces_ne_nil _)
    | some p => exact List.mem_of_getLast? hp
  have hfit : (({ maxLine := n } : Splitter).pushText (text ++ more)).Fits := by
    refine ⟨ht, ?_⟩
    rw [length_eq, maxLine_pushText]
    exact Nat.le_trans (Nat.le_of_eq (congrArg (utf8Size ·.text) hl)) (h _ hmem)
  rw [pushText_append] at hfit
  exact fits_of_pushText hfit

end Splitter

namespace Assembler
variable {limits : LineLimits} {a : Assembler} {bs chunk : Bytes} {given : List Line}
  {source : List Chunk} {failure : Option StreamError}

/-- The assembler has taken `bs`, without a fault, and has given out `given`. -/
structure Took (limits : LineLimits) (bs : Bytes) (given : List Line) (a : Assembler) : Prop where
  limits_eq : a.limits = limits
  done_eq : a.done = false
  failed_eq : a.failed = none
  ready_eq : a.ready = []
  fault_eq : (Reading.read {} bs).fault = none
  pending_eq : a.pending = (Reading.read {} bs).held
  offset_eq : a.offset = utf8Size (Reading.read {} bs).chars
  lines_eq : a.splitter.lines = []
  splitter_eq : a.splitter.after given.reverse
    = ({ maxLine := limits.maxLine } : Splitter).pushText (Reading.read {} bs).text

theorem took_ofChunks (limits : LineLimits) (source : List Chunk) :
    Took limits [] [] (ofChunks limits source) :=
  ⟨rfl, rfl, rfl, rfl, rfl, rfl, rfl, rfl, rfl⟩

def decoded (a : Assembler) (source : List Chunk) (r : Reading) : Assembler :=
  { a with
    source
    pending := []
    offset := a.offset + utf8Size r.chars
    splitter := a.splitter.pushText r.text }

theorem pull_chunk (hs : a.source = .ok chunk :: source) (hc : chunk ≠ []) :
    a.pull = ((a.decoded source (Reading.read { held := a.pending } chunk)).settle
      (Reading.read { held := a.pending } chunk).held
      (Reading.read { held := a.pending } chunk).fault).handOver := by
  simp only [pull, hs, pushChunk, List.isEmpty_iff, if_neg hc, decoded]

theorem settle_whole {held : Bytes} (hf : a.splitter.Fits)
    (hm : a.splitter.maxLine = a.limits.maxLine) (hh : held.length ≤ a.limits.maxPending) :
    a.settle held none = { a with pending := held } := by
  obtain ⟨ht, hl⟩ := hf
  rw [hm] at hl
  simp only [settle, ht, if_neg (Nat.not_lt.mpr hh), if_neg (Nat.not_lt.mpr hl)]

theorem settle_fault {held bad : Bytes} (hf : a.splitter.Fits) :
    a.settle held (some bad) = a.fail (.invalidEncoding a.offset bad) := by
  simp only [settle, hf.1]

/-! ## The end of the source -/

theorem ready_finish (hr : a.ready = []) (hl : a.splitter.lines = []) : a.finish.ready
    = if a.splitter.last.text.isEmpty then [] else [a.splitter.last.line 0] := by
  have hh : a.finish.ready = (if a.splitter.unfinished.isEmpty then a.splitter
      else a.splitter.close 0).lines.reverse := by
    by_cases hp : a.pending = []
    · simp [finish, handOver, hp, hr]
    · simp [finish, handOver, hp, hr]
  have he : a.splitter.unfinished.isEmpty = a.splitter.last.text.isEmpty := by
    rw [Splitter.last, Bool.eq_iff_iff, String.isEmpty_iff, List.isEmpty_iff,
      String.toList_eq_nil_iff]
  rw [hh, ← he]
  by_cases hu : a.splitter.unfinished.isEmpty = true
  · rw [if_pos hu, if_pos hu, hl]
    rfl
  · rw [if_neg hu, if_neg hu, Splitter.lines_close, hl]
    rfl

theorem failed_finish (hf : a.failed = none) : a.finish.failed
    = if a.pending.isEmpty then none else some (.invalidEncoding a.offset a.pending) := by
  by_cases hp : a.pending = []
  · simp [finish, handOver, hp, hf]
  · simp [finish, handOver, hp]

theorem items_finish (hr : a.ready = []) (hl : a.splitter.lines = []) (hf : a.failed = none) :
    a.finish.items = (if a.splitter.last.text.isEmpty then [] else [a.splitter.last.line 0]).map .ok
      ++ if a.pending.isEmpty then [] else [.error (.invalidEncoding a.offset a.pending)] := by
  rw [items_of_done (done_finish a), settled, ready_finish hr hl, failed_finish hf]
  by_cases hp : a.pending.isEmpty = true
  · rw [if_pos hp, if_pos hp]
  · rw [if_neg hp, if_neg hp]

/-! ## Chunk by chunk -/

namespace Took

theorem read_append (h : Took limits bs given a) (more : Bytes) :
    Reading.read {} (bs ++ more) = { Reading.read { held := a.pending } more with
      chars := (Reading.read { held := a.pending } more).chars
        ++ (Reading.read {} bs).chars } := by
  have he : Reading.read {} bs
      = { chars := [] ++ (Reading.read {} bs).chars, held := a.pending } := by
    rw [h.pending_eq, List.nil_append]
    exact congrArg (Reading.mk _ _) h.fault_eq
  rw [Reading.read_append, he, Reading.read_chars]
  rfl

theorem fault_append (h : Took limits bs given a) (more : Bytes) :
    (Reading.read {} (bs ++ more)).fault = (Reading.read { held := a.pending } more).fault := by
  rw [h.read_append]

theorem held_append (h : Took limits bs given a) (more : Bytes) :
    (Reading.read {} (bs ++ more)).held = (Reading.read { held := a.pending } more).held := by
  rw [h.read_append]

theorem text_append (h : Took limits bs given a) (more : Bytes) :
    (Reading.read {} (bs ++ more)).text
      = (Reading.read {} bs).text ++ (Reading.read { held := a.pending } more).text := by
  rw [h.read_append, Reading.text, List.reverse_append]
  rfl

theorem offset_append (h : Took limits bs given a) (more : Bytes) :
    utf8Size (Reading.read {} (bs ++ more)).chars
      = a.offset + utf8Size (Reading.read { held := a.pending } more).chars := by
  rw [h.read_append, Text.utf8Size_append, h.offset_eq, Nat.add_comm]

theorem pushText_append (h : Took limits bs given a) (more : Bytes) :
    (a.splitter.pushText (Reading.read { held := a.pending } more).text).after given.reverse
      = ({ maxLine := limits.maxLine } : Splitter).pushText (Reading.read {} (bs ++ more)).text := by
  rw [← Splitter.pushText_after, h.splitter_eq, h.text_append, Splitter.pushText_append]

theorem fits_append (h : Took limits bs given a) {more : Bytes} (rest : List Char)
    (hs : Short limits.maxLine ((Reading.read {} (bs ++ more)).text ++ rest)) :
    (a.splitter.pushText (Reading.read { held := a.pending } more).text).Fits := by
  have hf := Splitter.fits_of_short hs
  rw [← h.pushText_append] at hf
  exact hf

theorem given_eq (h : Took limits bs given a)
    (hs : Short limits.maxLine (Reading.read {} bs).text) :
    given = closedLines (Reading.read {} bs).text := by
  have hl := (Splitter.pushText_new hs).2.1
  rw [← h.splitter_eq, Splitter.after, h.lines_eq, List.nil_append] at hl
  exact List.reverse_inj.mp hl

theorem last_eq (h : Took limits bs given a)
    (hs : Short limits.maxLine (Reading.read {} bs).text) :
    a.splitter.last = lastPiece (Reading.read {} bs).text := by
  have hl := (Splitter.pushText_new hs).2.2
  rw [← h.splitter_eq] at hl
  exact hl

theorem maxLine_append (h : Took limits bs given a) (more : Bytes) :
    (a.splitter.pushText (Reading.read { held := a.pending } more).text).maxLine
      = limits.maxLine := by
  have hm := congrArg Splitter.maxLine (h.pushText_append more)
  rwa [Splitter.maxLine_pushText] at hm

theorem pull_nil (h : Took limits bs given a) (hsrc : a.source = .ok [] :: source) :
    Took limits bs given a.pull.emptied ∧ a.pull.ready = [] ∧ a.pull.source = source := by
  have he : a.pull = { a with source } := by simp [Assembler.pull, hsrc, pushChunk]
  rw [he]
  exact ⟨⟨h.limits_eq, h.done_eq, h.failed_eq, rfl, h.fault_eq, h.pending_eq, h.offset_eq,
    h.lines_eq, h.splitter_eq⟩, h.ready_eq, rfl⟩

theorem of_pull (h : Took limits bs given a)
    (he : a.pull = { a.decoded source (Reading.read { held := a.pending } chunk) with
      pending := (Reading.read { held := a.pending } chunk).held }.handOver)
    (hf : (Reading.read { held := a.pending } chunk).fault = none) :
    Took limits (bs ++ chunk) (given ++ a.pull.ready) a.pull.emptied ∧ a.pull.source = source := by
  have hsplit := h.pushText_append chunk
  rw [he]
  refine ⟨⟨h.limits_eq, h.done_eq, h.failed_eq, rfl, (h.fault_append chunk).trans hf,
    (h.held_append chunk).symm, (h.offset_append chunk).symm, rfl, ?_⟩, rfl⟩
  rw [← hsplit]
  simp [handOver, emptied, decoded, Splitter.after, h.ready_eq]

theorem pull (h : Took limits bs given a) (hp : 3 ≤ limits.maxPending)
    (hsrc : a.source = .ok chunk :: source) {rest : List Char}
    (hs : Short limits.maxLine ((Reading.read {} (bs ++ chunk)).text ++ rest))
    (hf : (Reading.read {} (bs ++ chunk)).fault = none) :
    Took limits (bs ++ chunk) (given ++ a.pull.ready) a.pull.emptied ∧ a.pull.source = source := by
  by_cases hc : chunk = []
  · subst hc
    obtain ⟨ht, hready, hsrc'⟩ := h.pull_nil hsrc
    rw [List.append_nil, hready, List.append_nil]
    exact ⟨ht, hsrc'⟩
  have hfit := h.fits_append rest hs
  have hm : (a.splitter.pushText (Reading.read { held := a.pending } chunk).text).maxLine
      = a.limits.maxLine := (h.maxLine_append chunk).trans (congrArg _ h.limits_eq.symm)
  have hheld : (Reading.read { held := a.pending } chunk).held.length ≤ a.limits.maxPending := by
    rw [← h.held_append, h.limits_eq]
    exact Nat.le_trans (Text.held_read (.inl rfl) [] _).length_le hp
  have he := pull_chunk hsrc hc
  rw [h.fault_append] at hf
  rw [hf, settle_whole (a := a.decoded source _) hfit hm hheld] at he
  exact h.of_pull he hf

theorem pull_fault (h : Took limits bs given a)
    (hsrc : a.source = .ok chunk :: source) {bad : Bytes}
    (hs : Short limits.maxLine (Reading.read {} (bs ++ chunk)).text)
    (hf : (Reading.read {} (bs ++ chunk)).fault = some bad) :
    given.map .ok ++ a.pull.items = (closedLines (Reading.read {} (bs ++ chunk)).text).map .ok
      ++ [.error (.invalidEncoding (encode (Reading.read {} (bs ++ chunk)).text).length bad)] := by
  have hc : chunk ≠ [] := by
    rintro rfl
    rw [List.append_nil, h.fault_eq] at hf
    cases hf
  have hfit := h.fits_append [] (by rwa [List.append_nil])
  have he := pull_chunk hsrc hc
  rw [← h.fault_append, hf, settle_fault (a := a.decoded source _) hfit] at he
  have hoff : (encode (Reading.read {} (bs ++ chunk)).text).length
      = a.offset + utf8Size (Reading.read { held := a.pending } chunk).chars := by
    rw [← Text.utf8Size_eq_length, Reading.text, Text.utf8Size_reverse, h.offset_append]
  have hl := (Splitter.pushText_new hs).2.1
  rw [← h.pushText_append, Splitter.after] at hl
  have hlines : closedLines (Reading.read {} (bs ++ chunk)).text = given
      ++ (a.splitter.pushText (Reading.read { held := a.pending } chunk).text).lines.reverse := by
    rw [← List.reverse_inj, ← hl, List.reverse_append, List.reverse_reverse]
  rw [he, items_of_done (by rfl), hlines, hoff, List.map_append, List.append_assoc]
  simp [settled, handOver, fail, decoded, h.ready_eq]

theorem items_end (h : Took limits bs given a)
    (hsrc : a.source = failure.toList.map .error)
    (hs : Short limits.maxLine (Reading.read {} bs).text) :
    given.map .ok ++ a.items
      = itemsOf (Reading.read {} bs).text (Reading.read {} bs).ending failure := by
  have hg := h.given_eq hs
  have hl := h.last_eq hs
  rw [items_pull h.ready_eq h.done_eq h.failed_eq]
  cases failure with
  | some e =>
    have he : a.pull = { a with source := [] }.fail (.source e) := by
      simp [Assembler.pull, hsrc]
    rw [he, items_of_done (by rfl), settled, hg]
    simp only [fail, h.ready_eq, Reading.ending, h.fault_eq]
    by_cases hp : (Reading.read {} bs).held.isEmpty = true
    · rw [if_pos hp]
      rfl
    · rw [if_neg hp]
      rfl
  | none =>
    have he : a.pull = a.finish := by simp [Assembler.pull, hsrc]
    rw [he, items_finish h.ready_eq h.lines_eq h.failed_eq, hg, hl, h.pending_eq, h.offset_eq,
      Reading.ending, h.fault_eq]
    by_cases hp : (Reading.read {} bs).held.isEmpty = true
    · simp only [if_pos hp, List.append_nil, itemsOf, itemsAfter, openLine]
    · simp only [if_neg hp, itemsOf, itemsAfter, openLine, ← Text.utf8Size_eq_length,
        Reading.text, Text.utf8Size_reverse]

/-- **The lines that have been given out and the items to come are those of the log.** -/
theorem items_eq (h : Took limits bs given a) (hp : 3 ≤ limits.maxPending) {chunks : List Bytes}
    (hsrc : a.source = chunks.map .ok ++ failure.toList.map .error)
    (hs : Short limits.maxLine (Reading.read {} (bs ++ chunks.flatten)).text) :
    given.map .ok ++ a.items = itemsOf (Reading.read {} (bs ++ chunks.flatten)).text
      (Reading.read {} (bs ++ chunks.flatten)).ending failure := by
  -- on the chunks that are left; what has been taken moves from `chunks` to `bs`
  induction chunks generalizing a bs given with
  | nil =>
    rw [List.flatten_nil, List.append_nil] at hs ⊢
    exact h.items_end hsrc hs
  | cons chunk chunks ih =>
    rw [List.flatten_cons, ← List.append_assoc] at hs ⊢
    cases hf : (Reading.read {} (bs ++ chunk)).fault with
    | some bad =>
      have he : Reading.read {} (bs ++ chunk ++ chunks.flatten)
          = Reading.read {} (bs ++ chunk) := by
        rw [Reading.read_append, Reading.read_of_fault hf]
      rw [he] at hs ⊢
      rw [items_pull h.ready_eq h.done_eq h.failed_eq, h.pull_fault hsrc hs hf, Reading.ending, hf]
      rfl
    | none =>
      obtain ⟨rest, hrest⟩ := (Reading.read {} (bs ++ chunk)).text_read chunks.flatten
      rw [← Reading.read_append] at hrest
      obtain ⟨ht, hsrc'⟩ := h.pull hp hsrc (hrest ▸ hs) hf
      rw [← ih ht hsrc' hs, items_pull h.ready_eq h.done_eq h.failed_eq, items_emptied,
        List.map_append, List.append_assoc]

end Took

/-! ## All chunks -/

/-- **The items are those of the log, however it is cut.** -/
theorem items_eq_itemsOf (failure : Option StreamError) {chunks : List Bytes} {text : List Char}
    {ending : Ending} (hp : 3 ≤ limits.maxPending) (hd : Decodes chunks.flatten text ending)
    (hs : Short limits.maxLine text) :
    (ofChunks limits (chunks.map .ok ++ failure.toList.map .error)).items
      = itemsOf text ending failure := by
  rw [hd.text_eq] at hs ⊢
  rw [hd.ending_eq]
  exact (took_ofChunks limits _).items_eq hp rfl hs

theorem not_pendingOverflow_mem_itemsOf (text : List Char) (ending : Ending)
    (failure : Option StreamError) (pending limit : Nat) :
    (.error (.pendingOverflow pending limit) : LineItem) ∉ itemsOf text ending failure := by
  unfold itemsOf itemsAfter
  split <;> simp

/-- **What is asked for one by one are the items of the log, and nothing after them.**  So it does
not matter how the log is cut, and too many bytes are never held. -/
theorem next_eq_itemsOf (limits : LineLimits) (hp : 3 ≤ limits.maxPending) (chunks : List Bytes)
    {text : List Char} {ending : Ending} (hd : Decodes chunks.flatten text ending)
    (hs : Short limits.maxLine text) :
    (∀ n, ((ofChunks limits (chunks.map .ok)).asked n).next.1 = (itemsOf text ending none)[n]?) ∧
      (∀ chunks' : List Bytes, chunks'.flatten = chunks.flatten →
        ∀ n, ((ofChunks limits (chunks'.map .ok)).asked n).next.1
          = ((ofChunks limits (chunks.map .ok)).asked n).next.1) ∧
      ∀ n pending limit, ((ofChunks limits (chunks.map .ok)).asked n).next.1
        ≠ some (.error (.pendingOverflow pending limit)) := by
  have hnext : ∀ chunks' : List Bytes, chunks'.flatten = chunks.flatten → ∀ n,
      ((ofChunks limits (chunks'.map .ok)).asked n).next.1 = (itemsOf text ending none)[n]? := by
    intro chunks' hc n
    have h := items_eq_itemsOf none hp (hc ▸ hd) hs
    rw [Option.toList_none, List.map_nil, List.append_nil] at h
    rw [next_asked (fun h => by cases h), h]
  refine ⟨hnext chunks rfl, fun chunks' hc n => ?_, fun n pending limit h => ?_⟩
  · rw [hnext chunks' hc, hnext chunks rfl]
  · rw [hnext chunks rfl] at h
    exact not_pendingOverflow_mem_itemsOf _ _ _ _ _ (List.mem_of_getElem? h)

/-- A carriage return, a line feed and a character of three bytes, each cut off from what belongs
to it, and a byte that nothing can begin with. -/
theorem next_of_three_chunks :
    Short 8 ['a', '\r', '\n', '€'] ∧ ∀ n,
      ((ofChunks { maxPending := 3, maxLine := 8 }
        [.ok [0x61, 0x0D], .ok [0x0A, 0xE2, 0x82], .ok [0xAC, 0x80]]).asked n).next.1
      = ([.ok ⟨"a", 3⟩, .error (.invalidEncoding 6 [0x80])] : List LineItem)[n]? := by
  have hs : Short 8 ['a', '\r', '\n', '€'] := by decide
  refine ⟨hs, ?_⟩
  have hd : Decodes [0x61, 0x0D, 0x0A, 0xE2, 0x82, 0xAC, 0x80] ['a', '\r', '\n', '€']
      (.illFormed [0x80]) := Text.decodes_read _
  exact (next_eq_itemsOf { maxPending := 3, maxLine := 8 } (by decide)
    [[0x61, 0x0D], [0x0A, 0xE2, 0x82], [0xAC, 0x80]] hd hs).1

end Assembler

end LogTriage
