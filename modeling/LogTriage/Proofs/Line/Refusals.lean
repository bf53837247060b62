import LogTriage.Proofs.Line.Short

/-!
# Logs that are refused

A source of chunks may end with an error, and more chunks may follow that nobody asks for.  Its log
are the bytes of the chunks before the first error.  Unless the bytes of some first chunks are
refused, its items are those of the log; otherwise they are the short lines of these bytes, and the
error that they give reason for.

* `Took.pull_cases`  the step: a chunk is taken, or the bytes so far are refused;
* `items_cases`      the run;
* `items_lines`      the items are first lines of the log, none too long, and an error at most;
* `getElem?_of_next` a line that is asked for stands at its place in the log.
-/

namespace LogTriage
open Text (Reading Ending Decodes encode utf8Size)

/-- An error for which the bytes give reason. -/
inductive Reported (limits : LineLimits) (bs : Bytes) : LineError → Prop where
  | invalidEncoding {text : List Char} {bad : Bytes} (hd : Decodes bs text (.illFormed bad)) :
      Reported limits bs (.invalidEncoding (encode text).length bad)
  | lineTooLong {text : List Char} {ending : Ending} {length : Nat} (hd : Decodes bs text ending)
      (hs : ¬ Short limits.maxLine text) (hl : limits.maxLine < length) :
      Reported limits bs (.lineTooLong length limits.maxLine)
  | pendingOverflow {pending : Nat} (hp : limits.maxPending < pending) (hc : pending ≤ 3) :
      Reported limits bs (.pendingOverflow pending limits.maxPending)

/-- What may come after the lines of a log whose chunks end with an error, or just end. -/
inductive Ends (limits : LineLimits) (bs : Bytes) : Option StreamError → List LineItem → Prop where
  | whole : Ends limits bs none []
  /-- The last character is not complete. -/
  | cut (offset : Nat) (held : Bytes) :
      Ends limits bs none [.error (.invalidEncoding offset held)]
  | source (e : StreamError) : Ends limits bs (some e) [.error (.source e)]
  | reported {failure : Option StreamError} {error : LineError} (h : Reported limits bs error) :
      Ends limits bs failure [.error error]

theorem Ends.eq_nil_or_error {limits : LineLimits} {bs : Bytes} {failure : Option StreamError}
    {tail : List LineItem} (h : Ends limits bs failure tail) :
    tail = [] ∨ ∃ error, tail = [.error error] := by
  cases h with
  | whole => exact .inl rfl
  | cut offset held => exact .inr ⟨_, rfl⟩
  | source e => exact .inr ⟨_, rfl⟩
  | reported h => exact .inr ⟨_, rfl⟩

namespace Assembler

def delivered : List Chunk → List Bytes
  | .ok chunk :: source => chunk :: delivered source
  | .error _ :: _ => []
  | [] => []

def sourceError? : List Chunk → Option StreamError
  | .ok _ :: source => sourceError? source
  | .error e :: _ => some e
  | [] => none

theorem delivered_append (chunks : List Bytes) (failure : Option StreamError) :
    delivered (chunks.map .ok ++ failure.toList.map .error) = chunks := by
  induction chunks with
  | nil => cases failure <;> rfl
  | cons chunk chunks ih => exact congrArg (chunk :: ·) ih

theorem sourceError?_append (chunks : List Bytes) (failure : Option StreamError) :
    sourceError? (chunks.map .ok ++ failure.toList.map .error) = failure := by
  induction chunks with
  | nil => cases failure <;> rfl
  | cons chunk chunks ih => exact ih

/-- Why an assembler meets an error when it has taken `bs`. -/
inductive Refused (limits : LineLimits) (bs : Bytes) : LineError → Prop where
  | lineTooLong {length : Nat} (hs : ¬ Short limits.maxLine (Reading.read {} bs).text)
      (hl : limits.maxLine < length) : Refused limits bs (.lineTooLong length limits.maxLine)
  | invalidEncoding {bad : Bytes} (hf : (Reading.read {} bs).fault = some bad) :
      Refused limits bs (.invalidEncoding (encode (Reading.read {} bs).text).length bad)
  | pendingOverflow (hp : limits.maxPending < (Reading.read {} bs).held.length) :
      Refused limits bs (.pendingOverflow (Reading.read {} bs).held.length limits.maxPending)

variable {limits : LineLimits} {a : Assembler} {bs chunk : Bytes} {given : List Line}
  {source : List Chunk}

theorem settle_cases (x : Assembler) (held : Bytes) (fault : Option Bytes) :
    (∃ length, x.splitter.tooLong = some length ∧ x.settle held fault = x.failTooLong length) ∨
    (∃ bad, fault = some bad ∧ x.settle held fault = x.fail (.invalidEncoding x.offset bad)) ∨
    (x.limits.maxPending < held.length ∧
      x.settle held fault = x.fail (.pendingOverflow held.length x.limits.maxPending)) ∨
    (x.limits.maxLine < x.splitter.length ∧
      x.settle held fault = { x with pending := held }.failTooLong x.splitter.length) ∨
    (x.splitter.tooLong = none ∧ x.splitter.length ≤ x.limits.maxLine ∧
      held.length ≤ x.limits.maxPending ∧ fault = none ∧
      x.settle held fault = { x with pending := held }) := by
  unfold settle
  split
  · rename_i hlong
    exact .inl ⟨_, hlong, rfl⟩
  · exact .inr (.inl ⟨_, rfl, rfl⟩)
  rename_i ht
  split
  · rename_i hp
    exact .inr (.inr (.inl ⟨hp, rfl⟩))
  rename_i hp
  dsimp only
  split
  · rename_i hl
    exact .inr (.inr (.inr (.inl ⟨hl, rfl⟩)))
  · rename_i hl
    exact .inr (.inr (.inr (.inr ⟨ht, Nat.le_of_not_lt hl, Nat.le_of_not_lt hp, rfl, rfl⟩)))

namespace Took

theorem shortLines_append (h : Took limits bs given a) (chunk : Bytes) :
    shortLines limits.maxLine (Reading.read {} (bs ++ chunk)).text = given
      ++ (a.splitter.pushText (Reading.read { held := a.pending } chunk).text).lines.reverse := by
  have hl := congrArg Splitter.lines (h.pushText_append chunk)
  rw [Splitter.lines_pushText_new, Splitter.after] at hl
  rw [← List.reverse_inj, ← hl, List.reverse_append, List.reverse_reverse]

theorem fits_iff (h : Took limits bs given a) (chunk : Bytes) :
    (a.splitter.pushText (Reading.read { held := a.pending } chunk).text).Fits
      ↔ Short limits.maxLine (Reading.read {} (bs ++ chunk)).text := by
  rw [← Splitter.fits_iff_short, ← h.pushText_append]
  exact Iff.rfl

theorem items_failed (h : Took limits bs given a) {x : Assembler} {error : LineError}
    (hd : x.done = true) (hf : x.failed = some error)
    (hr : x.ready
      = (a.splitter.pushText (Reading.read { held := a.pending } chunk).text).lines.reverse) :
    given.map .ok ++ x.items
      = (shortLines limits.maxLine (Reading.read {} (bs ++ chunk)).text).map .ok
        ++ [.error error] := by
  rw [items_of_done hd, settled, hf, hr, h.shortLines_append, List.map_append, List.append_assoc]

/-- **A chunk is taken, or the bytes are refused.** -/
theorem pull_cases (h : Took limits bs given a)
    (hs : Short limits.maxLine (Reading.read {} bs).text)
    (hsrc : a.source = .ok chunk :: source) :
    (Took limits (bs ++ chunk) (given ++ a.pull.ready) a.pull.emptied ∧ a.pull.source = source ∧
        Short limits.maxLine (Reading.read {} (bs ++ chunk)).text) ∨
      ∃ error, Refused limits (bs ++ chunk) error ∧ given.map .ok ++ a.pull.items
        = (shortLines limits.maxLine (Reading.read {} (bs ++ chunk)).text).map .ok
          ++ [.error error] := by
  by_cases hc : chunk = []
  · subst hc
    obtain ⟨ht, hready, hsrc'⟩ := h.pull_nil hsrc
    rw [List.append_nil, hready, List.append_nil]
    exact .inl ⟨ht, hsrc', hs⟩
  obtain rfl : a.limits = limits := h.limits_eq
  have hfits := h.fits_iff chunk
  have hmax := h.maxLine_append chunk
  have hready : a.ready
      ++ (a.splitter.pushText (Reading.read { held := a.pending } chunk).text).lines.reverse
      = (a.splitter.pushText (Reading.read { held := a.pending } chunk).text).lines.reverse := by
    rw [h.ready_eq, List.nil_append]
  have hpull := pull_chunk hsrc hc
  rcases settle_cases (a.decoded source (Reading.read { held := a.pending } chunk))
      (Reading.read { held := a.pending } chunk).held
      (Reading.read { held := a.pending } chunk).fault with
    ⟨length, hlong, he⟩ | ⟨bad, hfault, he⟩ | ⟨hpending, he⟩ | ⟨hline, he⟩ |
      ⟨hlong, hline, -, hfault, he⟩
  · have hlt : a.limits.maxLine < length := by
      have hnew := Splitter.tooLong_pushText (s := { maxLine := a.limits.maxLine }) nofun
        (Reading.read {} (bs ++ chunk)).text length
      rw [← h.pushText_append] at hnew
      exact hnew hlong
    have hnot : ¬ Short a.limits.maxLine (Reading.read {} (bs ++ chunk)).text := by
      rw [← hfits]
      rintro ⟨hnone, -⟩
      exact absurd (hlong.symm.trans hnone) nofun
    rw [hpull, he]
    exact .inr ⟨_, .lineTooLong hnot hlt, h.items_failed (by rfl) (by rfl) (by exact hready)⟩
  · have hoffset : (a.decoded source (Reading.read { held := a.pending } chunk)).offset
        = (encode (Reading.read {} (bs ++ chunk)).text).length := by
      rw [← Text.utf8Size_eq_length, Reading.text, Text.utf8Size_reverse, h.offset_append]
      rfl
    have hwhole : (Reading.read {} (bs ++ chunk)).fault = some bad :=
      (h.fault_append chunk).trans hfault
    rw [hpull, he, hoffset]
    exact .inr ⟨_, .invalidEncoding hwhole, h.items_failed (by rfl) (by rfl) (by exact hready)⟩
  · rw [← h.held_append] at hpending
    rw [hpull, he, ← h.held_append]
    exact .inr ⟨_, .pendingOverflow hpending, h.items_failed (by rfl) (by rfl) (by exact hready)⟩
  · have hnot : ¬ Short a.limits.maxLine (Reading.read {} (bs ++ chunk)).text := by
      rw [← hfits]
      rintro ⟨-, hle⟩
      rw [hmax] at hle
      exact absurd hline (Nat.not_lt.mpr hle)
    rw [hpull, he]
    exact .inr ⟨_, .lineTooLong hnot hline, h.items_failed (by rfl) (by rfl) (by exact hready)⟩
  · have hfit : (a.splitter.pushText (Reading.read { held := a.pending } chunk).text).Fits := by
      refine ⟨hlong, ?_⟩
      rw [hmax]
      exact hline
    rw [he] at hpull
    obtain ⟨ht, hsrc'⟩ := h.of_pull hpull hfault
    exact .inl ⟨ht, hsrc', hfits.mp hfit⟩

theorem items_error (h : Took limits bs given a) {e : StreamError}
    (hsrc : a.source = .error e :: source)
    (hs : Short limits.maxLine (Reading.read {} bs).text) :
    given.map .ok ++ a.items
      = itemsOf (Reading.read {} bs).text (Reading.read {} bs).ending (some e) := by
  have hcut : Took limits bs given { a with source := [.error e] } :=
    ⟨h.limits_eq, h.done_eq, h.failed_eq, h.ready_eq, h.fault_eq, h.pending_eq, h.offset_eq,
      h.lines_eq, h.splitter_eq⟩
  have hpull : ∀ (x : Assembler) (rest : List Chunk), x.source = .error e :: rest →
      x.pull.items = x.ready.map .ok ++ [.error (.source e)] := by
    intro x rest hx
    have he : x.pull = { x with source := rest }.fail (.source e) := by simp [Assembler.pull, hx]
    rw [he, items_of_done (by rfl)]
    rfl
  have hitems : a.items = ({ a with source := [.error e] } : Assembler).items := by
    rw [items_pull h.ready_eq h.done_eq h.failed_eq,
      items_pull hcut.ready_eq hcut.done_eq hcut.failed_eq, hpull a source hsrc, hpull _ [] rfl]
  rw [hitems]
  exact hcut.items_end rfl hs

/-- **The items of a source**: those of its log, or, when the bytes of some first chunks are
refused, the short lines of these bytes and an error. -/
theorem items_cases {taken : List Bytes} (h : Took limits taken.flatten given a)
    (hs : Short limits.maxLine (Reading.read {} taken.flatten).text) :
    (Short limits.maxLine (Reading.read {} (taken ++ delivered a.source).flatten).text ∧
      (Reading.read {} (taken ++ delivered a.source).flatten).fault = none ∧
      given.map .ok ++ a.items
        = itemsOf (Reading.read {} (taken ++ delivered a.source).flatten).text
          (Reading.read {} (taken ++ delivered a.source).flatten).ending (sourceError? a.source)) ∨
    ∃ before error, before <+: taken ++ delivered a.source ∧
      Refused limits before.flatten error ∧ given.map .ok ++ a.items
        = (shortLines limits.maxLine (Reading.read {} before.flatten).text).map .ok
          ++ [.error error] := by
  -- on the chunks that are left; what has been taken moves to `taken`
  generalize hsrc : a.source = source
  induction source generalizing a taken given with
  | nil =>
    rw [delivered, List.append_nil]
    exact .inl ⟨hs, h.fault_eq, h.items_end hsrc hs⟩
  | cons chunk source ih =>
    cases chunk with
    | error e =>
      rw [delivered, List.append_nil]
      exact .inl ⟨hs, h.fault_eq, h.items_error hsrc hs⟩
    | ok chunk =>
      have hflatten : taken.flatten ++ chunk = (taken ++ [chunk]).flatten := by simp
      have hrest : taken ++ delivered (.ok chunk :: source)
          = taken ++ [chunk] ++ delivered source := by simp [delivered]
      have hcases := h.pull_cases hs hsrc
      rw [hflatten] at hcases
      rw [hrest, items_pull h.ready_eq h.done_eq h.failed_eq]
      rcases hcases with ⟨ht, hsrc', hs'⟩ | ⟨error, hrefused, hitems⟩
      · have hready : given.map .ok ++ a.pull.items
            = (given ++ a.pull.ready).map .ok ++ a.pull.emptied.items := by
          rw [items_emptied, List.map_append, List.append_assoc]
        rw [hready]
        exact ih ht hs' hsrc'
      · exact .inr ⟨_, error, List.prefix_append _ _, hrefused, hitems⟩

end Took

theorem items_cases (limits : LineLimits) (source : List Chunk) :
    (Short limits.maxLine (Reading.read {} (delivered source).flatten).text ∧
      (Reading.read {} (delivered source).flatten).fault = none ∧
      (ofChunks limits source).items = itemsOf (Reading.read {} (delivered source).flatten).text
        (Reading.read {} (delivered source).flatten).ending (sourceError? source)) ∨
    ∃ before error, before <+: delivered source ∧ Refused limits before.flatten error ∧
      (ofChunks limits source).items
        = (shortLines limits.maxLine (Reading.read {} before.flatten).text).map .ok
          ++ [.error error] := by
  have hs : Short limits.maxLine (Reading.read {} ([] : List Bytes).flatten).text := by
    rw [← Splitter.fits_iff_short]
    exact ⟨rfl, Nat.zero_le _⟩
  have htook : Took limits ([] : List Bytes).flatten [] (ofChunks limits source) :=
    took_ofChunks limits source
  exact htook.items_cases hs

/-! ## The lines of a source -/

theorem text_isPrefix {before chunks : List Bytes} (h : before <+: chunks) :
    (Reading.read {} before.flatten).text <+: (Reading.read {} chunks.flatten).text := by
  obtain ⟨rest, rfl⟩ := h
  rw [List.flatten_append, Reading.read_append]
  exact Reading.text_read _ _

theorem read_of_refused {before chunks : List Bytes} (h : before <+: chunks) {bad : Bytes}
    (hf : (Reading.read {} before.flatten).fault = some bad) :
    Reading.read {} chunks.flatten = Reading.read {} before.flatten := by
  obtain ⟨rest, rfl⟩ := h
  rw [List.flatten_append, Reading.read_append, Reading.read_of_fault hf]

theorem Refused.reported {before chunks : List Bytes} {error : LineError}
    (h : Refused limits before.flatten error) (hb : before <+: chunks) :
    Reported limits chunks.flatten error := by
  have hd := Text.decodes_read chunks.flatten
  cases h with
  | lineTooLong hs hl =>
    exact .lineTooLong hd (fun hshort => hs (hshort.of_prefix (text_isPrefix hb))) hl
  | invalidEncoding hf =>
    have hread := read_of_refused hb hf
    rw [hread, Reading.ending, hf] at hd
    exact .invalidEncoding hd
  | pendingOverflow hp => exact .pendingOverflow hp (Text.held_read (.inl rfl) [] _).length_le

theorem itemsOf_ends (limits : LineLimits) {bs : Bytes} {text : List Char} {ending : Ending}
    (hd : Decodes bs text ending) (failure : Option StreamError) :
    ∃ lines tail, itemsOf text ending failure = lines.map .ok ++ tail ∧
      lines <+: closedLines text ++ openLine text ∧ Ends limits bs failure tail := by
  have hclosed : closedLines text <+: closedLines text ++ openLine text := List.prefix_append _ _
  unfold itemsOf itemsAfter
  split
  · exact ⟨_, _, rfl, hclosed, .reported (.invalidEncoding hd)⟩
  · exact ⟨_, _, rfl, hclosed, .source _⟩
  · refine ⟨closedLines text ++ openLine text, [], ?_, List.prefix_rfl, .whole⟩
    rw [List.map_append, List.append_nil]
  · rename_i held
    refine ⟨closedLines text ++ openLine text,
      [.error (.invalidEncoding (encode text).length held)], ?_, List.prefix_rfl, .cut _ _⟩
    rw [List.map_append, List.append_assoc]

/-- **The items of a source are first lines of its log**, none of them too long, and perhaps an
error for which there is a reason. -/
theorem items_lines (limits : LineLimits) (source : List Chunk) {text : List Char}
    {ending : Ending} (hd : Decodes (delivered source).flatten text ending) :
    ∃ lines tail, (ofChunks limits source).items = lines.map .ok ++ tail ∧
      lines <+: closedLines text ++ openLine text ∧
      (∀ i p, i < lines.length → (pieces text)[i]? = some p → utf8Size p.text ≤ limits.maxLine) ∧
      Ends limits (delivered source).flatten (sourceError? source) tail := by
  rcases items_cases limits source with ⟨hs, -, hitems⟩ | ⟨before, error, hb, hrefused, hitems⟩
  · rw [← hd.text_eq] at hs
    rw [← hd.text_eq, ← hd.ending_eq] at hitems
    obtain ⟨lines, tail, heq, hlines, hends⟩ := itemsOf_ends limits hd (sourceError? source)
    refine ⟨lines, tail, hitems.trans heq, hlines, ?_, hends⟩
    intro i p _ hp
    exact hs p (List.mem_of_getElem? hp)
  · have hshort := shortLines_mono limits.maxLine (text_isPrefix hb)
    rw [← hd.text_eq] at hshort
    refine ⟨_, _, hitems, ?_, ?_, .reported (hrefused.reported hb)⟩
    · exact hshort.trans ((shortLines_isPrefix _ _).trans (List.prefix_append _ _))
    · intro i p hi hp
      exact le_of_lt_shortLines (Nat.lt_of_lt_of_le hi hshort.length_le) hp

theorem next_ofChunks (limits : LineLimits) (source : List Chunk) (n : Nat) :
    ((ofChunks limits source).asked n).next.1 = (ofChunks limits source).items[n]? :=
  next_asked (fun hf => by cases hf) n

theorem getElem?_of_next {text : List Char} {ending : Ending}
    (hd : Decodes (delivered source).flatten text ending) {n : Nat} {line : Line}
    (h : ((ofChunks limits source).asked n).next.1 = some (.ok line)) :
    (closedLines text ++ openLine text)[n]? = some line ∧
      ∀ p, (pieces text)[n]? = some p → utf8Size p.text ≤ limits.maxLine := by
  obtain ⟨lines, tail, hitems, ⟨rest, hrest⟩, hfit, hends⟩ := items_lines limits source hd
  rw [next_ofChunks, hitems] at h
  by_cases hn : n < (lines.map (.ok : Line → LineItem)).length
  · rw [List.getElem?_append_left hn, List.getElem?_map] at h
    obtain ⟨_, hline, heq⟩ := Option.map_eq_some_iff.mp h
    rw [List.length_map] at hn
    rw [Except.ok.inj heq] at hline
    rw [← hrest, List.getElem?_append_left hn]
    exact ⟨hline, fun p hp => hfit n p hn hp⟩
  · rw [List.getElem?_append_right (Nat.le_of_not_lt hn)] at h
    rcases hends.eq_nil_or_error with rfl | ⟨error, rfl⟩
    · cases h
    · exact absurd (List.mem_of_getElem? h) (by simp)

end Assembler

end LogTriage
