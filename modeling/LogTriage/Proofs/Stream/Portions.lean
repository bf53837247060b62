import LogTriage.Proofs.Stream.Chunks
import LogTriage.Proofs.Stream.Unpacking

/-!
# Packed reads, portion by portion

An unpacker lets its decoder go through the reads, and only decides how many portions are done
before a chunk is given out.  `Awaits` tells it by the portions that are still to come.  Every step
does the first of them, and every chunk takes the first bytes of what is then due.

* `step_digests`       a step does the next portion;
* `Awaits.fill`        portions are done until a chunk is full or the read is used up;
* `nextChunk_pulled`   the next chunk, the end, or the failure of a read;
* `yields_unpacker`    so that a packed log is read in whole chunks.
-/

namespace LogTriage
open Portion (allBytes allOutput drops)

namespace Unpacker
variable {σ : Type} {u : Unpacker σ} {n : Nat} {parts : List Bytes} {failure : Option String}
  {portions : List Portion} {ending : Bytes}

/-- What is to come of an unpacker that goes on with the reads `parts`, after which a read may fail:
these portions, and at last `ending`, unless the end has come already. -/
inductive Awaits (u : Unpacker σ) :
    List Bytes → Option String → List Portion → Bytes → Prop where
  | going {parts : List Bytes} {failure : Option String} {now : List Portion}
      {later : List (List Portion)} {s last : σ} (hc : u.closed = false)
      (hnow : u.decoder.Digests u.state u.input now s)
      (hlater : u.decoder.Session s parts later last) :
      Awaits u parts failure (now ++ later.flatten) (u.decoder.closing failure last)
  | closed {ending : Bytes} (hc : u.closed = true) (hi : u.input = []) : Awaits u [] none [] ending

theorem awaits_ofDecoder {d : StepDecoder σ} {sessions : List (List Portion)} {last : σ}
    (h : d.Session d.start parts sessions last) (failure : Option String) :
    Awaits (ofDecoder d) parts failure sessions.flatten (d.closing failure last) := by
  have hnow : (ofDecoder d).decoder.Digests (ofDecoder d).state (ofDecoder d).input [] d.start :=
    .ended _
  exact .going rfl hnow h

def due (u : Unpacker σ) (portions : List Portion) (ending : Bytes) : Bytes :=
  u.output.bytes ++ allOutput portions ++ if u.closed then [] else ending

structure Done (u u' : Unpacker σ) (done : List Portion) : Prop where
  decoder : u'.decoder = u.decoder
  output : u'.output.bytes = u.output.bytes ++ allOutput done
  skipped : u'.skipped = u.skipped + drops done
  input : u.input = allBytes done ++ u'.input
  closed : u'.closed = u.closed

theorem done_nil (u : Unpacker σ) : Done u u [] :=
  ⟨rfl, (List.append_nil _).symm, rfl, rfl, rfl⟩

theorem Done.trans {u₁ u₂ : Unpacker σ} {done more : List Portion} (h : Done u u₁ done)
    (h₁ : Done u₁ u₂ more) : Done u u₂ (done ++ more) where
  decoder := h₁.decoder.trans h.decoder
  output := by rw [h₁.output, h.output, Portion.allOutput_append, List.append_assoc]
  skipped := by rw [h₁.skipped, h.skipped, Portion.drops_append, Nat.add_assoc]
  input := by rw [h.input, h₁.input, Portion.allBytes_append, List.append_assoc]
  closed := h₁.closed.trans h.closed

/-! ## Steps -/

theorem step_refused {output : Bytes}
    (h : u.decoder.Refuses u.state (u.input.take stepSize) output) : u.step = u.drop output := by
  rcases h with h | ⟨s, h⟩
  · rw [step, h]
  · rw [step, h]

theorem step_taken {output : Bytes} {count : Nat} {s : σ}
    (h : u.decoder.offer u.state (u.input.take stepSize) = .taken (count + 1) output s) :
    u.step = { u with
      state := s, input := u.input.drop (count + 1), output := u.output.push output } := by
  rw [step, h]

theorem step_digests {s : σ} (hi : u.input ≠ [])
    (h : u.decoder.Digests u.state u.input portions s) :
    ∃ p rest, portions = p :: rest ∧ p.bytes ≠ [] ∧ Done u u.step [p] ∧
      u.decoder.Digests u.step.state u.step.input rest s := by
  generalize hbs : u.input = bs at h
  generalize hs : u.state = s₀ at h
  cases h with
  | ended s => exact absurd hbs hi
  | @taken _ s' _ _ output count rest' hne hpos hoffer rest =>
    subst hbs hs
    obtain ⟨count, rfl⟩ : ∃ c, count = c + 1 := ⟨count - 1, by omega⟩
    have htaken : u.input.take (count + 1) ≠ [] := by
      simp only [ne_eq, List.take_eq_nil_iff, hi, or_false, Nat.succ_ne_zero, not_false_eq_true]
    refine ⟨_, rest', rfl, htaken, ?_, ?_⟩
    · rw [step_taken hoffer]
      refine ⟨rfl, ?_, rfl, ?_, rfl⟩
      · simp only [Outbox.bytes_push, allOutput, List.flatMap_singleton, Portion.output]
      · simp only [allBytes, List.flatMap_singleton, Portion.bytes, List.take_append_drop]
    · rw [step_taken hoffer]
      exact rest
  | @refused _ _ output hne hoffer =>
    subst hbs hs
    refine ⟨_, [], rfl, hi, ?_, ?_⟩
    · rw [step_refused hoffer]
      refine ⟨rfl, ?_, rfl, ?_, rfl⟩
      · simp only [drop, Outbox.bytes_push, allOutput, List.flatMap_singleton, Portion.output]
      · simp only [drop, allBytes, List.flatMap_singleton, Portion.bytes, List.append_nil]
    · rw [step_refused hoffer]
      exact .ended _

theorem Awaits.step (h : Awaits u parts failure portions ending) (hi : u.input ≠ []) :
    ∃ p rest, portions = p :: rest ∧ p.bytes ≠ [] ∧ Done u u.step [p] ∧
      Awaits u.step parts failure rest ending := by
  cases h with
  | closed hc hi' => exact absurd hi' hi
  | going hc hnow hlater =>
    obtain ⟨p, rest, rfl, hne, hdone, hrest⟩ := step_digests hi hnow
    rw [← hdone.decoder] at hrest hlater ⊢
    exact ⟨p, _, List.cons_append, hne, hdone, .going (hdone.closed.trans hc) hrest hlater⟩

theorem fillGo_keeps {P : Unpacker σ → Prop}
    (hstep : ∀ u, P u → u.input ≠ [] → P u.step ∧ u.step.input.length < u.input.length)
    (h : P u) {rounds : Nat} (hr : u.input.length ≤ rounds) : P (u.fillGo n rounds) ∧
      (n ≤ (u.fillGo n rounds).output.size ∨ (u.fillGo n rounds).input = []) := by
  induction rounds generalizing u with
  | zero => exact ⟨h, .inr (List.length_eq_zero_iff.mp (Nat.le_zero.mp hr))⟩
  | succ rounds ih =>
    rw [Unpacker.fillGo]
    split
    · rename_i hstop
      rw [Bool.or_eq_true, List.isEmpty_iff, decide_eq_true_iff] at hstop
      exact ⟨h, hstop.symm⟩
    · rename_i hgo
      rw [Bool.or_eq_true, List.isEmpty_iff, decide_eq_true_iff, not_or] at hgo
      obtain ⟨hnext, hlt⟩ := hstep u h hgo.1
      exact ih hnext (by omega)

theorem Awaits.fill (h : Awaits u parts failure portions ending) (n : Nat) :
    (∃ done rest, portions = done ++ rest ∧ Done u (u.fill n) done ∧
      Awaits (u.fill n) parts failure rest ending) ∧
      (n ≤ (u.fill n).output.size ∨ (u.fill n).input = []) := by
  refine fillGo_keeps (P := fun u' => ∃ done rest, portions = done ++ rest ∧ Done u u' done ∧
    Awaits u' parts failure rest ending) (fun u' hu' hi => ?_) ⟨[], portions, rfl, done_nil u, h⟩
    (Nat.le_refl u.input.length)
  obtain ⟨done, rest, rfl, hdone, hawaits⟩ := hu'
  obtain ⟨p, rest, rfl, hne, hstep, hnext⟩ := hawaits.step hi
  refine ⟨⟨done ++ [p], rest, ?_, hdone.trans hstep, hnext⟩, ?_⟩
  · rw [List.append_assoc, List.singleton_append]
  · have hp := List.length_pos_iff.mpr hne
    rw [hstep.input, List.length_append, allBytes, List.flatMap_singleton]
    omega

theorem length_step (hi : u.input ≠ []) : u.step.input.length < u.input.length := by
  obtain ⟨portions, last, h⟩ := u.decoder.exists_digests u.state u.input
  obtain ⟨p, rest, -, hne, hstep, -⟩ := step_digests hi h
  have hp := List.length_pos_iff.mpr hne
  rw [hstep.input, List.length_append, allBytes, List.flatMap_singleton]
  omega

theorem fillGo_of_input_nil (hi : u.input = []) (rounds : Nat) : u.fillGo n rounds = u := by
  cases rounds with
  | zero => rfl
  | succ rounds => rw [fillGo, hi, List.isEmpty_nil, Bool.true_or, if_pos rfl]

theorem fillGo_eq {rounds rounds' : Nat} (h : u.input.length ≤ rounds)
    (h' : u.input.length ≤ rounds') : u.fillGo n rounds = u.fillGo n rounds' := by
  induction rounds generalizing rounds' u with
  | zero =>
    have hi := List.length_eq_zero_iff.mp (Nat.le_zero.mp h)
    rw [fillGo_of_input_nil hi, fillGo_of_input_nil hi]
  | succ rounds ih =>
    by_cases hi : u.input = []
    · rw [fillGo_of_input_nil hi, fillGo_of_input_nil hi]
    · have hlt := length_step hi
      obtain ⟨rounds', rfl⟩ : ∃ r, rounds' = r + 1 := ⟨rounds' - 1, by omega⟩
      rw [fillGo, fillGo]
      split
      · rfl
      · have hle : u.step.input.length ≤ rounds := by omega
        have hle' : u.step.input.length ≤ rounds' := by omega
        exact ih hle hle'

/-- **Steps are taken until a chunk is full or the read is used up**, and each of them uses up some
of it, so that they come to an end. -/
theorem fill_eq (u : Unpacker σ) (n : Nat) :
    u.fill n = if u.input = [] ∨ n ≤ u.output.size then u else u.step.fill n := by
  have hstop : (u.input.isEmpty || decide (n ≤ u.output.size)) = true
      ↔ u.input = [] ∨ n ≤ u.output.size := by
    rw [Bool.or_eq_true, List.isEmpty_iff, decide_eq_true_iff]
  have hrounds : u.fill n = u.fillGo n (u.input.length + 1) :=
    fillGo_eq (Nat.le_refl _) (Nat.le_succ _)
  rw [hrounds, fillGo]
  simp only [hstop]
  by_cases hi : u.input = []
  · rw [if_pos (.inl hi), if_pos (.inl hi)]
  · have hrest : u.step.fillGo n u.input.length = u.step.fill n :=
      fillGo_eq (Nat.le_of_lt (length_step hi)) (Nat.le_refl _)
    rw [hrest]

/-! ## Chunks -/

theorem nextChunk_full (h : n ≤ (u.fill n).output.size) (reads : List ReadResult) :
    u.nextChunk n reads
      = (some (.ok ((u.fill n).takeChunk n).1), reads, ((u.fill n).takeChunk n).2) := by
  unfold nextChunk
  exact if_pos h

theorem nextChunk_end (h : ¬ n ≤ (u.fill n).output.size) :
    u.nextChunk n [] = (if ((u.fill n).close.takeChunk n).1.isEmpty then none
      else some (.ok ((u.fill n).close.takeChunk n).1), [], ((u.fill n).close.takeChunk n).2) := by
  unfold nextChunk
  exact if_neg h

theorem nextChunk_cons (h : ¬ n ≤ (u.fill n).output.size) (part : Bytes)
    (reads : List ReadResult) : u.nextChunk n (.ok part :: reads)
      = ({ u.fill n with input := part } : Unpacker σ).nextChunk n reads := by
  rw [nextChunk]
  exact if_neg h

theorem Awaits.takeChunk (h : Awaits u parts failure portions ending) (n : Nat) :
    Awaits (u.takeChunk n).2 parts failure portions ending := by
  cases h with
  | going hc hnow hlater => exact .going hc hnow hlater
  | closed hc hi => exact .closed hc hi

theorem takeChunk_eq (u : Unpacker σ) (n : Nat) : (u.takeChunk n).1 = u.output.bytes.take n ∧
    (u.takeChunk n).2.output.bytes = u.output.bytes.drop n := by
  simp only [Unpacker.takeChunk, Outbox.take, Outbox.bytes_ofBytes, and_self]

theorem Awaits.read {part : Bytes} (h : Awaits u (part :: parts) failure portions ending)
    (hi : u.input = []) : Awaits { u with input := part } parts failure portions ending := by
  cases h with
  | going hc hnow hlater =>
    rw [hi] at hnow
    cases hlater with
    | read first rest =>
      cases hnow with
      | @ended s =>
        rw [List.nil_append, List.flatten_cons]
        exact .going hc first rest
      | taken hne => exact absurd rfl hne
      | refused hne => exact absurd rfl hne

theorem Awaits.ended (h : Awaits u [] failure portions ending) (hi : u.input = []) :
    portions = [] ∧ (u.closed = true ∧ failure = none ∨
      u.closed = false ∧ ending = u.decoder.closing failure u.state) := by
  cases h with
  | closed hc _ => exact ⟨rfl, .inl ⟨hc, rfl⟩⟩
  | going hc hnow hlater =>
    rw [hi] at hnow
    cases hlater with
    | ended s =>
      generalize hs : u.state = s₀ at hnow ⊢
      cases hnow with
      | ended s => exact ⟨rfl, .inr ⟨hc, rfl⟩⟩
      | taken hne => exact absurd rfl hne
      | refused hne => exact absurd rfl hne

theorem Awaits.close (h : Awaits u [] none portions ending) (hi : u.input = []) :
    u.close.closed = true ∧ u.close.input = [] ∧ u.close.output.bytes = u.due [] ending ∧
      u.close.skipped = u.skipped ∧ u.close.decoder = u.decoder := by
  obtain ⟨-, ⟨hc, -⟩ | ⟨hc, rfl⟩⟩ := h.ended hi
  · have hclose : u.close = u := if_pos hc
    rw [hclose, due, hc, if_pos rfl, List.append_nil]
    exact ⟨rfl, hi, (List.append_nil _).symm, rfl, rfl⟩
  · have hclose : u.close
        = { u with closed := true, output := u.output.push (u.decoder.close u.state) } :=
      if_neg (by rw [hc]; exact Bool.false_ne_true)
    rw [hclose, due, hc, if_neg Bool.false_ne_true]
    refine ⟨rfl, hi, ?_, rfl, rfl⟩
    rw [Outbox.bytes_push, allOutput, List.flatMap_nil, List.append_nil]
    rfl

/-- What the next chunk is when `due` is due, and what is due after it. -/
inductive Pulled (n : Nat) (failure : Option String) (due : Bytes) :
    Option ReadResult → Bytes → Prop where
  | chunk (hne : due ≠ []) (hfull : n ≤ due.length ∨ failure = none) :
    Pulled n failure due (some (.ok (due.take n))) (due.drop n)
  | ended (hnil : due = []) (hf : failure = none) : Pulled n failure due none []
  | failed {cause : String} (hlt : due.length < n) (hf : failure = some cause) :
    Pulled n failure due (some (.error cause)) due

theorem Done.due_eq {u' : Unpacker σ} {done : List Portion} (h : Done u u' done)
    (rest : List Portion) (ending : Bytes) : u.due (done ++ rest) ending = u'.due rest ending := by
  simp only [due, h.output, h.closed, Portion.allOutput_append, List.append_assoc]

theorem pulled_full (hn : 0 < n) (h : n ≤ u.output.size) (rest : List Portion) (ending : Bytes) :
    Pulled n failure (u.due rest ending) (some (.ok (u.takeChunk n).1))
      ((u.takeChunk n).2.due rest ending) := by
  rw [← Outbox.length_bytes] at h
  have hlen : n ≤ (u.due rest ending).length := by
    simp only [due, List.length_append]
    omega
  have htake : (u.due rest ending).take n = (u.takeChunk n).1 := by
    rw [due, List.append_assoc, List.take_append_of_le_length h, (takeChunk_eq u n).1]
  have hdrop : (u.due rest ending).drop n = (u.takeChunk n).2.due rest ending := by
    rw [due, List.append_assoc, List.drop_append_of_le_length h, ← (takeChunk_eq u n).2,
      ← List.append_assoc]
    rfl
  rw [← htake, ← hdrop]
  exact .chunk (List.ne_nil_of_length_pos (by omega)) (.inl hlen)

theorem due_closed (hc : u.closed = true) (ending : Bytes) : u.due [] ending = u.output.bytes := by
  rw [due, hc, if_pos rfl, List.append_nil, allOutput, List.flatMap_nil, List.append_nil]

theorem pulled_end (hn : 0 < n) (hc : u.closed = true) (ending : Bytes) :
    Pulled n none u.output.bytes
      (if (u.takeChunk n).1.isEmpty then none else some (.ok (u.takeChunk n).1))
      ((u.takeChunk n).2.due [] ending) := by
  obtain ⟨hchunk, hleft⟩ := takeChunk_eq u n
  have hclosed : (u.takeChunk n).2.closed = true := hc
  rw [due_closed hclosed, hleft]
  by_cases hnil : u.output.bytes = []
  · rw [hchunk, hnil, List.take_nil, List.drop_nil, List.isEmpty_nil, if_pos rfl]
    exact .ended rfl rfl
  · have hne : ¬ (u.takeChunk n).1.isEmpty = true := by
      rw [List.isEmpty_iff, hchunk, List.take_eq_nil_iff]
      exact fun h => h.elim (Nat.ne_of_gt hn) hnil
    rw [if_neg hne, hchunk]
    exact .chunk hnil (.inr rfl)

theorem nextChunk_error (h : ¬ n ≤ (u.fill n).output.size) (cause : String) :
    u.nextChunk n [.error cause] = (some (.error cause), [], u.fill n) := by
  unfold nextChunk
  exact if_neg h

/-- **The next chunk, the end, or the failure of a read**: some portions are done, and a chunk is
taken from the beginning of what is due. -/
theorem nextChunk_pulled (h : Awaits u parts failure portions ending) (hn : 0 < n) :
    ∃ out reads u', u.nextChunk n (parts.map .ok ++ failure.toList.map .error) = (out, reads, u') ∧
      ∃ done rest parts', portions = done ++ rest ∧ u'.decoder = u.decoder ∧
        u'.skipped = u.skipped + drops done ∧
        Pulled n failure (u.due portions ending) out (u'.due rest ending) ∧
        Awaits u' parts' failure rest ending ∧
        (out = none → u'.closed = true) ∧
        ((∀ cause, out ≠ some (.error cause)) →
          reads = parts'.map .ok ++ failure.toList.map .error) := by
  induction parts generalizing u portions with
  | nil =>
    obtain ⟨⟨done, rest, rfl, hdone, hfill⟩, hstop⟩ := h.fill n
    rw [hdone.due_eq]
    by_cases hfull : n ≤ (u.fill n).output.size
    · exact ⟨_, _, _, nextChunk_full hfull _, done, rest, [], rfl, hdone.decoder,
        hdone.skipped, pulled_full hn hfull rest ending, hfill.takeChunk n,
        (fun h => by cases h), fun _ => rfl⟩
    have hi := hstop.resolve_left hfull
    cases failure with
    | none =>
      obtain ⟨rfl, -⟩ := hfill.ended hi
      obtain ⟨hclosed, hinput, hout, hskipped, hdecoder⟩ := hfill.close hi
      rw [← hout]
      exact ⟨_, _, _, nextChunk_end hfull, done, [], [], rfl, hdecoder.trans hdone.decoder,
        hskipped.trans hdone.skipped, pulled_end hn hclosed ending, .closed hclosed hinput,
        fun _ => hclosed, fun _ => rfl⟩
    | some cause =>
      obtain ⟨rfl, ⟨-, hf⟩ | ⟨hc, rfl⟩⟩ := hfill.ended hi
      · cases hf
      have hdue : (u.fill n).due [] ((u.fill n).decoder.closing (some cause) (u.fill n).state)
          = (u.fill n).output.bytes := by
        simp only [due, StepDecoder.closing, allOutput, List.flatMap_nil, List.append_nil, ite_self]
      have hlt : (u.fill n).output.bytes.length < n := by
        rw [Outbox.length_bytes]
        omega
      refine ⟨_, _, _, nextChunk_error hfull cause, done, [], [], rfl, hdone.decoder, hdone.skipped,
        ?_, hfill, (fun h => by cases h), fun h => absurd rfl (h cause)⟩
      rw [hdue]
      exact .failed hlt rfl
  | cons part parts ih =>
    obtain ⟨⟨done, rest, rfl, hdone, hfill⟩, hstop⟩ := h.fill n
    by_cases hfull : n ≤ (u.fill n).output.size
    · rw [hdone.due_eq]
      exact ⟨_, _, _, nextChunk_full hfull _, done, rest, part :: parts, rfl, hdone.decoder,
        hdone.skipped, pulled_full hn hfull rest ending, hfill.takeChunk n,
        (fun h => by cases h), fun _ => rfl⟩
    · obtain ⟨out, reads, u', hnext, more, rest, parts', rfl, hdecoder, hskipped, hpulled, hawaits,
        hclosed, hreads⟩ := ih (hfill.read (hstop.resolve_left hfull))
      refine ⟨out, reads, u', ?_, done ++ more, rest, parts', (List.append_assoc _ _ _).symm,
        hdecoder.trans hdone.decoder, ?_, ?_, hawaits, hclosed, hreads⟩
      · rw [List.map_cons, List.cons_append, nextChunk_cons hfull, hnext]
      · rw [hskipped, Portion.drops_append, ← Nat.add_assoc, ← hdone.skipped]
      · rw [hdone.due_eq]
        exact hpulled

end Unpacker

/-! ## The stream of a packed log -/

namespace ChunkStream
variable {σ : Type} {s : ChunkStream σ} {parts : List Bytes} {failure : Option String} {n : Nat}

/-- What is given out of the bytes that are due: all of them, or, before a read that fails, what
fills chunks of `n` bytes. -/
def givenOut (n : Nat) (failure : Option String) (due : Bytes) : Bytes :=
  match failure with
  | none => due
  | some _ => due.take (due.length / n * n)

theorem cut_givenOut {due : Bytes} (hn : 0 < n) (hne : due ≠ [])
    (hfull : n ≤ due.length ∨ failure = none) : cut n (givenOut n failure due)
      = due.take n :: cut n (givenOut n failure (due.drop n)) := by
  cases failure with
  | none => exact cut_of_ne_nil hn hne
  | some cause =>
    have hle := hfull.resolve_right nofun
    have hdiv : due.length / n = (due.length - n) / n + 1 := Nat.div_eq_sub_div hn hle
    have hwhole : n ≤ due.length / n * n := by
      rw [hdiv, Nat.succ_mul]
      exact Nat.le_add_left _ _
    have hpos : givenOut n (some cause) due ≠ [] := by
      apply List.ne_nil_of_length_pos
      rw [givenOut, List.length_take]
      omega
    have htake : (givenOut n (some cause) due).take n = due.take n := by
      rw [givenOut, List.take_take, Nat.min_eq_left hwhole]
    have hdrop : (givenOut n (some cause) due).drop n = givenOut n (some cause) (due.drop n) := by
      rw [givenOut, givenOut, List.drop_take, List.length_drop, hdiv, Nat.succ_mul,
        Nat.add_sub_cancel]
    rw [cut_of_ne_nil hn hpos, htake, hdrop]

/-- **A packed log is read in whole chunks**, but for the last one. -/
theorem yields_unpacker {u : Unpacker σ} (hu : s.unpacker = some u)
    (hr : s.reads = parts.map .ok ++ failure.toList.map .error) {portions : List Portion}
    {ending : Bytes} (h : u.Awaits parts failure portions ending) (hn : 0 < s.chunkSize) :
    Yields s (cut s.chunkSize (givenOut s.chunkSize failure (u.due portions ending))) failure := by
  -- on the bytes that are due: a chunk takes some of them
  induction hlen : (u.due portions ending).length using Nat.strongRecOn
    generalizing s u parts portions with
  | ind k ih =>
    obtain ⟨out, reads, u', hnext, -, rest, parts', -, -, -, hpulled, hawaits, -, hreads⟩ :=
      Unpacker.nextChunk_pulled h hn
    have hpull : s.pull = (out, { s with reads, unpacker := some u' }) := by
      rw [pull, hu, hr]
      dsimp only
      rw [hnext]
    generalize hdue : u.due portions ending = due at hpulled hlen ⊢
    generalize hleft : u'.due rest ending = left at hpulled
    cases hpulled with
    | ended hnil hf =>
      rw [hnil, hf]
      exact .last (by rw [hpull]; rfl)
    | @failed cause hlt hf =>
      have hnone : givenOut s.chunkSize (some cause) due = [] := by
        rw [givenOut, Nat.div_eq_of_lt hlt, Nat.zero_mul, List.take_zero]
      rw [hf, hnone]
      exact .last (by rw [hpull]; rfl)
    | chunk hne hfull =>
      have hpos := List.length_pos_iff.mpr hne
      have hless : (u'.due rest ending).length < k := by
        rw [hleft, List.length_drop]
        omega
      rw [cut_givenOut hn hne hfull, ← hleft]
      refine .part (by rw [hpull]) ?_ (List.length_take_le _ _) ?_
      · simp only [ne_eq, List.take_eq_nil_iff, hne, or_false]
        exact Nat.ne_of_gt hn
      · rw [hpull]
        have hreads := hreads (fun _ h => by cases h)
        exact ih _ hless (s := { s with reads, unpacker := some u' }) rfl hreads hawaits hn
          rfl

/-- **When no read fails, all that comes out of the reads is given out.** -/
theorem yields_packed (d : StepDecoder σ) (config : StreamConfig) {source : Source}
    (h : source.content.2 = none) : ∃ parts : List Bytes,
    Yields (ofSource config source (some d)) parts none ∧
      parts.flatten = d.unpack d.start (source.reads config.usedChunkSize) := by
  have hn : 0 < config.usedChunkSize := usedChunkSize_pos config
  have hcontent : Source.contentOf source.events = (source.content.1, none) := Prod.ext rfl h
  obtain ⟨reads, hreads, -, -⟩ := Source.readsOf_content hn source.buffer hcontent
  obtain ⟨sessions, last, hsession⟩ := d.exists_session d.start reads
  have hyields := yields_unpacker (s := ofSource config source (some d)) rfl
    (hreads.trans (List.append_nil _).symm) (Unpacker.awaits_ofDecoder hsession none) hn
  have hunpack := hsession.unpack_eq
  rw [← hreads] at hunpack
  exact ⟨_, hyields, (flatten_cut hn _).trans hunpack.symm⟩

end ChunkStream

end LogTriage
