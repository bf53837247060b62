import LogTriage.Proofs.Stream.Limit

/-!
# Packed logs that are damaged

Whatever a decoder answers, a packed log loses only what is counted.  Every read is offered from its
beginning to its end, and when the decoder refuses, the rest of that read is dropped, one more drop
is counted, and the decoder starts anew with the next read.  What it has put out is given out, in
whole chunks but for the last one.

`Reached` tells how far a stream has come between two calls of `next`.

* `Reached.next`          a call gives out the next bytes that are due;
* `Reached.after`         so do several calls, as long as the limit is not reached;
* `loses_what_is_dropped` what becomes of every read, and what is given out of it.
-/

namespace LogTriage

open Portion (allBytes allOutput drops)

namespace StepDecoder
variable {σ : Type} {d : StepDecoder σ} {s last : σ} {bs : Bytes} {parts : List Bytes}
  {portions : List Portion} {sessions : List (List Portion)}

def Bounded (d : StepDecoder σ) : Prop :=
  ∀ s bs count output s', d.offer s bs = .taken count output s' → count ≤ bs.length

/-- The portions of a read: each has some bytes, those that are taken at most as many as are offered
at a time, and after those that are dropped nothing comes. -/
structure Portioned (portions : List Portion) : Prop where
  ne_nil : ∀ p ∈ portions, p.bytes ≠ []
  length_le : ∀ p ∈ portions, p.isDropped = false → p.bytes.length ≤ Unpacker.stepSize
  dropped_last : ∀ before p after, portions = before ++ p :: after → p.isDropped = true → after = []

theorem Digests.portioned (hb : d.Bounded) (h : d.Digests s bs portions last) :
    Portioned portions where
  dropped_last _ _ _ hsplit hp := (h.dropped_last hsplit hp).1
  ne_nil := by
    induction h with
    | ended s => exact fun _ h => by cases h
    | taken hne hpos hoffer rest ih =>
      refine List.forall_mem_cons.mpr ⟨?_, ih⟩
      simp only [Portion.bytes, ne_eq, List.take_eq_nil_iff, hne, or_false]
      exact Nat.ne_of_gt hpos
    | refused hne hoffer => exact List.forall_mem_singleton.mpr hne
  length_le := by
    induction h with
    | ended s => exact fun _ h => by cases h
    | taken hne hpos hoffer rest ih =>
      refine List.forall_mem_cons.mpr ⟨fun _ => ?_, ih⟩
      have hcount := hb _ _ _ _ _ hoffer
      rw [List.length_take] at hcount
      rw [Portion.bytes, List.length_take]
      omega
    | refused hne hoffer => exact List.forall_mem_singleton.mpr (fun h => by cases h)

theorem Session.portioned (hb : d.Bounded) (h : d.Session s parts sessions last) :
    ∀ portions ∈ sessions, Portioned portions := by
  induction h with
  | ended s => exact nofun
  | read first rest ih => exact List.forall_mem_cons.mpr ⟨first.portioned hb, ih⟩

end StepDecoder

theorem Unpacker.Awaits.eq_nil_of_closed {σ : Type} {u : Unpacker σ} {parts : List Bytes}
    {failure : Option String} {portions : List Portion} {ending : Bytes}
    (h : u.Awaits parts failure portions ending) (hclosed : u.closed = true) : portions = [] := by
  cases h with
  | closed hc hi => rfl
  | going hc hnow hlater => simp only [hclosed, Bool.true_eq_false] at hc

theorem Unpacker.Awaits.allBytes_eq {σ : Type} {u : Unpacker σ} {parts : List Bytes}
    {failure : Option String} {portions : List Portion} {ending : Bytes}
    (h : u.Awaits parts failure portions ending) :
    allBytes portions = u.input ++ parts.flatten := by
  cases h with
  | closed hc hi => rw [hi, allBytes, List.flatMap_nil, List.flatten_nil, List.append_nil]
  | @going _ _ now later s last hc hnow hlater =>
    have hbytes : allBytes later.flatten = (later.map allBytes).flatten := by
      simp only [allBytes, List.flatMap_def, List.map_flatten, List.flatten_flatten, List.map_map]
      rfl
    rw [Portion.allBytes_append, hnow.allBytes_eq, hbytes, hlater.map_allBytes]

namespace ChunkStream
variable {σ : Type} {d : StepDecoder σ} {s : ChunkStream σ} {u : Unpacker σ} {left : List Bytes}
  {done rest : List Portion} {ending given : Bytes}

/-- How far a stream of a packed log has come that has given out `given`: the portions `done` have
been done, and `rest` are to come of what it has read and of the reads that are left. -/
structure Reached (d : StepDecoder σ) (s : ChunkStream σ) (u : Unpacker σ) (left : List Bytes)
    (done rest : List Portion) (ending given : Bytes) : Prop where
  unpacker : s.unpacker = some u
  decoder : u.decoder = d
  reads : s.reads = left.map .ok
  awaits : u.Awaits left none rest ending
  skipped : s.skipped = drops done
  /-- What was put out was given out or waits. -/
  kept : given ++ u.output.bytes = allOutput done ++ if u.closed then ending else []
  delivered : s.delivered = given.length
  within : s.overLimit = false
  finished : s.done = true → u.closed = true ∧ u.output.bytes = []

theorem Reached.append_due (h : Reached d s u left done rest ending given) :
    given ++ u.due rest ending = allOutput (done ++ rest) ++ ending := by
  rw [Unpacker.due, List.append_assoc, ← List.append_assoc, h.kept, Portion.allOutput_append]
  cases h.awaits with
  | closed hc hi =>
    rw [hc, if_pos rfl, if_pos rfl, allOutput, allOutput, List.flatMap_nil, List.append_nil,
      List.append_nil, List.append_nil]
  | going hc hnow hlater =>
    rw [hc, if_neg Bool.false_ne_true, if_neg Bool.false_ne_true, List.append_nil,
      List.append_assoc]

theorem kept_of_append_due (ha : u.Awaits left none rest ending)
    (h : given ++ u.due rest ending = allOutput (done ++ rest) ++ ending) :
    given ++ u.output.bytes = allOutput done ++ if u.closed then ending else [] := by
  rw [Unpacker.due, Portion.allOutput_append] at h
  cases ha with
  | closed hc hi =>
    rw [hc, if_pos rfl] at h ⊢
    simpa only [allOutput, List.flatMap_nil, List.append_nil] using h
  | going hc hnow hlater =>
    rw [hc, if_neg Bool.false_ne_true] at h ⊢
    simp only [← List.append_assoc, List.append_cancel_right_eq] at h
    rw [h, List.append_nil]

theorem Reached.advance {s' : ChunkStream σ} {u' : Unpacker σ} {left' : List Bytes}
    {more rest' : List Portion} {chunk : Bytes}
    (h : Reached d s u left done (more ++ rest') ending given) (hu : s'.unpacker = some u')
    (hdecoder : u'.decoder = u.decoder) (hr : s'.reads = left'.map .ok)
    (ha : u'.Awaits left' none rest' ending)
    (hskipped : u'.skipped = u.skipped + drops more)
    (hdue : u.due (more ++ rest') ending = chunk ++ u'.due rest' ending)
    (hdelivered : s'.delivered = s.delivered + chunk.length) (hwithin : s'.overLimit = false)
    (hfinished : s'.done = true → u'.closed = true ∧ u'.output.bytes = []) :
    Reached d s' u' left' (done ++ more) rest' ending (given ++ chunk) where
  unpacker := hu
  decoder := hdecoder.trans h.decoder
  reads := hr
  awaits := ha
  skipped := by
    have hbefore : u.skipped = drops done := by
      rw [← h.skipped, ChunkStream.skipped, h.unpacker]
    rw [ChunkStream.skipped, hu, Portion.drops_append, ← hbefore]
    exact hskipped
  kept := by
    apply kept_of_append_due ha
    rw [List.append_assoc, ← hdue, h.append_due, List.append_assoc]
  delivered := by rw [hdelivered, h.delivered, List.length_append]
  within := hwithin
  finished := hfinished

/-- **A call gives out the next bytes that are due**, if the limit allows all of them. -/
theorem Reached.next (h : Reached d s u left done rest ending given) (hn : 0 < s.chunkSize)
    (hroom : given.length + ((u.due rest ending).take s.chunkSize).length ≤ s.limit) :
    s.next.1 = ((cut s.chunkSize (u.due rest ending)).map .ok)[0]? ∧
      ∃ u' left' more rest', rest = more ++ rest' ∧
        Reached d s.next.2 u' left' (done ++ more) rest' ending
          (given ++ (u.due rest ending).take s.chunkSize) ∧
        u'.due rest' ending = (u.due rest ending).drop s.chunkSize ∧
        (u.due rest ending = [] → s.next.2.done = true) := by
  cases hd : s.done with
  | true =>
    obtain ⟨hclosed, hempty⟩ := h.finished hd
    have hnext : s.next = (none, s) := by rw [ChunkStream.next, if_pos hd]
    have hdue : u.due rest ending = [] := by
      rw [h.awaits.eq_nil_of_closed hclosed, Unpacker.due_closed hclosed, hempty]
    rw [hnext, hdue, List.take_nil, List.drop_nil]
    refine ⟨rfl, u, left, [], rest, rfl, ?_, hdue, fun _ => hd⟩
    rw [List.append_nil, List.append_nil]
    exact h
  | false =>
    obtain ⟨out, reads, u', hchunk, more, rest', left', rfl, hdecoder, hskipped, hpulled, hawaits,
      hclosed, hreads⟩ := Unpacker.nextChunk_pulled h.awaits hn
    have hpull : s.pull = (out, { s with reads, unpacker := some u' }) := by
      have hall : s.reads = left.map .ok ++ (none : Option String).toList.map .error :=
        h.reads.trans (List.append_nil _).symm
      rw [pull, h.unpacker, hall]
      dsimp only
      rw [hchunk]
    generalize hdue : u.due (more ++ rest') ending = due at hpulled hroom ⊢
    generalize hrest : u'.due rest' ending = due' at hpulled ⊢
    cases hpulled with
    | failed hlt hf => cases hf
    | ended hnil hf =>
      have hnone : s.pull.1 = (none : Option String).map .error := by rw [hpull]; rfl
      have hnext := next_last hd h.within hnone
      rw [hpull, Option.map_none] at hnext
      have hreached : Reached d s.next.2 u' left' (done ++ more) rest' ending (given ++ []) := by
        refine h.advance ?_ hdecoder ?_ hawaits hskipped ?_ ?_ ?_ fun _ => ⟨hclosed rfl, ?_⟩
        · rw [hnext]
          rfl
        · rw [hnext]
          exact (hreads (fun _ h => by cases h)).trans (List.append_nil _)
        · rw [hdue, hnil, hrest, List.nil_append]
        · rw [hnext]
          rfl
        · rw [hnext]
          exact h.within
        · rw [Unpacker.due, List.append_assoc] at hrest
          exact (List.append_eq_nil_iff.mp hrest).1
      rw [hnil, List.take_nil, List.drop_nil]
      refine ⟨?_, u', left', more, rest', rfl, hreached, hrest, fun _ => ?_⟩
      · rw [hnext]
        rfl
      · rw [hnext]
        rfl
    | chunk hne hfull =>
      have hnext := next_part hd h.within (by rw [hpull])
      have hfits : (due.take s.chunkSize).length ≤ s.limit - s.delivered := by
        rw [h.delivered]
        omega
      rw [hpull, deliver, if_pos hfits] at hnext
      have hreached : Reached d s.next.2 u' left' (done ++ more) rest' ending
          (given ++ due.take s.chunkSize) := by
        refine h.advance ?_ hdecoder ?_ hawaits hskipped ?_ ?_ ?_ ?_
        · rw [hnext]
        · rw [hnext]
          exact (hreads (fun _ h => by cases h)).trans (List.append_nil _)
        · rw [hdue, hrest, List.take_append_drop]
        · rw [hnext]
        · rw [hnext]
          exact h.within
        · rw [hnext]
          intro hdone
          simp only [hd, Bool.false_eq_true] at hdone
      refine ⟨?_, u', left', more, rest', rfl, hreached, hrest, fun hnil => absurd hnil hne⟩
      rw [hnext, cut_of_ne_nil hn hne]
      rfl

theorem next_frame (s : ChunkStream σ) :
    s.next.2.chunkSize = s.chunkSize ∧ s.next.2.limit = s.limit := by
  obtain ⟨hlimit, -, -, -, hsize⟩ := s.pull_account
  unfold next
  split
  · exact ⟨rfl, rfl⟩
  · split
    · exact ⟨rfl, rfl⟩
    · generalize hpull : s.pull = p at hlimit hsize
      obtain ⟨out, s'⟩ := p
      cases out with
      | none => exact ⟨hsize, hlimit⟩
      | some result =>
        cases result with
        | error cause => exact ⟨hsize, hlimit⟩
        | ok chunk =>
          dsimp only [deliver]
          split
          · exact ⟨hsize, hlimit⟩
          · split <;> exact ⟨hsize, hlimit⟩

theorem after_frame (s : ChunkStream σ) (k : Nat) :
    (s.after k).chunkSize = s.chunkSize ∧ (s.after k).limit = s.limit := by
  induction k generalizing s with
  | zero => exact ⟨rfl, rfl⟩
  | succ k ih =>
    obtain ⟨hsize, hlimit⟩ := s.next_frame
    exact ⟨(ih s.next.2).1.trans hsize, (ih s.next.2).2.trans hlimit⟩

/-- **Calls give out the next bytes that are due**, chunk by chunk, as long as the limit allows all
of them. -/
theorem Reached.after (h : Reached d s u left done rest ending given) (hn : 0 < s.chunkSize)
    (k : Nat) (hroom : given.length + ((cut s.chunkSize (u.due rest ending)).take k).flatten.length
      ≤ s.limit) :
    ∃ u' left' more rest', rest = more ++ rest' ∧
      Reached d (s.after k) u' left' (done ++ more) rest' ending
        (given ++ ((cut s.chunkSize (u.due rest ending)).take k).flatten) ∧
      cut s.chunkSize (u'.due rest' ending) = (cut s.chunkSize (u.due rest ending)).drop k ∧
      ((cut s.chunkSize (u.due rest ending)).length < k → (s.after k).done = true) := by
  induction k generalizing s u left done rest given with
  | zero =>
    refine ⟨u, left, [], rest, rfl, ?_, rfl, nofun⟩
    rw [List.append_nil, List.take_zero, List.flatten_nil, List.append_nil]
    exact h
  | succ k ih =>
    obtain ⟨hsize, hlimit⟩ := s.next_frame
    obtain ⟨htake, hdrop⟩ := cut_succ hn (u.due rest ending) k
    rw [htake, List.length_append] at hroom
    obtain ⟨-, u₁, left₁, first, rest₁, rfl, hreached, hdue, hlast⟩ := h.next hn (by omega)
    rw [← hdue, ← hsize] at hroom
    have hroom' : (given ++ (u.due (first ++ rest₁) ending).take s.chunkSize).length
        + ((cut s.next.2.chunkSize (u₁.due rest₁ ending)).take k).flatten.length
          ≤ s.next.2.limit := by
      rw [List.length_append, hlimit, ← hsize]
      omega
    obtain ⟨u', left', more, rest', rfl, hafter, hcut, hdone⟩ :=
      ih hreached (by rw [hsize]; exact hn) hroom'
    refine ⟨u', left', first ++ more, rest', (List.append_assoc _ _ _).symm, ?_, ?_, fun hk => ?_⟩
    · rw [htake, ← List.append_assoc, ← List.append_assoc, ← hdue, ← hsize]
      rw [← hsize] at hafter
      exact hafter
    · rw [hdrop, ← hdue, ← hsize]
      exact hcut
    · by_cases hne : u.due (first ++ (more ++ rest')) ending = []
      · have hdone := hlast hne
        rw [ChunkStream.after, after_done hdone]
        exact hdone
      · rw [cut_of_ne_nil hn hne, ← hdue, ← hsize] at hk
        exact hdone (Nat.lt_of_succ_lt_succ hk)

/-- **The calls answer with the chunks that are due**, as long as the limit allows all of them. -/
theorem Reached.answers (h : Reached d s u left done rest ending given) (hn : 0 < s.chunkSize)
    (k : Nat) (hroom : given.length
      + ((cut s.chunkSize (u.due rest ending)).take (k + 1)).flatten.length ≤ s.limit) :
    (s.after k).next.1 = ((cut s.chunkSize (u.due rest ending)).map .ok)[k]? := by
  rw [List.take_add, List.flatten_append, List.length_append] at hroom
  obtain ⟨u', left', more, rest', rfl, hafter, hcut, -⟩ := h.after hn k (by omega)
  obtain ⟨hsize, hlimit⟩ := s.after_frame k
  -- what is due after `k` chunks begins with the next one
  have hfirst : ((cut s.chunkSize (u.due (more ++ rest') ending)).drop k).take 1
      = (cut s.chunkSize (u'.due rest' ending)).take 1 := by rw [hcut]
  obtain ⟨htake, -⟩ := cut_succ hn (u'.due rest' ending) 0
  rw [List.take_zero, List.flatten_nil, List.append_nil] at htake
  rw [hfirst, htake] at hroom
  have hroom' : (given ++ ((cut s.chunkSize (u.due (more ++ rest') ending)).take k).flatten).length
      + ((u'.due rest' ending).take (s.after k).chunkSize).length ≤ (s.after k).limit := by
    rw [hsize, hlimit, List.length_append]
    omega
  rw [(hafter.next (by rw [hsize]; exact hn) hroom').1, hsize, hcut, List.map_drop,
    List.getElem?_drop, Nat.add_zero]

theorem reached_ofSource {d : StepDecoder σ} {config : StreamConfig} {source : Source}
    {parts : List Bytes} {sessions : List (List Portion)} {last : σ}
    (hreads : source.reads config.usedChunkSize = parts.map .ok)
    (h : d.Session d.start parts sessions last) :
    Reached d (ofSource config source (some d)) (Unpacker.ofDecoder d) parts [] sessions.flatten
      (d.close last) [] where
  unpacker := rfl
  decoder := rfl
  reads := hreads
  awaits := Unpacker.awaits_ofDecoder h none
  skipped := rfl
  kept := rfl
  delivered := rfl
  within := rfl
  finished := nofun

/-- **A packed log loses only what is counted.**  The decoder goes through every read in portions
that are taken, until it refuses and the rest of the read is dropped.  The chunks are what all
portions and the end put out; all of them but the last one are full.  As long as the limit allows
it, they are what the calls of `next` answer, and after `k` calls some portions have been done: as
many drops are counted as there are among them, and what they have put out was given out or waits.
A chunk takes as many steps as there are portions, and each of them uses up some of the read. -/
theorem loses_what_is_dropped (d : StepDecoder σ) (hd : d.Bounded) (config : StreamConfig)
    (source : Source) (parts : List Bytes)
    (hreads : source.reads config.usedChunkSize = parts.map .ok) :
    ∃ (stream : ChunkStream σ) (sessions : List (List Portion)) (last : σ) (chunks : List Bytes),
      openWith d config source .gzip = .ok stream ∧
      (d.Session d.start parts sessions last ∧ sessions.map allBytes = parts ∧
        (∀ portions ∈ sessions, StepDecoder.Portioned portions)) ∧
      (chunks.flatten = allOutput sessions.flatten ++ d.close last ∧
        (∀ chunk ∈ chunks, chunk ≠ [] ∧ chunk.length ≤ config.usedChunkSize) ∧
        ∀ chunk ∈ chunks.dropLast, chunk.length = config.usedChunkSize) ∧
      (∀ k, (chunks.take (k + 1)).flatten.length ≤ config.maxLog →
        (stream.after k).next.1 = (chunks.map .ok)[k]?) ∧
      (∀ k, (chunks.take k).flatten.length ≤ config.maxLog →
        ∃ u left done rest, sessions.flatten = done ++ rest ∧
          Reached d (stream.after k) u left done rest (d.close last) (chunks.take k).flatten ∧
          allBytes rest = u.input ++ left.flatten ∧ (chunks.length < k → rest = [])) ∧
      (∀ (u : Unpacker σ) (n : Nat),
        u.fill n = if u.input = [] ∨ n ≤ u.output.size then u else u.step.fill n) ∧
      ∀ u : Unpacker σ, u.input ≠ [] → u.step.input.length < u.input.length := by
  have hn : 0 < (ofSource config source (some d)).chunkSize := usedChunkSize_pos config
  obtain ⟨sessions, last, hsession⟩ := d.exists_session d.start parts
  have hstart := reached_ofSource hreads hsession
  have htotal := hstart.append_due
  rw [List.nil_append, List.nil_append] at htotal
  generalize hdue : (Unpacker.ofDecoder d).due sessions.flatten (d.close last) = due at htotal
  refine ⟨_, sessions, last, cut config.usedChunkSize due, rfl,
    ⟨hsession, hsession.map_allBytes, hsession.portioned hd⟩,
    ⟨(flatten_cut hn due).trans htotal, fun chunk hc => size_of_mem_cutGo hn hc,
      fun chunk hc => length_of_mem_dropLast_cut hn hc⟩,
    fun k hk => ?_, fun k hk => ?_, fun u n => u.fill_eq n, fun u => Unpacker.length_step⟩
  · rw [← hdue] at hk ⊢
    have hroom := Nat.le_trans (Nat.le_of_eq (Nat.zero_add _)) hk
    exact hstart.answers hn k hroom
  · rw [← hdue] at hk ⊢
    have hroom := Nat.le_trans (Nat.le_of_eq (Nat.zero_add _)) hk
    obtain ⟨u', left', done, rest, hsplit, hreached, -, hend⟩ := hstart.after hn k hroom
    refine ⟨u', left', done, rest, hsplit, hreached, hreached.awaits.allBytes_eq, fun hk => ?_⟩
    exact hreached.awaits.eq_nil_of_closed (hreached.finished (hend hk)).1

end ChunkStream

namespace Gzip

theorem taken_feed_le (inflater : Deflate.Inflater) (packed : Bytes) (room : Nat) :
    (inflater.feed packed room).taken ≤ packed.length := by
  unfold Deflate.Inflater.feed
  dsimp only
  split
  · exact Nat.le_refl _
  · exact Nat.sub_le _ _

theorem count_offerHeader_le {seen output input output' : Bytes} {count : Nat} {m : Member}
    (h : Member.offerHeader seen output input = .taken count output' m) : count ≤ input.length := by
  unfold Member.offerHeader at h
  split at h
  · cases h
  · cases h
    exact Nat.le_refl _
  · cases h
    exact Nat.sub_le _ _

theorem bounded_decoder : decoder.Bounded := by
  intro m input count output m' hoffer
  have hmember : m.offer input = .taken count output m' := hoffer
  unfold Member.offer at hmember
  split at hmember
  · exact count_offerHeader_le hmember
  · rename_i inflater trailer hstage
    unfold Member.offerBody at hmember
    dsimp only at hmember
    have htaken := taken_feed_le inflater input Deflate.windowSize
    generalize inflater.feed input Deflate.windowSize = fed at hmember htaken
    generalize hending : (if fed.pause = .ended
      then (input.drop fed.taken).take (Member.trailerSize - trailer.length) else []) = ending
      at hmember
    have hlength : ending.length ≤ input.length - fed.taken := by
      rw [← hending]
      split
      · rw [List.length_take, List.length_drop]
        exact Nat.min_le_right _ _
      · exact Nat.zero_le _
    split at hmember
    · cases hmember
    · split at hmember
      · cases hmember
        omega
      · split at hmember
        · exact count_offerHeader_le hmember
        · cases hmember

end Gzip

/-- Two members with a read between them that belongs to neither. -/
def damagedMembers : Source :=
  { events := [.piece smallMember, .piece (List.replicate 12 0xFF), .piece smallMember] }

/-- The read between the members is dropped, and both of their letters are given out. -/
theorem lose_damagedMembers : ∃ (stream : ChunkStream Gzip.Member) (sessions : List (List Portion))
    (last : Gzip.Member) (chunks : List Bytes),
    ChunkStream.openWith Gzip.decoder {} damagedMembers .gzip = .ok stream ∧
    Gzip.decoder.Session Gzip.decoder.start [smallMember, List.replicate 12 0xFF, smallMember]
      sessions last ∧
    chunks.flatten = allOutput sessions.flatten ++ Gzip.decoder.close last ∧
    stream.next.1.bind Except.toOption = some [0x61, 0x61] ∧ (stream.after 2).skipped = 1 := by
  obtain ⟨stream, sessions, last, chunks, hopen, ⟨hsession, -, -⟩, ⟨hflat, -, -⟩, -⟩ :=
    ChunkStream.loses_what_is_dropped Gzip.decoder Gzip.bounded_decoder {} damagedMembers
      [smallMember, List.replicate 12 0xFF, smallMember] rfl
  have hstream : stream = ChunkStream.ofSource {} damagedMembers (some Gzip.decoder) := by
    cases hopen
    rfl
  refine ⟨stream, sessions, last, chunks, hopen, hsession, hflat, ?_, ?_⟩
  · rw [hstream]
    decide +kernel
  · rw [hstream]
    decide +kernel

end LogTriage
