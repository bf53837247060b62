import LogTriage.Stream.Open

/-!
# The chunks of a stream

What is read is given out up to the limit; when there is more, an error follows.  How a source cuts
its bytes, and how many are read at a time, only decides where the chunks are cut.

`Yields` tells what reading gives, whatever the limit is, and `Answers` what the calls of `next`
answer.

* `readsOf_spec`      what is read is the content of the source, in parts that are not empty;
* `answers_yields`    from what reading gives to what the calls answer;
* `drain_yields`      enough rounds give out all that the calls answer;
* `openChunks_plain`  the chunks of a plain log.
-/

namespace LogTriage

/-! ## Reading -/

theorem flatten_cutGo {n : Nat} (hn : 0 < n) {rounds : Nat} {bs : Bytes}
    (hr : bs.length ≤ rounds) : (cutGo n rounds bs).flatten = bs := by
  induction rounds generalizing bs with
  | zero =>
    rw [List.length_eq_zero_iff.mp (Nat.le_zero.mp hr)]
    rfl
  | succ rounds ih =>
    cases bs with
    | nil => rfl
    | cons b bs =>
      have hd : ((b :: bs).drop n).length ≤ rounds := by
        rw [List.length_drop]
        omega
      rw [cutGo, List.flatten_cons, ih hd, List.take_append_drop]
      exact nofun

theorem size_of_mem_cutGo {n : Nat} (hn : 0 < n) {rounds : Nat} {bs part : Bytes}
    (hp : part ∈ cutGo n rounds bs) : part ≠ [] ∧ part.length ≤ n := by
  induction rounds generalizing bs with
  | zero => cases hp
  | succ rounds ih =>
    cases bs with
    | nil => cases hp
    | cons b bs =>
      rw [cutGo] at hp
      · rcases List.mem_cons.mp hp with rfl | hp
        · refine ⟨?_, List.length_take_le _ _⟩
          simp only [ne_eq, List.take_eq_nil_iff, reduceCtorEq, or_false]
          omega
        · exact ih hp
      · exact nofun

theorem flatten_cut {n : Nat} (hn : 0 < n) (bs : Bytes) : (cut n bs).flatten = bs :=
  flatten_cutGo hn (Nat.le_refl _)

theorem cutGo_eq {n : Nat} (hn : 0 < n) {rounds rounds' : Nat} {bs : Bytes}
    (h : bs.length ≤ rounds) (h' : bs.length ≤ rounds') :
    cutGo n rounds bs = cutGo n rounds' bs := by
  induction rounds generalizing rounds' bs with
  | zero =>
    rw [List.length_eq_zero_iff.mp (Nat.le_zero.mp h)]
    cases rounds' <;> rfl
  | succ rounds ih =>
    cases bs with
    | nil => cases rounds' <;> rfl
    | cons b bs =>
      rw [List.length_cons] at h h'
      obtain ⟨rounds', rfl⟩ : ∃ r, rounds' = r + 1 := ⟨rounds' - 1, by omega⟩
      have hd : ((b :: bs).drop n).length ≤ bs.length := by
        rw [List.length_drop, List.length_cons]
        omega
      have hrest : cutGo n rounds ((b :: bs).drop n) = cutGo n rounds' ((b :: bs).drop n) :=
        ih (by omega) (by omega)
      rw [cutGo, cutGo, hrest]
      · exact nofun
      · exact nofun

theorem cut_of_ne_nil {n : Nat} (hn : 0 < n) {bs : Bytes} (h : bs ≠ []) :
    cut n bs = bs.take n :: cut n (bs.drop n) := by
  obtain ⟨b, bs, rfl⟩ := List.exists_cons_of_ne_nil h
  have hd : ((b :: bs).drop n).length ≤ bs.length := by
    rw [List.length_drop, List.length_cons]
    omega
  rw [cut, List.length_cons, cutGo, cut, cutGo_eq hn hd (Nat.le_refl _)]
  exact nofun

theorem cut_succ {n : Nat} (hn : 0 < n) (bs : Bytes) (k : Nat) :
    ((cut n bs).take (k + 1)).flatten = bs.take n ++ ((cut n (bs.drop n)).take k).flatten ∧
      (cut n bs).drop (k + 1) = (cut n (bs.drop n)).drop k := by
  by_cases hne : bs = []
  · have hcut : cut n [] = [] := rfl
    rw [hne, List.take_nil, List.drop_nil, hcut, List.take_nil, List.take_nil, List.drop_nil,
      List.drop_nil]
    exact ⟨rfl, rfl⟩
  · rw [cut_of_ne_nil hn hne]
    exact ⟨rfl, rfl⟩

theorem length_of_mem_dropLast_cut {n : Nat} (hn : 0 < n) {bs part : Bytes}
    (hp : part ∈ (cut n bs).dropLast) : part.length = n := by
  induction hlen : bs.length using Nat.strongRecOn generalizing bs with
  | ind k ih =>
    by_cases hne : bs = []
    · subst hne
      cases hp
    rw [cut_of_ne_nil hn hne] at hp
    by_cases hrest : bs.drop n = []
    · rw [hrest] at hp
      cases hp
    · have hpos := List.length_pos_iff.mpr hrest
      rw [List.length_drop] at hpos
      have hcut : cut n (bs.drop n) ≠ [] := by
        rw [cut_of_ne_nil hn hrest]
        exact nofun
      rw [List.dropLast_cons_of_ne_nil hcut] at hp
      rcases List.mem_cons.mp hp with rfl | hp
      · rw [List.length_take]
        omega
      · have hless : (bs.drop n).length < k := by
          rw [List.length_drop]
          omega
        exact ih _ hless hp rfl

namespace Source

theorem readsOfPiece_spec {n : Nat} (hn : 0 < n) (buffer : Nat) (bs : Bytes) :
    (readsOfPiece buffer n bs).flatten = bs ∧
      ∀ part ∈ readsOfPiece buffer n bs, part ≠ [] ∧ part.length ≤ n := by
  unfold readsOfPiece
  split
  · rename_i hb
    refine ⟨?_, fun part hp => ?_⟩
    · have hcut : ∀ ps : List Bytes, (ps.flatMap (cut n)).flatten = ps.flatten := by
        intro ps
        induction ps with
        | nil => rfl
        | cons p ps ih =>
          rw [List.flatMap_cons, List.flatten_append, ih, flatten_cut hn, List.flatten_cons]
      rw [hcut, flatten_cut (by omega)]
    · obtain ⟨_, _, hp⟩ := List.mem_flatMap.mp hp
      exact size_of_mem_cutGo hn hp
  · exact ⟨flatten_cut hn bs, fun part hp => size_of_mem_cutGo hn hp⟩

/-- **What is read is the content of the source**, up to the read that fails, if one does. -/
theorem readsOf_spec {n : Nat} (hn : 0 < n) (buffer : Nat) (events : List SourceEvent) :
    ∃ parts : List Bytes,
      readsOf buffer n events = parts.map .ok ++ (contentOf events).2.toList.map .error ∧
        parts.flatten = (contentOf events).1 ∧ ∀ part ∈ parts, part ≠ [] ∧ part.length ≤ n := by
  induction events with
  | nil => exact ⟨[], rfl, rfl, nofun⟩
  | cons event events ih =>
    obtain ⟨parts, hr, hf, hsize⟩ := ih
    cases event with
    | piece bs =>
      obtain ⟨hpf, hpsize⟩ := readsOfPiece_spec hn buffer bs
      refine ⟨readsOfPiece buffer n bs ++ parts, ?_, ?_, fun part hp => ?_⟩
      · rw [readsOf, hr, List.map_append, List.append_assoc]
        rfl
      · rw [List.flatten_append, hpf, hf]
        rfl
      · exact (List.mem_append.mp hp).elim (hpsize part) (hsize part)
    | interrupted => exact ⟨parts, hr, hf, hsize⟩
    | failed cause => exact ⟨[], rfl, rfl, nofun⟩

theorem content_ofBytes (bs : Bytes) : (ofBytes bs).content = (bs, none) :=
  congrArg (·, none) (List.append_nil _)

theorem readsOf_content {n : Nat} (hn : 0 < n) (buffer : Nat) {events : List SourceEvent}
    {data : Bytes} (h : contentOf events = (data, none)) : ∃ parts : List Bytes,
    readsOf buffer n events = parts.map .ok ∧ parts.flatten = data ∧ ∀ part ∈ parts, part ≠ [] := by
  obtain ⟨parts, hr, hf, hsize⟩ := readsOf_spec hn buffer events
  rw [h] at hr hf
  exact ⟨parts, hr.trans (List.append_nil _), hf, fun part hp => (hsize part hp).1⟩

end Source

namespace ChunkStream
variable {σ : Type} {s : ChunkStream σ} {chunk : Bytes} {chunks parts : List Bytes}
  {error : Option StreamError} {failure : Option String}

/-! ## What the calls answer -/

def after (s : ChunkStream σ) : Nat → ChunkStream σ
  | 0 => s
  | calls + 1 => s.next.2.after calls

/-- The calls of `next` answer with these chunks, then with the error, if there is one, and then
with nothing, however often it is called. -/
def Answers (s : ChunkStream σ) (chunks : List Bytes) (error : Option StreamError) : Prop :=
  ∀ k, (s.after k).next.1 = (chunks.map .ok ++ error.toList.map .error)[k]?

theorem Answers.cons (h : s.next.1 = some (.ok chunk)) (rest : s.next.2.Answers chunks error) :
    s.Answers (chunk :: chunks) error := by
  intro k
  cases k with
  | zero => exact h
  | succ k => exact rest k

theorem after_done (h : s.done = true) (k : Nat) : s.after k = s := by
  have hnext : s.next = (none, s) := by rw [next, if_pos h]
  induction k with
  | zero => rfl
  | succ k ih => rw [after, hnext, ih]

theorem answers_done (h : s.done = true) : s.Answers [] none := by
  intro k
  rw [after_done h, next, if_pos h]
  rfl

theorem answers_last (h : s.next.1 = error.map .error) (hd : s.next.2.done = true) :
    s.Answers [] error := by
  intro k
  cases k with
  | zero =>
    rw [after, h]
    cases error <;> rfl
  | succ k =>
    rw [after, answers_done hd k]
    cases error <;> rfl

/-! ## What reading gives -/

theorem pull_delivered (s : ChunkStream σ) (n : Nat) :
    ({ s with delivered := n } : ChunkStream σ).pull
      = (s.pull.1, { s.pull.2 with delivered := n }) := by
  unfold pull
  dsimp only
  split <;> rfl

theorem pull_frame (s : ChunkStream σ) :
    s.pull.2 = { s with reads := s.pull.2.reads, unpacker := s.pull.2.unpacker } := by
  unfold pull
  split <;> rfl

/-- Reading goes on with these parts, none of them empty or longer than a chunk, and then it ends or
fails. -/
inductive Yields : ChunkStream σ → List Bytes → Option String → Prop where
  | last {s : ChunkStream σ} {failure : Option String} (h : s.pull.1 = failure.map .error) :
    Yields s [] failure
  | part {s : ChunkStream σ} {part : Bytes} {parts : List Bytes} {failure : Option String}
      (h : s.pull.1 = some (.ok part)) (hne : part ≠ []) (hle : part.length ≤ s.chunkSize)
      (rest : Yields s.pull.2 parts failure) : Yields s (part :: parts) failure

theorem Yields.delivered (h : Yields s parts failure) (n : Nat) :
    Yields { s with delivered := n } parts failure := by
  induction h with
  | last h => exact .last (by rw [pull_delivered]; exact h)
  | part h hne hle rest ih =>
    refine .part (by rw [pull_delivered]; exact h) hne hle ?_
    rw [pull_delivered]
    exact ih

theorem next_last (hd : s.done = false) (ho : s.overLimit = false)
    (h : s.pull.1 = failure.map .error) :
    s.next = (failure.map fun cause => .error (.io "reading attachment" cause),
      s.pull.2.finish) := by
  rw [next, if_neg (by simp [hd]), if_neg (by simp [ho]), ← Prod.eta s.pull, h]
  cases failure <;> rfl

theorem next_part (hd : s.done = false) (ho : s.overLimit = false) {part : Bytes}
    (h : s.pull.1 = some (.ok part)) : s.next = s.pull.2.deliver part := by
  rw [next, if_neg (by simp [hd]), if_neg (by simp [ho]), ← Prod.eta s.pull, h]

theorem next_over (hd : s.done = false) (ho : s.overLimit = true) :
    s.next = (some (.error (.logTooLarge s.limit)), s.finish) := by
  rw [next, if_neg (by simp [hd]), if_pos ho]

theorem pull_account (s : ChunkStream σ) : s.pull.2.limit = s.limit ∧
    s.pull.2.delivered = s.delivered ∧ s.pull.2.done = s.done ∧
    s.pull.2.overLimit = s.overLimit ∧ s.pull.2.chunkSize = s.chunkSize := by
  rw [pull_frame]
  exact ⟨rfl, rfl, rfl, rfl, rfl⟩

/-- **A part that is too long is cut**: what fits of it is given out, if anything, and then the
error. -/
theorem answers_too_long (hd : s.done = false) (ho : s.overLimit = false) {part : Bytes}
    (h : s.pull.1 = some (.ok part)) (hlong : s.limit - s.delivered < part.length) :
    ∃ chunks : List Bytes, s.Answers chunks (some (.logTooLarge s.limit)) ∧
      (∀ chunk ∈ chunks, chunk ≠ [] ∧ chunk.length ≤ part.length) ∧
      chunks.flatten = part.take (s.limit - s.delivered) := by
  obtain ⟨hlimit, hdelivered, hdone, -, -⟩ := s.pull_account
  have hnext := next_part hd ho h
  rw [deliver, hlimit, hdelivered, if_neg (Nat.not_le.mpr hlong)] at hnext
  by_cases hz : s.limit - s.delivered = 0
  · rw [if_pos hz] at hnext
    refine ⟨[], answers_last (by rw [hnext]; rfl) (by rw [hnext]; rfl),
      (fun _ h => by cases h), ?_⟩
    rw [hz]
    rfl
  · rw [if_neg hz] at hnext
    have hover := next_over (s := s.next.2) (by rw [hnext]; exact hdone.trans hd) (by rw [hnext])
    have hne : part.take (s.limit - s.delivered) ≠ [] := by
      apply List.ne_nil_of_length_pos
      rw [List.length_take]
      omega
    refine ⟨[part.take (s.limit - s.delivered)], ?_, ?_, List.append_nil _⟩
    · refine .cons (by rw [hnext]) (answers_last ?_ (by rw [hover]; rfl))
      rw [hover, hnext]
      rfl
    · exact List.forall_mem_singleton.mpr ⟨hne, List.length_take_le' _ _⟩

/-- How a stream ends that may give out `room` of these bytes. -/
def endingOf (limit room : Nat) (failure : Option String) (bytes : Bytes) : Option StreamError :=
  if room < bytes.length then some (.logTooLarge limit)
  else failure.map (.io "reading attachment")

/-- **The calls answer with what reading gives**, as far as the limit allows. -/
theorem answers_yields (h : Yields s parts failure) (hd : s.done = false)
    (ho : s.overLimit = false) : ∃ chunks : List Bytes,
    s.Answers chunks (endingOf s.limit (s.limit - s.delivered) failure parts.flatten) ∧
      (∀ chunk ∈ chunks, chunk ≠ [] ∧ chunk.length ≤ s.chunkSize) ∧
      chunks.flatten = parts.flatten.take (s.limit - s.delivered) := by
  induction parts generalizing s with
  | nil =>
    have hlast : s.pull.1 = failure.map .error := by
      cases h with
      | last h => exact h
    have hroom : ¬ s.limit - s.delivered < ([] : List Bytes).flatten.length := Nat.not_lt_zero _
    refine ⟨[], ?_, nofun, List.take_nil.symm⟩
    rw [endingOf, if_neg hroom]
    refine answers_last ?_ ?_
    · rw [next_last hd ho hlast]
      cases failure <;> rfl
    · rw [next_last hd ho hlast]
      rfl
  | cons part parts ih =>
    obtain ⟨hpull, hne, hle, hrest⟩ : s.pull.1 = some (.ok part) ∧ part ≠ [] ∧
        part.length ≤ s.chunkSize ∧ Yields s.pull.2 parts failure := by
      cases h with
      | part h hne hle rest => exact ⟨h, hne, hle, rest⟩
    have hlen : (part :: parts).flatten.length = part.length + parts.flatten.length := by
      rw [List.flatten_cons, List.length_append]
    rcases Nat.lt_or_ge (s.limit - s.delivered) part.length with hlong | hfits
    · obtain ⟨chunks, hanswers, hsizes, hflat⟩ := answers_too_long hd ho hpull hlong
      refine ⟨chunks, ?_, fun chunk hc => ?_, ?_⟩
      · rw [endingOf, if_pos (by omega)]
        exact hanswers
      · exact ⟨(hsizes chunk hc).1, Nat.le_trans (hsizes chunk hc).2 hle⟩
      · rw [hflat, List.flatten_cons, List.take_append_of_le_length (Nat.le_of_lt hlong)]
    · obtain ⟨hlimit, hdelivered, hdone, hover, hsize⟩ := s.pull_account
      have hnext := next_part hd ho hpull
      rw [deliver, hlimit, hdelivered, if_pos hfits] at hnext
      obtain ⟨chunks, hanswers, hsizes, hflat⟩ := ih (hrest.delivered (s.delivered + part.length))
        (hdone.trans hd) (hover.trans ho)
      have hleft : s.limit - (s.delivered + part.length)
          = s.limit - s.delivered - part.length := by omega
      have hending : endingOf s.limit (s.limit - s.delivered) failure (part :: parts).flatten
          = endingOf s.limit (s.limit - s.delivered - part.length) failure parts.flatten := by
        have hiff : s.limit - s.delivered < part.length + parts.flatten.length
            ↔ s.limit - s.delivered - part.length < parts.flatten.length := by omega
        simp only [endingOf, hlen, hiff]
      dsimp only at hanswers hsizes hflat
      rw [hlimit, hleft] at hanswers hflat
      rw [hsize] at hsizes
      refine ⟨part :: chunks, ?_, List.forall_mem_cons.mpr ⟨⟨hne, hle⟩, hsizes⟩, ?_⟩
      · rw [hending]
        exact .cons (by rw [hnext]) (by rw [hnext]; exact hanswers)
      · rw [List.flatten_cons, hflat, List.flatten_cons, List.take_append,
          List.take_of_length_le hfits]

theorem yields_plain (hu : s.unpacker = none)
    (hr : s.reads = parts.map .ok ++ failure.toList.map .error)
    (hsize : ∀ part ∈ parts, part ≠ [] ∧ part.length ≤ s.chunkSize) : Yields s parts failure := by
  induction parts generalizing s with
  | nil =>
    refine .last ?_
    rw [pull, hu, hr]
    cases failure <;> rfl
  | cons part parts ih =>
    have hpull : s.pull = (some (.ok part), { s with
        reads := parts.map .ok ++ failure.toList.map .error }) := by
      rw [pull, hu, hr]
      rfl
    obtain ⟨⟨hne, hle⟩, hsizes⟩ := List.forall_mem_cons.mp hsize
    refine .part (by rw [hpull]) hne hle ?_
    rw [hpull]
    exact ih hu rfl hsizes

/-! ## All chunks -/

def failureOf (limit : Nat) (data : Bytes) : Option StreamError :=
  if limit < data.length then some (.logTooLarge limit) else none

/-- **Enough rounds give out all that the calls answer.** -/
theorem drainGo_answers (before : List Chunk) {answers : List Chunk} {rounds : Nat}
    (h : ∀ k, (s.after k).next.1 = answers[k]?) (hr : answers.length < rounds) :
    (s.drainGo before rounds).1 = before.reverse ++ answers := by
  induction answers generalizing s before rounds with
  | nil =>
    obtain ⟨rounds, rfl⟩ : ∃ r, rounds = r + 1 := ⟨rounds - 1, by omega⟩
    have hnone : s.next.1 = none := h 0
    rw [drainGo, ← Prod.eta s.next, hnone]
    exact (List.append_nil _).symm
  | cons answer answers ih =>
    rw [List.length_cons] at hr
    obtain ⟨rounds, rfl⟩ : ∃ r, rounds = r + 1 := ⟨rounds - 1, by omega⟩
    have hsome : s.next.1 = some answer := h 0
    have hrest : ∀ k, (s.next.2.after k).next.1 = answers[k]? := fun k => h (k + 1)
    rw [drainGo, ← Prod.eta s.next, hsome]
    dsimp only
    rw [ih (answer :: before) hrest (by omega), List.reverse_cons, List.append_assoc]
    rfl

theorem length_le_length_flatten (h : ∀ chunk ∈ chunks, chunk ≠ []) :
    chunks.length ≤ chunks.flatten.length := by
  induction chunks with
  | nil => exact Nat.le_refl 0
  | cons chunk chunks ih =>
    obtain ⟨hne, hrest⟩ := List.forall_mem_cons.mp h
    have hpos := List.length_pos_iff.mpr hne
    have hle := ih hrest
    rw [List.flatten_cons, List.length_append, List.length_cons]
    omega

/-- **The chunks of a stream** are what reading gives, up to the limit. -/
theorem drain_yields (h : Yields s parts none) (hd : s.done = false) (ho : s.overLimit = false)
    (hz : s.delivered = 0) : ∃ chunks : List Bytes,
    s.drain.1 = chunks.map .ok ++ (failureOf s.limit parts.flatten).toList.map .error ∧
      chunks.flatten = parts.flatten.take s.limit := by
  obtain ⟨chunks, hanswers, hsizes, hflat⟩ := answers_yields h hd ho
  rw [hz, Nat.sub_zero] at hanswers hflat
  have hchunks := length_le_length_flatten fun chunk hc => (hsizes chunk hc).1
  have hlimit : chunks.flatten.length ≤ s.limit := by
    rw [hflat]
    exact List.length_take_le _ _
  have herrors : (failureOf s.limit parts.flatten).toList.length ≤ 1 := Option.length_toList_le
  have hcount : (chunks.map .ok ++ (failureOf s.limit parts.flatten).toList.map .error
      : List Chunk).length < s.limit + 2 := by
    rw [List.length_append, List.length_map, List.length_map]
    omega
  exact ⟨chunks, drainGo_answers [] hanswers hcount, hflat⟩

theorem usedChunkSize_pos (config : StreamConfig) : 0 < config.usedChunkSize :=
  Nat.lt_of_lt_of_le (by decide) (Nat.le_max_left _ _)

theorem drain_ofSource (config : StreamConfig) {source : Source} {data : Bytes}
    (h : source.content = (data, none)) : ∃ chunks : List Bytes,
    (ofSource config source (none : Option (StepDecoder σ))).drain.1
      = chunks.map .ok ++ (failureOf config.maxLog data).toList.map .error ∧
      chunks.flatten = data.take config.maxLog := by
  obtain ⟨parts, hr, hf, hsize⟩ :=
    Source.readsOf_spec (usedChunkSize_pos config) source.buffer source.events
  have hcontent : Source.contentOf source.events = (data, none) := h
  rw [hcontent] at hr hf
  subst hf
  exact drain_yields (yields_plain rfl hr hsize) rfl rfl rfl

theorem openChunks_plain (config : StreamConfig) {source : Source} {data : Bytes}
    (h : source.content = (data, none)) : ∃ (stream : ChunkStream Gzip.Member)
    (chunks : List Bytes), openChunks config source .plain = .ok stream ∧
      stream.drain.1 = chunks.map .ok ++ (failureOf config.maxLog data).toList.map .error ∧
      chunks.flatten = data.take config.maxLog := by
  obtain ⟨chunks, hc, hf⟩ := drain_ofSource config h
  exact ⟨_, chunks, rfl, hc, hf⟩

end ChunkStream

end LogTriage
