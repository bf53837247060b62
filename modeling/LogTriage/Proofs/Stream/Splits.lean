import LogTriage.Proofs.Stream.Portions

/-!
# Packed bytes that may be cut anywhere

What is read of a packed log comes in parts, and the decoder is offered a few bytes at a time, so
that the source decides where the packed bytes are cut.  `Unpacks` says that this does not matter:
however they are cut, the decoder unpacks them to the same bytes and refuses none.  Then nothing of
a stream is ever dropped.

* `Unpacks.offer`         what is left of the packed bytes may be cut anywhere, too;
* `unpack_of_unpacks`     what comes out of the reads;
* `unpacks_of_check`      a check of packed bytes that may be cut anywhere;
* `nextChunk_intact`      a chunk leaves an unpacker that has dropped nothing as such;
* `skipped_drain`         so does the whole stream.
-/

namespace LogTriage

namespace StepDecoder
variable {σ : Type} {d : StepDecoder σ} {s : σ} {packed bs : Bytes} {sizes : List Nat}

/-- What a decoder makes of packed bytes that are offered in portions of these sizes.  What it does
not take of a portion is offered again.  There is nothing when it refuses a portion, takes more than
was offered, or the sizes run out. -/
def unpackBy (d : StepDecoder σ) : List Nat → σ → Bytes → Option Bytes
  | _, s, [] => some (d.close s)
  | [], _, _ :: _ => none
  | n :: sizes, s, b :: bs =>
    match d.offer s ((b :: bs).take n) with
    | .taken (count + 1) output s =>
      if count < ((b :: bs).take n).length then
        (d.unpackBy sizes s (bs.drop count)).map (output ++ ·)
      else none
    | _ => none

/-- However the packed bytes are cut, the decoder unpacks them to `bs` and refuses none. -/
def Unpacks (d : StepDecoder σ) (s : σ) (packed bs : Bytes) : Prop :=
  ∀ sizes : List Nat, (∀ n ∈ sizes, 0 < n) → packed.length ≤ sizes.length →
    d.unpackBy sizes s packed = some bs

theorem unpackBy_append (more : List Nat) (h : packed.length ≤ sizes.length) :
    d.unpackBy (sizes ++ more) s packed = d.unpackBy sizes s packed := by
  induction sizes generalizing s packed with
  | nil =>
    rw [List.length_eq_zero_iff.mp (Nat.le_zero.mp h), unpackBy, unpackBy]
  | cons n sizes ih =>
    cases packed with
    | nil => rw [unpackBy, unpackBy]
    | cons b bs =>
      rw [List.cons_append, unpackBy, unpackBy]
      split
      · rename_i count output s' _
        have hrest : (bs.drop count).length ≤ sizes.length := by
          simp only [List.length_cons] at h
          rw [List.length_drop]
          omega
        rw [ih hrest]
      · rfl

theorem unpackBy_cons {n : Nat} (hp : packed ≠ [])
    (h : d.unpackBy (n :: sizes) s packed = some bs) : ∃ count output s' rest,
    d.offer s (packed.take n) = .taken (count + 1) output s' ∧ count < (packed.take n).length ∧
      bs = output ++ rest ∧ d.unpackBy sizes s' (packed.drop (count + 1)) = some rest := by
  obtain ⟨b, tail, rfl⟩ := List.exists_cons_of_ne_nil hp
  rw [unpackBy] at h
  split at h
  · rename_i count output s' hoffer
    split at h
    · rename_i hcount
      obtain ⟨rest, hrest, hbs⟩ := Option.map_eq_some_iff.mp h
      exact ⟨count, output, s', rest, hoffer, hcount, hbs.symm, hrest⟩
    · cases h
  · cases h

theorem Unpacks.offer (h : d.Unpacks s packed bs) (hp : packed ≠ []) {n : Nat} (hn : 0 < n) :
    ∃ count output s' rest, d.offer s (packed.take n) = .taken (count + 1) output s' ∧
      count < (packed.take n).length ∧ bs = output ++ rest ∧
      d.Unpacks s' (packed.drop (count + 1)) rest := by
  have hones : ∀ m ∈ List.replicate packed.length 1, 0 < m := by
    intro m hm
    rw [List.eq_of_mem_replicate hm]
    exact Nat.one_pos
  have hlong (sizes : List Nat) :
      packed.length ≤ (n :: (sizes ++ List.replicate packed.length 1)).length := by
    simp only [List.length_cons, List.length_append, List.length_replicate]
    omega
  have hby (sizes : List Nat) (hsizes : ∀ m ∈ sizes, 0 < m) :=
    unpackBy_cons hp (h (n :: (sizes ++ List.replicate packed.length 1)) (by
      intro m hm
      rcases List.mem_cons.mp hm with rfl | hm
      · exact hn
      · exact (List.mem_append.mp hm).elim (hsizes m) (hones m)) (hlong sizes))
  obtain ⟨count, output, s', rest, hoffer, hcount, hbs, -⟩ := hby [] nofun
  refine ⟨count, output, s', rest, hoffer, hcount, hbs, fun sizes hsizes hlen => ?_⟩
  obtain ⟨count', output', s'', rest', hoffer', -, hbs', hrest⟩ := hby sizes hsizes
  rw [hoffer] at hoffer'
  cases hoffer'
  rw [hbs] at hbs'
  rw [unpackBy_append _ hlen] at hrest
  rw [hrest, List.append_cancel_left hbs']

theorem Unpacks.close_eq (h : d.Unpacks s [] bs) : d.close s = bs := by
  have hnone := h [] nofun (Nat.le_refl _)
  rw [unpackBy] at hnone
  exact Option.some.inj hnone

theorem take_append_min (part after : Bytes) (n : Nat) :
    (part ++ after).take (min n part.length) = part.take n := by
  rw [List.take_append_of_le_length (Nat.min_le_right n part.length), List.take_eq_take_iff]
  omega

/-- What a decoder makes of a part, when it and what follows may be cut anywhere. -/
theorem digest_of_unpacks {part after : Bytes} (h : d.Unpacks s (part ++ after) bs) :
    ∃ rest, bs = (d.digest s part).1 ++ rest ∧ d.Unpacks (d.digest s part).2 after rest := by
  induction hlen : part.length using Nat.strongRecOn generalizing s part bs with
  | ind k ih =>
    by_cases hp : part = []
    · subst hp
      exact ⟨bs, rfl, h⟩
    have hpos := List.length_pos_iff.mpr hp
    have hsize : 0 < min Unpacker.stepSize part.length := Nat.lt_min.mpr ⟨by decide, hpos⟩
    obtain ⟨count, output, s', rest, hoffer, hcount, rfl, hrest⟩ :=
      h.offer (fun hnil => hp (List.append_eq_nil_iff.mp hnil).1) hsize
    rw [take_append_min] at hoffer hcount
    have hle : count + 1 ≤ part.length := by
      rw [List.length_take] at hcount
      omega
    rw [List.drop_append_of_le_length hle] at hrest
    have hdigest := digest_taken hp hoffer
    have hless : (part.drop (count + 1)).length < k := by
      rw [List.length_drop]
      omega
    obtain ⟨rest', rfl, hrest'⟩ := ih _ hless hrest rfl
    rw [hdigest]
    exact ⟨rest', (List.append_assoc _ _ _).symm, hrest'⟩

/-- **What comes out of the reads** when the packed bytes may be cut anywhere. -/
theorem unpack_of_unpacks {parts : List Bytes} (h : d.Unpacks s parts.flatten bs) :
    d.unpack s (parts.map .ok) = bs := by
  induction parts generalizing s bs with
  | nil => exact h.close_eq
  | cons part parts ih =>
    obtain ⟨rest, rfl, hrest⟩ := digest_of_unpacks h
    rw [List.map_cons, unpack, ih hrest]

/-! ### Checking

However packed bytes are cut, a decoder comes to finitely many states over them.  When portions of
any size lead from each of these to another one, the packed bytes may be cut anywhere. -/

/-- A state, the packed bytes that are left then, and what has still to be put out. -/
structure Prospect (σ : Type) where
  state : σ
  packed : Bytes
  owed : Bytes
deriving DecidableEq

def portion (d : StepDecoder σ) (p : Prospect σ) (n : Nat) : Option (Prospect σ) :=
  match d.offer p.state (p.packed.take n) with
  | .taken (count + 1) output state =>
    if count < (p.packed.take n).length ∧ output <+: p.owed then
      some ⟨state, p.packed.drop (count + 1), p.owed.drop output.length⟩
    else none
  | _ => none

def portions (d : StepDecoder σ) (p : Prospect σ) : List (Option (Prospect σ)) :=
  (List.range p.packed.length).map fun n => d.portion p (n + 1)

/-- Portions of any size lead on from the prospects `todo`, and from all that these lead to, but for
those that were `seen` before; at the end of the packed bytes everything is put out. -/
def check [DecidableEq σ] (d : StepDecoder σ) :
    Nat → List (Prospect σ) → List (Prospect σ) → Bool
  | _, [], _ => true
  | 0, _ :: _, _ => false
  | rounds + 1, p :: todo, seen =>
    if p ∈ seen then d.check rounds todo seen
    else
      (p.packed ≠ [] || d.close p.state = p.owed) && (d.portions p).all (·.isSome)
        && d.check rounds ((d.portions p).filterMap id ++ todo) (p :: seen)

structure LeadsTo (d : StepDecoder σ) (p : Prospect σ) (ps : List (Prospect σ)) : Prop where
  ended : p.packed = [] → d.close p.state = p.owed
  portions : ∀ next ∈ d.portions p, ∃ q ∈ ps, next = some q

variable {p q : Prospect σ} {ps : List (Prospect σ)}

theorem closed_of_check [DecidableEq σ] {rounds : Nat} {todo seen : List (Prospect σ)}
    (h : d.check rounds todo seen = true) : ∃ ps, (∀ p ∈ todo, p ∈ ps) ∧ (∀ p ∈ seen, p ∈ ps) ∧
      ∀ p ∈ ps, p ∉ seen → d.LeadsTo p ps := by
  induction rounds generalizing todo seen with
  | zero =>
    cases todo with
    | nil => exact ⟨seen, nofun, fun _ hp => hp, fun _ hp hn => absurd hp hn⟩
    | cons p todo => cases h
  | succ rounds ih =>
    cases todo with
    | nil => exact ⟨seen, nofun, fun _ hp => hp, fun _ hp hn => absurd hp hn⟩
    | cons p todo =>
      rw [check] at h
      split at h
      · rename_i hp
        obtain ⟨ps, htodo, hseen, hleads⟩ := ih h
        exact ⟨ps, List.forall_mem_cons.mpr ⟨hseen p hp, htodo⟩, hseen, hleads⟩
      · simp only [Bool.and_eq_true, Bool.or_eq_true, decide_eq_true_eq, List.all_eq_true] at h
        obtain ⟨⟨hended, hall⟩, hrest⟩ := h
        obtain ⟨ps, htodo, hseen, hleads⟩ := ih hrest
        have hp := hseen p List.mem_cons_self
        refine ⟨ps, ?_, fun q hq => hseen q (List.mem_cons_of_mem _ hq), fun q hq hn => ?_⟩
        · exact List.forall_mem_cons.mpr ⟨hp, fun q hq => htodo q (List.mem_append_right _ hq)⟩
        · by_cases hqp : q = p
          · subst hqp
            refine ⟨fun hnil => hended.resolve_left (absurd hnil), fun next hnext => ?_⟩
            obtain ⟨r, hr⟩ := Option.isSome_iff_exists.mp (hall next hnext)
            refine ⟨r, htodo r (List.mem_append_left _ ?_), hr⟩
            exact List.mem_filterMap.mpr ⟨next, hnext, hr⟩
          · exact hleads q hq (List.not_mem_cons_of_ne_of_not_mem hqp hn)

theorem portion_eq_some {n : Nat} (h : d.portion p n = some q) : ∃ count output,
    d.offer p.state (p.packed.take n) = .taken (count + 1) output q.state ∧
      count < (p.packed.take n).length ∧ p.owed = output ++ q.owed ∧
      q.packed = p.packed.drop (count + 1) := by
  unfold portion at h
  split at h
  · rename_i count output s' hoffer
    split at h
    · rename_i hok
      obtain ⟨hcount, rest, howed⟩ := hok
      cases h
      refine ⟨count, output, hoffer, hcount, ?_, rfl⟩
      dsimp only
      rw [← howed, List.drop_left]
    · cases h
  · cases h

/-- A portion of any size leads on, since one beyond the end is one up to it. -/
theorem LeadsTo.portion (h : d.LeadsTo p ps) (hpacked : p.packed ≠ []) {n : Nat} (hn : 0 < n) :
    ∃ q ∈ ps, d.portion p n = some q := by
  have hlen := List.length_pos_iff.mpr hpacked
  have hsize : min n p.packed.length - 1 < p.packed.length := by omega
  have htake : p.packed.take (min n p.packed.length - 1 + 1) = p.packed.take n := by
    rw [List.take_eq_take_iff]
    omega
  have hmem := List.mem_map_of_mem (f := fun n => d.portion p (n + 1)) (List.mem_range.mpr hsize)
  obtain ⟨q, hq, hnext⟩ := h.portions _ hmem
  refine ⟨q, hq, ?_⟩
  rw [StepDecoder.portion, htake] at hnext
  exact hnext

/-- From prospects that lead to one another only, the packed bytes may be cut anywhere. -/
theorem unpacks_of_closed (h : ∀ p ∈ ps, d.LeadsTo p ps) (hp : p ∈ ps) :
    d.Unpacks p.state p.packed p.owed := by
  intro sizes hsizes hlen
  induction sizes generalizing p with
  | nil =>
    have hnil := List.length_eq_zero_iff.mp (Nat.le_zero.mp hlen)
    rw [hnil, unpackBy, (h p hp).ended hnil]
  | cons n sizes ih =>
    cases hpacked : p.packed with
    | nil => rw [unpackBy, (h p hp).ended hpacked]
    | cons b bs =>
      have hne : p.packed ≠ [] := by
        rw [hpacked]
        nofun
      obtain ⟨q, hq, hnext⟩ := (h p hp).portion hne (hsizes n List.mem_cons_self)
      obtain ⟨count, output, hoffer, hcount, howed, hrest⟩ := portion_eq_some hnext
      have hleft : q.packed.length ≤ sizes.length := by
        rw [hrest, List.length_drop]
        simp only [List.length_cons] at hlen
        omega
      have hq := ih hq (fun m hm => hsizes m (List.mem_cons_of_mem _ hm)) hleft
      rw [hpacked] at hoffer hcount hrest
      rw [List.drop_succ_cons] at hrest
      rw [unpackBy, hoffer]
      dsimp only
      rw [if_pos hcount, ← hrest, hq, howed]
      rfl

/-- **Packed bytes that pass the check** may be cut anywhere. -/
theorem unpacks_of_check [DecidableEq σ] {rounds : Nat} (h : d.check rounds [p] [] = true) :
    d.Unpacks p.state p.packed p.owed := by
  obtain ⟨ps, htodo, -, hleads⟩ := closed_of_check h
  exact unpacks_of_closed (fun q hq => hleads q hq nofun) (htodo p (List.mem_singleton_self p))

end StepDecoder

/-! ## Nothing is dropped -/

namespace Unpacker
variable {σ : Type} {u : Unpacker σ} {reads : List ReadResult} {n : Nat}

/-- Nothing has been dropped, and what is still to be read may be cut anywhere. -/
structure Intact (u : Unpacker σ) (reads : List ReadResult) : Prop where
  skipped : u.skipped = 0
  unpacks : u.closed = false → ∃ (parts : List Bytes) (bs : Bytes), reads = parts.map .ok ∧
    u.decoder.Unpacks u.state (u.input ++ parts.flatten) bs
  closed : u.closed = true → u.input = [] ∧ reads = []

/-- **A step drops nothing**, and takes some of the read. -/
theorem Intact.step (h : Intact u reads) (hi : u.input ≠ []) :
    Intact u.step reads ∧ u.step.input.length < u.input.length := by
  have hclosed : u.closed = false := by
    cases hc : u.closed with
    | false => rfl
    | true => exact absurd (h.closed hc).1 hi
  obtain ⟨parts, bs, hreads, hunpacks⟩ := h.unpacks hclosed
  have hpos := List.length_pos_iff.mpr hi
  have hsize : 0 < min stepSize u.input.length := Nat.lt_min.mpr ⟨by decide, hpos⟩
  obtain ⟨count, output, s, rest, hoffer, hcount, -, hrest⟩ :=
    hunpacks.offer (fun hnil => hi (List.append_eq_nil_iff.mp hnil).1) hsize
  rw [StepDecoder.take_append_min] at hoffer hcount
  have hle : count + 1 ≤ u.input.length := by
    rw [List.length_take] at hcount
    omega
  rw [List.drop_append_of_le_length hle] at hrest
  rw [step_taken hoffer]
  refine ⟨⟨h.skipped, fun _ => ⟨parts, rest, hreads, hrest⟩, fun hc => ?_⟩, ?_⟩
  · have hc : u.closed = true := hc
    rw [hclosed] at hc
    cases hc
  · rw [List.length_drop]
    omega

theorem Intact.fill (h : Intact u reads) (n : Nat) :
    Intact (u.fill n) reads ∧ (n ≤ (u.fill n).output.size ∨ (u.fill n).input = []) :=
  fillGo_keeps (P := fun u => Intact u reads) (fun _ hu hi => hu.step hi) h
    (Nat.le_refl u.input.length)

theorem Intact.close (h : Intact u []) (hi : u.input = []) : Intact u.close [] := by
  unfold Unpacker.close
  split
  · exact h
  · exact ⟨h.skipped, nofun, fun _ => ⟨hi, rfl⟩⟩

theorem Intact.takeChunk (h : Intact u reads) (n : Nat) : Intact (u.takeChunk n).2 reads :=
  ⟨h.skipped, h.unpacks, h.closed⟩

theorem Intact.read {part : Bytes} (h : Intact u (.ok part :: reads)) (hi : u.input = []) :
    Intact { u with input := part } reads := by
  have hclosed : u.closed = false := by
    cases hc : u.closed with
    | false => rfl
    | true => cases (h.closed hc).2
  obtain ⟨parts, bs, hreads, hunpacks⟩ := h.unpacks hclosed
  cases parts with
  | nil => cases hreads
  | cons part' parts =>
    rw [List.map_cons] at hreads
    injection hreads with hpart hreads
    cases hpart
    rw [hi, List.nil_append, List.flatten_cons] at hunpacks
    refine ⟨h.skipped, fun _ => ⟨parts, bs, hreads, hunpacks⟩, fun hc => ?_⟩
    have hc : u.closed = true := hc
    rw [hclosed] at hc
    cases hc

theorem nextChunk_intact (h : Intact u reads) :
    Intact (u.nextChunk n reads).2.2 (u.nextChunk n reads).2.1 := by
  induction reads generalizing u with
  | nil =>
    obtain ⟨hfill, hdone⟩ := h.fill n
    by_cases hfull : n ≤ (u.fill n).output.size
    · rw [nextChunk_full hfull]
      exact hfill.takeChunk n
    · rw [nextChunk_end hfull]
      exact (hfill.close (hdone.resolve_left hfull)).takeChunk n
  | cons read reads ih =>
    obtain ⟨hfill, hdone⟩ := h.fill n
    by_cases hfull : n ≤ (u.fill n).output.size
    · rw [nextChunk_full hfull]
      exact hfill.takeChunk n
    · cases read with
      | error cause =>
        cases hc : (u.fill n).closed with
        | true => cases (hfill.closed hc).2
        | false =>
          obtain ⟨parts, bs, hreads, -⟩ := hfill.unpacks hc
          cases parts with
          | nil => cases hreads
          | cons part parts => cases hreads
      | ok part =>
        rw [nextChunk_cons hfull]
        exact ih (hfill.read (hdone.resolve_left hfull))

end Unpacker

namespace ChunkStream
variable {σ : Type} {s : ChunkStream σ}

def Intact (s : ChunkStream σ) : Prop := ∀ u, s.unpacker = some u → u.Intact s.reads

theorem Intact.of_eq {s' : ChunkStream σ} (h : Intact s) (hu : s'.unpacker = s.unpacker)
    (hr : s'.reads = s.reads) : Intact s' := by
  intro u hu'
  rw [hr]
  exact h u (hu ▸ hu')

theorem Intact.pull (h : Intact s) : Intact s.pull.2 := by
  intro u hu
  cases hs : s.unpacker with
  | none =>
    have hnone : s.pull.2.unpacker = none := by
      rw [ChunkStream.pull, hs]
      cases s.reads with
      | nil => exact hs
      | cons read reads => rfl
    rw [hnone] at hu
    cases hu
  | some u' =>
    have hpull : s.pull.2 = { s with
        reads := (u'.nextChunk s.chunkSize s.reads).2.1
        unpacker := some (u'.nextChunk s.chunkSize s.reads).2.2 } := by
      rw [ChunkStream.pull, hs]
    rw [hpull] at hu ⊢
    cases hu
    exact Unpacker.nextChunk_intact (h u' hs)

theorem Intact.next (h : Intact s) : Intact s.next.2 := by
  have hpull := h.pull
  unfold ChunkStream.next
  split
  · exact h
  split
  · exact h.of_eq rfl rfl
  generalize s.pull = pulled at hpull
  obtain ⟨chunk, s'⟩ := pulled
  cases chunk with
  | none => exact hpull.of_eq rfl rfl
  | some read =>
    cases read with
    | error cause => exact hpull.of_eq rfl rfl
    | ok chunk =>
      dsimp only [deliver]
      split
      · exact hpull.of_eq rfl rfl
      split
      · exact hpull.of_eq rfl rfl
      · exact hpull.of_eq rfl rfl

theorem Intact.drainGo (h : Intact s) (before : List Chunk) (rounds : Nat) :
    Intact (s.drainGo before rounds).2 := by
  induction rounds generalizing s before with
  | zero => exact h
  | succ rounds ih =>
    have hnext := h.next
    rw [ChunkStream.drainGo]
    generalize s.next = out at hnext
    obtain ⟨chunk, s'⟩ := out
    cases chunk with
    | none => exact hnext
    | some chunk => exact ih hnext _

/-- **Nothing of the stream is dropped.** -/
theorem skipped_drain (h : Intact s) : s.drain.2.skipped = 0 := by
  have hdrain : Intact s.drain.2 := h.drainGo [] (s.limit + 2)
  unfold skipped
  split
  · rename_i u hu
    exact (hdrain u hu).skipped
  · rfl

theorem intact_of_unpacker_none (h : s.unpacker = none) : Intact s := by
  intro u hu
  rw [h] at hu
  cases hu

end ChunkStream

end LogTriage
