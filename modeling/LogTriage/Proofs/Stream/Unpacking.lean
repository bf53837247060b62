import LogTriage.Stream.Unpacker

/-!
# What a decoder makes of reads

A decoder goes through a read in portions: it takes some of the bytes that it is offered, or it
refuses them, and then the rest of the read is dropped and the decoder starts anew.  `Digests` says
so of one read and `Session` of several.

What comes out is told by the decoder and the reads alone: `unpack` computes it.

* `exists_session`      every read is gone through, whatever the decoder answers;
* `Digests.allBytes_eq` the portions of a read are the read;
* `Session.unpack_eq`   what comes out of the reads comes out of their portions.
-/

namespace LogTriage

/-- What becomes of the next bytes of a read. -/
inductive Portion where
  /-- The decoder takes these bytes. -/
  | taken (bytes output : Bytes)
  /-- The decoder refuses; these bytes, the rest of the read, are dropped. -/
  | dropped (bytes output : Bytes)
deriving DecidableEq

namespace Portion

def bytes : Portion → Bytes
  | taken bytes _ | dropped bytes _ => bytes

def output : Portion → Bytes
  | taken _ output | dropped _ output => output

def isDropped : Portion → Bool
  | taken .. => false
  | dropped .. => true

def allBytes (portions : List Portion) : Bytes := portions.flatMap bytes

def allOutput (portions : List Portion) : Bytes := portions.flatMap output

def drops (portions : List Portion) : Nat := portions.countP isDropped

theorem allOutput_append (ps qs : List Portion) :
    allOutput (ps ++ qs) = allOutput ps ++ allOutput qs := List.flatMap_append

theorem allBytes_append (ps qs : List Portion) :
    allBytes (ps ++ qs) = allBytes ps ++ allBytes qs := List.flatMap_append

theorem drops_append (ps qs : List Portion) : drops (ps ++ qs) = drops ps + drops qs :=
  List.countP_append

end Portion

open Portion (allBytes allOutput drops)

namespace StepDecoder
variable {σ : Type}

/-- A decoder that takes none of the bytes offered has refused them. -/
def Refuses (d : StepDecoder σ) (s : σ) (offered output : Bytes) : Prop :=
  d.offer s offered = .refused output ∨ ∃ s', d.offer s offered = .taken 0 output s'

/-- The decoder goes through a read: it is offered a few bytes after those that it has taken, takes
some of them, and so on to the end of the read; or it refuses, the rest of the read is dropped, and
the decoder is at its start again. -/
inductive Digests (d : StepDecoder σ) : σ → Bytes → List Portion → σ → Prop where
  | ended (s : σ) : Digests d s [] [] s
  | taken {s s' last : σ} {bs output : Bytes} {count : Nat} {portions : List Portion}
      (hne : bs ≠ []) (hpos : 0 < count)
      (hoffer : d.offer s (bs.take Unpacker.stepSize) = .taken count output s')
      (rest : Digests d s' (bs.drop count) portions last) :
      Digests d s bs (.taken (bs.take count) output :: portions) last
  | refused {s : σ} {bs output : Bytes} (hne : bs ≠ [])
      (hoffer : d.Refuses s (bs.take Unpacker.stepSize) output) :
      Digests d s bs [.dropped bs output] d.start

inductive Session (d : StepDecoder σ) : σ → List Bytes → List (List Portion) → σ → Prop where
  | ended (s : σ) : Session d s [] [] s
  | read {s s' last : σ} {part : Bytes} {parts : List Bytes} {portions : List Portion}
      {more : List (List Portion)} (first : Digests d s part portions s')
      (rest : Session d s' parts more last) : Session d s (part :: parts) (portions :: more) last

def closing (d : StepDecoder σ) (failure : Option String) (s : σ) : Bytes :=
  match failure with
  | none => d.close s
  | some _ => []

variable {d : StepDecoder σ} {s last : σ} {bs : Bytes} {parts : List Bytes}
  {portions : List Portion} {sessions : List (List Portion)}

/-- **Every read is gone through**, whatever the decoder answers. -/
theorem exists_digests (d : StepDecoder σ) (s : σ) (bs : Bytes) :
    ∃ portions last, d.Digests s bs portions last := by
  induction hlen : bs.length using Nat.strongRecOn generalizing s bs with
  | ind k ih =>
    by_cases hne : bs = []
    · subst hne
      exact ⟨[], s, .ended s⟩
    cases hoffer : d.offer s (bs.take Unpacker.stepSize) with
    | refused output => exact ⟨_, _, .refused hne (.inl hoffer)⟩
    | taken count output s' =>
      rcases Nat.eq_zero_or_pos count with rfl | hpos
      · exact ⟨_, _, .refused hne (.inr ⟨s', hoffer⟩)⟩
      · have hless : (bs.drop count).length < k := by
          have hbs := List.length_pos_iff.mpr hne
          rw [List.length_drop]
          omega
        obtain ⟨portions, last, hrest⟩ := ih _ hless s' (bs.drop count) rfl
        exact ⟨_, _, .taken hne hpos hoffer hrest⟩

theorem exists_session (d : StepDecoder σ) (s : σ) (parts : List Bytes) :
    ∃ sessions last, d.Session s parts sessions last := by
  induction parts generalizing s with
  | nil => exact ⟨[], s, .ended s⟩
  | cons part parts ih =>
    obtain ⟨portions, s', hfirst⟩ := exists_digests d s part
    obtain ⟨sessions, last, hrest⟩ := ih s'
    exact ⟨_, _, .read hfirst hrest⟩

/-- **The portions of a read are the read**, in order, and nothing of it is lost or comes twice. -/
theorem Digests.allBytes_eq (h : d.Digests s bs portions last) : allBytes portions = bs := by
  induction h with
  | ended s => rfl
  | taken hne hpos hoffer rest ih =>
    rw [allBytes, List.flatMap_cons, ← allBytes, ih]
    exact List.take_append_drop _ _
  | refused hne hoffer => exact List.append_nil _

theorem Digests.dropped_last (h : d.Digests s bs portions last) {before after : List Portion}
    {p : Portion} (hsplit : portions = before ++ p :: after) (hp : p.isDropped = true) :
    after = [] ∧ last = d.start := by
  induction h generalizing before with
  | ended s => cases before <;> cases hsplit
  | taken hne hpos hoffer rest ih =>
    cases before with
    | nil =>
      cases hsplit
      cases hp
    | cons q before =>
      rw [List.cons_append] at hsplit
      injection hsplit with _ hsplit
      exact ih hsplit
  | refused hne hoffer =>
    cases before with
    | nil =>
      cases hsplit
      exact ⟨rfl, rfl⟩
    | cons q before =>
      rw [List.cons_append] at hsplit
      injection hsplit with _ hsplit
      cases before <;> cases hsplit

theorem Session.map_allBytes (h : d.Session s parts sessions last) :
    sessions.map allBytes = parts := by
  induction h with
  | ended s => rfl
  | read first rest ih => rw [List.map_cons, first.allBytes_eq, ih]

/-! ## What comes out -/

/-- What a decoder makes of a read, and its state after it.  Each round takes a byte or drops the
rest. -/
def digestGo (d : StepDecoder σ) : Nat → σ → Bytes → Bytes × σ
  | 0, s, _ => ([], s)
  | _ + 1, s, [] => ([], s)
  | rounds + 1, s, b :: bs =>
    match d.offer s ((b :: bs).take Unpacker.stepSize) with
    | .refused output | .taken 0 output _ => (output, d.start)
    | .taken (count + 1) output s =>
      let (more, s) := d.digestGo rounds s (bs.drop count)
      (output ++ more, s)

def digest (d : StepDecoder σ) (s : σ) (bs : Bytes) : Bytes × σ := d.digestGo bs.length s bs

def unpack (d : StepDecoder σ) : σ → List ReadResult → Bytes
  | s, [] => d.close s
  | _, .error _ :: _ => []
  | s, .ok bs :: reads => (d.digest s bs).1 ++ d.unpack (d.digest s bs).2 reads

variable {d : StepDecoder σ} {s : σ}

theorem digestGo_eq {rounds rounds' : Nat} {bs : Bytes} (h : bs.length ≤ rounds)
    (h' : bs.length ≤ rounds') : d.digestGo rounds s bs = d.digestGo rounds' s bs := by
  induction rounds generalizing rounds' s bs with
  | zero =>
    rw [List.length_eq_zero_iff.mp (Nat.le_zero.mp h)]
    cases rounds' <;> rfl
  | succ rounds ih =>
    cases bs with
    | nil => cases rounds' <;> rfl
    | cons b bs =>
      rw [List.length_cons] at h h'
      obtain ⟨rounds', rfl⟩ : ∃ r, rounds' = r + 1 := ⟨rounds' - 1, by omega⟩
      rw [digestGo, digestGo]
      have hdrop (count : Nat) : (bs.drop count).length ≤ bs.length := by
        rw [List.length_drop]
        exact Nat.sub_le _ _
      split
      · rfl
      · rfl
      · rename_i count output s' _
        have hcount := hdrop count
        have hrest : d.digestGo rounds s' (bs.drop count) = d.digestGo rounds' s' (bs.drop count) :=
          ih (by omega) (by omega)
        rw [hrest]

theorem digest_refused {output : Bytes} (hne : bs ≠ [])
    (h : d.Refuses s (bs.take Unpacker.stepSize) output) : d.digest s bs = (output, d.start) := by
  obtain ⟨b, bs, rfl⟩ := List.exists_cons_of_ne_nil hne
  rcases h with h | ⟨s', h⟩
  · rw [digest, List.length_cons, digestGo, h]
  · rw [digest, List.length_cons, digestGo, h]

theorem digest_taken {output : Bytes} {count : Nat} {s' : σ} (hne : bs ≠ [])
    (h : d.offer s (bs.take Unpacker.stepSize) = .taken (count + 1) output s') :
    d.digest s bs = (output ++ (d.digest s' (bs.drop (count + 1))).1,
      (d.digest s' (bs.drop (count + 1))).2) := by
  obtain ⟨b, bs, rfl⟩ := List.exists_cons_of_ne_nil hne
  have hdrop : (bs.drop count).length ≤ bs.length := by
    rw [List.length_drop]
    exact Nat.sub_le _ _
  rw [digest, List.length_cons, digestGo, h]
  dsimp only
  rw [digestGo_eq hdrop (Nat.le_refl _)]
  rfl

/-- **What comes out of a read comes out of its portions.** -/
theorem Digests.digest_eq (h : d.Digests s bs portions last) :
    d.digest s bs = (allOutput portions, last) := by
  induction h with
  | ended s => rfl
  | @taken _ _ _ _ output count _ hne hpos hoffer rest ih =>
    obtain ⟨count, rfl⟩ : ∃ c, count = c + 1 := ⟨count - 1, by omega⟩
    rw [digest_taken hne hoffer, ih]
    rfl
  | refused hne hoffer =>
    rw [digest_refused hne hoffer, allOutput, List.flatMap_singleton]
    rfl

/-- **What comes out of the reads comes out of their portions**, and then of the end. -/
theorem Session.unpack_eq (h : d.Session s parts sessions last) :
    d.unpack s (parts.map .ok) = allOutput sessions.flatten ++ d.close last := by
  induction h with
  | ended s => rfl
  | read first rest ih =>
    rw [List.map_cons, unpack, first.digest_eq, ih, List.flatten_cons, Portion.allOutput_append,
      List.append_assoc]

end StepDecoder

end LogTriage
