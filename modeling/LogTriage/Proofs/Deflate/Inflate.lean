import LogTriage.Deflate.Inflater

/-!
# Unpacking a part

Packed data is unpacked window by window, until enough bytes are there.  How many are wanted only
decides where this ends: whoever wants fewer gets the beginning of what the other one gets, and
that many bytes at least, if there are.

* `size_run_full`     an inflater that stops for want of room has filled it;
* `rounds_feed`       a window that is not the last one takes some of the data or is full;
* `inflateGo_prefix`  enough rounds are there, and windows do not depend on what is wanted;
* `inflate_take`      the bytes that both wanted are the same;
* `inflate_whole`     data that is unpacked to its end is not broken for one who wants fewer bytes.
-/

namespace LogTriage.Deflate

namespace Inflater
variable {s s' : Inflater} {packed : Bytes} {room : Nat}

/-- **An inflater that stops for want of room has filled it.** -/
theorem size_run_full {rounds : Nat} (h : s.run room rounds = (.full, s')) :
    s'.output.size = s.output.size + room := by
  induction rounds generalizing s room with
  | zero => cases h
  | succ rounds ih =>
    unfold run at h
    split at h
    · cases h
      rfl
    · rw [ih h, Array.size_push]
      omega
    split at h
    · cases h
    rw [if_neg Bool.false_ne_true] at h
    split at h
    · cases h
    · cases h
    · have hsize := ih h
      exact hsize
    · have hsize := ih h
      exact hsize
    · have hsize := ih h
      exact hsize
    split at h
    · cases h
      rfl
    · rw [ih h, Array.size_push]
      omega

theorem length_feed_full (h : (s.feed packed room).pause = .full) :
    (s.feed packed room).output.length = room := by
  unfold feed at h ⊢
  dsimp only at h ⊢
  generalize hr : run _ _ _ = out at h ⊢
  obtain ⟨pause, s'⟩ := out
  dsimp only at h ⊢
  split at h
  · rename_i hp
    subst hp
    cases h
  · have h : pause = .full := h
    subst h
    have hsize := size_run_full hr
    rw [if_neg nofun]
    simp [hsize]

theorem taken_feed_starved (h : (s.feed packed room).pause = .starved) :
    (s.feed packed room).taken = packed.length := by
  unfold feed at h ⊢
  dsimp only at h ⊢
  split at h
  · rename_i hp
    rw [if_pos hp]
  · rename_i hp
    exact absurd h hp

end Inflater

variable {wanted wanted' count rounds rounds' : Nat} {done : List Bytes} {s : Inflater}
  {packed bs bs' : Bytes}

theorem prefix_of_inflateGo (h : inflateGo wanted done count s packed rounds = some bs) :
    done.reverse.flatten <+: bs := by
  induction rounds generalizing done count s packed with
  | zero =>
    cases h
    exact List.prefix_rfl
  | succ rounds ih =>
    have hcons (output : Bytes) :
        done.reverse.flatten <+: (output :: done).reverse.flatten := by
      rw [List.reverse_cons, List.flatten_append]
      exact List.prefix_append _ _
    unfold inflateGo at h
    dsimp only at h
    split at h
    · cases h
    split at h
    · cases h
      exact hcons _
    · exact (hcons _).trans (ih h)

/-- There is nothing more to unpack after this window of `packed`. -/
def Inflater.Fed.Last (fed : Inflater.Fed) (packed : Bytes) : Prop :=
  fed.pause = .ended ∨ fed.pause = .starved ∧ packed.drop fed.taken = []

instance (fed : Inflater.Fed) (packed : Bytes) : Decidable (fed.Last packed) :=
  inferInstanceAs (Decidable (_ ∨ _))

theorem Inflater.Fed.enough_iff (fed : Inflater.Fed) (packed : Bytes) (wanted count : Nat) :
    (decide (wanted ≤ count) || decide (fed.pause = .starved) && (packed.drop fed.taken).isEmpty ||
      decide (fed.pause = .ended)) = true ↔ wanted ≤ count ∨ fed.Last packed := by
  rw [Bool.or_eq_true, Bool.or_eq_true, Bool.and_eq_true, decide_eq_true_iff, decide_eq_true_iff,
    decide_eq_true_iff, List.isEmpty_iff, or_assoc, or_comm (b := fed.pause = .ended)]
  rfl

/-- A window that is not the last one takes some of the data or is full. -/
theorem rounds_feed (s : Inflater) (packed : Bytes) (wanted count : Nat) :
    let fed := s.feed (packed.take windowSize) windowSize
    fed.pause ≠ .broken → ¬ fed.Last packed → ¬ wanted ≤ count + fed.output.length →
      (packed.drop fed.taken).length + (wanted - (count + fed.output.length)) / windowSize + 1
        ≤ packed.length + (wanted - count) / windowSize := by
  intro fed hbroken hlast henough
  have hpos : 0 < windowSize := by decide
  rw [List.length_drop]
  cases hpause : fed.pause with
  | starved =>
    have hleft : packed.drop fed.taken ≠ [] := fun he => hlast (.inr ⟨hpause, he⟩)
    have htaken : fed.taken = min windowSize packed.length := by
      rw [Inflater.taken_feed_starved hpause, List.length_take]
    have hlen := List.length_pos_iff.mpr hleft
    rw [List.length_drop] at hlen
    have hdiv := Nat.div_le_div_right (c := windowSize)
      (Nat.sub_le_sub_left (Nat.le_add_right count fed.output.length) wanted)
    omega
  | full =>
    have hfull : fed.output.length = windowSize := Inflater.length_feed_full hpause
    rw [hfull] at henough ⊢
    have hdiv := Nat.add_div_right (wanted - (count + windowSize)) hpos
    have hsum : wanted - (count + windowSize) + windowSize = wanted - count := by omega
    rw [hsum] at hdiv
    omega
  | ended => exact absurd (.inl hpause) hlast
  | broken => exact absurd hpause hbroken

/-- **Enough rounds are there, and windows do not depend on what is wanted**: one who wants fewer
bytes gets the beginning of what the other one gets. -/
theorem inflateGo_prefix (hw : wanted ≤ wanted') (hcount : done.reverse.flatten.length = count)
    (hr : packed.length + (wanted - count) / windowSize + 1 ≤ rounds) (hr' : rounds ≤ rounds')
    (h : inflateGo wanted done count s packed rounds = some bs)
    (h' : inflateGo wanted' done count s packed rounds' = some bs') :
    bs = bs' ∨ wanted ≤ bs.length ∧ bs <+: bs' := by
  induction rounds generalizing rounds' done count s packed with
  | zero => exact absurd hr (Nat.not_succ_le_zero _)
  | succ rounds ih =>
    obtain ⟨rounds', rfl⟩ : ∃ r, rounds' = r + 1 := ⟨rounds' - 1, by omega⟩
    have hrounds := rounds_feed s packed wanted count
    unfold inflateGo at h h'
    generalize s.feed (packed.take windowSize) windowSize = fed at h h' hrounds
    dsimp only at h h' hrounds
    have hcount' : (fed.output :: done).reverse.flatten.length = count + fed.output.length := by
      rw [List.reverse_cons, List.flatten_append, List.length_append, hcount]
      simp
    by_cases hbroken : fed.pause = .broken
    · rw [if_pos hbroken] at h
      cases h
    rw [if_neg hbroken] at h h'
    simp only [fed.enough_iff packed] at h h'
    by_cases hlast : fed.Last packed
    · rw [if_pos (.inr hlast)] at h h'
      exact .inl (Option.some.inj (h.symm.trans h'))
    simp only [hlast, or_false] at h h'
    by_cases henough : wanted ≤ count + fed.output.length
    · rw [if_pos henough] at h
      refine .inr ⟨?_, ?_⟩
      · rw [← Option.some.inj h, hcount']
        exact henough
      · rw [← Option.some.inj h]
        split at h'
        · cases h'
          exact List.prefix_rfl
        · exact prefix_of_inflateGo h'
    · rw [if_neg henough] at h
      rw [if_neg (by omega)] at h'
      have hless := hrounds hbroken hlast henough
      exact ih hcount' (by omega) (by omega) h h'

theorem inflate_take (hw : wanted ≤ wanted') (h : inflate wanted packed = some bs)
    (h' : inflate wanted' packed = some bs') : bs.take wanted = bs'.take wanted := by
  have hr : packed.length + wanted / windowSize + 1 ≤ packed.length + wanted' / windowSize + 1 := by
    have hdiv := Nat.div_le_div_right (c := windowSize) hw
    omega
  rcases inflateGo_prefix hw rfl (Nat.le_refl _) hr h h' with rfl | ⟨hlen, rest, rfl⟩
  · rfl
  · rw [List.take_append_of_le_length hlen]

/-- **Data that is unpacked to its end** is not broken for one who wants more or fewer bytes. -/
theorem inflateGo_whole (hcount : done.reverse.flatten.length = count)
    (hr : packed.length + (wanted - count) / windowSize + 1 ≤ rounds)
    (hr' : packed.length + (wanted' - count) / windowSize + 1 ≤ rounds')
    (h : inflateGo wanted done count s packed rounds = some bs) (hlen : bs.length < wanted) :
    ∃ bs', inflateGo wanted' done count s packed rounds' = some bs' ∧
      bs'.take wanted' = bs.take wanted' := by
  induction rounds generalizing rounds' done count s packed with
  | zero => exact absurd hr (Nat.not_succ_le_zero _)
  | succ rounds ih =>
    obtain ⟨rounds', rfl⟩ : ∃ r, rounds' = r + 1 :=
      Nat.exists_eq_add_one.mpr (Nat.lt_of_lt_of_le (Nat.succ_pos _) hr')
    have hrounds := rounds_feed s packed
    unfold inflateGo at h ⊢
    generalize s.feed (packed.take windowSize) windowSize = fed at h hrounds ⊢
    dsimp only at h hrounds ⊢
    have hcount' : (fed.output :: done).reverse.flatten.length = count + fed.output.length := by
      rw [List.reverse_cons, List.flatten_append, List.length_append, hcount]
      simp
    by_cases hbroken : fed.pause = .broken
    · rw [if_pos hbroken] at h
      cases h
    rw [if_neg hbroken] at h ⊢
    simp only [fed.enough_iff packed] at h ⊢
    by_cases hlast : fed.Last packed
    · rw [if_pos (.inr hlast)] at h ⊢
      exact ⟨bs, h, rfl⟩
    simp only [hlast, or_false] at h ⊢
    have hmore : ¬ wanted ≤ count + fed.output.length := by
      intro henough
      rw [if_pos henough] at h
      rw [← Option.some.inj h, hcount'] at hlen
      omega
    rw [if_neg hmore] at h
    by_cases henough : wanted' ≤ count + fed.output.length
    · obtain ⟨more, rfl⟩ := prefix_of_inflateGo h
      rw [if_pos henough]
      exact ⟨_, rfl, (List.take_append_of_le_length (hcount' ▸ henough)).symm⟩
    · have hless := hrounds wanted count hbroken hlast hmore
      have hless' := hrounds wanted' count hbroken hlast henough
      rw [if_neg henough]
      exact ih hcount' (by omega) (by omega) h

theorem inflate_whole (h : inflate wanted packed = some bs) (hlen : bs.length < wanted)
    (wanted' : Nat) : ∃ bs', inflate wanted' packed = some bs' ∧
      bs'.take wanted' = bs.take wanted' :=
  inflateGo_whole rfl (Nat.le_refl _) (Nat.le_refl _) h hlen

end LogTriage.Deflate
