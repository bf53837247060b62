import LogTriage.Text.Utf8

/-!
# The UTF-8 forms of characters

`String.utf8EncodeChar` gives the form of a character.  The reader of `LogTriage.Text.Utf8` goes
through a form byte by byte; here its steps are tied to the forms.

* `charForm_utf8EncodeChar`  the forms of characters, by the ranges of their bytes;
* `byteStep_utf8EncodeChar`  each byte of a form is held, and the last one gives the character;
* `byteStep_fits`            what a byte may make of the bytes held before it.

`IsCut` says of some bytes that a character begins with them but goes on.  It is all that a reader
ever holds.
-/

namespace LogTriage.Text
open String (utf8EncodeChar)

/-! ## Ranges of bytes -/

theorem toNat_ofNat_of_valid {n : Nat} (h : n.isValidChar) : (Char.ofNat n).toNat = n := by
  rw [Char.ofNat, dif_pos h]
  rfl

theorem toNat_ofNat_byte {n : Nat} (h : n < 256) : (UInt8.ofNat n).toNat = n := by
  rw [UInt8.toNat_ofNat']
  omega

theorem ofNat_eq_of_toNat {n : Nat} {b : UInt8} (h : n = b.toNat) : UInt8.ofNat n = b := by
  rw [h, UInt8.ofNat_toNat]

theorem canFollow_iff {first b : UInt8} : canFollow first b = true ↔
    0x80 ≤ b.toNat ∧ b.toNat ≤ 0xBF ∧ (first.toNat = 0xE0 → 0xA0 ≤ b.toNat) ∧
      (first.toNat = 0xED → b.toNat ≤ 0x9F) ∧ (first.toNat = 0xF0 → 0x90 ≤ b.toNat) ∧
      (first.toNat = 0xF4 → b.toNat ≤ 0x8F) := by
  unfold canFollow
  simp only [← UInt8.toNat_inj, UInt8.le_iff_toNat_le]
  repeat' split
  all_goals simp_all
  all_goals omega

def follower (first : UInt8) : UInt8 :=
  if first.toNat = 0xE0 then 0xA0 else if first.toNat = 0xF0 then 0x90 else 0x80

theorem canFollow_follower (b : UInt8) : canFollow b (follower b) = true := by
  rw [canFollow_iff, follower]
  split
  · simp_all
  split
  · simp_all
  · simp_all

/-! ## Forms -/

/-- The bytes that are the form of a character. -/
inductive CharForm : Bytes → Prop where
  | one {b₀ : UInt8} : b₀.toNat < 0x80 → CharForm [b₀]
  | two {b₀ b₁ : UInt8} : 0xC2 ≤ b₀.toNat → b₀.toNat < 0xE0 → canFollow b₀ b₁ = true →
      CharForm [b₀, b₁]
  | three {b₀ b₁ b₂ : UInt8} : 0xE0 ≤ b₀.toNat → b₀.toNat < 0xF0 → canFollow b₀ b₁ = true →
      0x80 ≤ b₂.toNat → b₂.toNat ≤ 0xBF → CharForm [b₀, b₁, b₂]
  | four {b₀ b₁ b₂ b₃ : UInt8} : 0xF0 ≤ b₀.toNat → b₀.toNat ≤ 0xF4 → canFollow b₀ b₁ = true →
      0x80 ≤ b₂.toNat → b₂.toNat ≤ 0xBF → 0x80 ≤ b₃.toNat → b₃.toNat ≤ 0xBF →
      CharForm [b₀, b₁, b₂, b₃]

theorem charForm_utf8EncodeChar (c : Char) : CharForm (utf8EncodeChar c) := by
  have hv : c.val.toNat < 0xD800 ∨ 0xDFFF < c.val.toNat ∧ c.val.toNat < 0x110000 := c.valid
  unfold utf8EncodeChar
  generalize c.val.toNat = v at hv
  dsimp only
  split
  · refine .one ?_
    rw [toNat_ofNat_byte] <;> omega
  split
  · refine .two ?_ ?_ (canFollow_iff.mpr ?_)
    all_goals simp (disch := omega) only [toNat_ofNat_byte]
    all_goals omega
  split
  · refine .three ?_ ?_ (canFollow_iff.mpr ?_) ?_ ?_
    all_goals simp (disch := omega) only [toNat_ofNat_byte]
    all_goals omega
  · refine .four ?_ ?_ (canFollow_iff.mpr ?_) ?_ ?_ ?_ ?_
    all_goals simp (disch := omega) only [toNat_ofNat_byte]
    all_goals omega

theorem utf8EncodeChar_one {b : UInt8} (h : b.toNat < 0x80) :
    utf8EncodeChar (Char.ofNat b.toNat) = [b] := by
  have hv : (Char.ofNat b.toNat).val.toNat = b.toNat := toNat_ofNat_of_valid (.inl (by omega))
  unfold utf8EncodeChar
  rw [hv, if_pos (by omega), UInt8.ofNat_toNat]

theorem utf8EncodeChar_two {b₀ b₁ : UInt8} (h : 0xC2 ≤ b₀.toNat) (h' : b₀.toNat < 0xE0)
    (hf : canFollow b₀ b₁ = true) :
    utf8EncodeChar (Char.ofNat (b₀.toNat % 32 * 64 + tailBits b₁)) = [b₀, b₁] := by
  have hf := canFollow_iff.mp hf
  have hv : (Char.ofNat (b₀.toNat % 32 * 64 + tailBits b₁)).val.toNat
      = b₀.toNat % 32 * 64 + b₁.toNat % 64 :=
    toNat_ofNat_of_valid (.inl (by unfold tailBits; omega))
  unfold utf8EncodeChar
  dsimp only
  rw [hv, if_neg (by omega), if_pos (by omega), ofNat_eq_of_toNat (b := b₀) (by omega),
    ofNat_eq_of_toNat (b := b₁) (by omega)]

theorem utf8EncodeChar_three {b₀ b₁ b₂ : UInt8} (h : 0xE0 ≤ b₀.toNat) (h' : b₀.toNat < 0xF0)
    (hf : canFollow b₀ b₁ = true) (h₂ : 0x80 ≤ b₂.toNat) (h₂' : b₂.toNat ≤ 0xBF) :
    utf8EncodeChar (Char.ofNat ((b₀.toNat % 16 * 64 + tailBits b₁) * 64 + tailBits b₂))
      = [b₀, b₁, b₂] := by
  have hf := canFollow_iff.mp hf
  have hv : (Char.ofNat ((b₀.toNat % 16 * 64 + tailBits b₁) * 64 + tailBits b₂)).val.toNat
      = (b₀.toNat % 16 * 64 + b₁.toNat % 64) * 64 + b₂.toNat % 64 :=
    toNat_ofNat_of_valid (by unfold tailBits Nat.isValidChar; omega)
  unfold utf8EncodeChar
  dsimp only
  rw [hv, if_neg (by omega), if_neg (by omega), if_pos (by omega),
    ofNat_eq_of_toNat (b := b₀) (by omega), ofNat_eq_of_toNat (b := b₁) (by omega),
    ofNat_eq_of_toNat (b := b₂) (by omega)]

theorem utf8EncodeChar_four {b₀ b₁ b₂ b₃ : UInt8} (h : 0xF0 ≤ b₀.toNat) (h' : b₀.toNat ≤ 0xF4)
    (hf : canFollow b₀ b₁ = true) (h₂ : 0x80 ≤ b₂.toNat) (h₂' : b₂.toNat ≤ 0xBF)
    (h₃ : 0x80 ≤ b₃.toNat) (h₃' : b₃.toNat ≤ 0xBF) :
    utf8EncodeChar (Char.ofNat
      (((b₀.toNat % 8 * 64 + tailBits b₁) * 64 + tailBits b₂) * 64 + tailBits b₃))
      = [b₀, b₁, b₂, b₃] := by
  have hf := canFollow_iff.mp hf
  have hv : (Char.ofNat
      (((b₀.toNat % 8 * 64 + tailBits b₁) * 64 + tailBits b₂) * 64 + tailBits b₃)).val.toNat
      = ((b₀.toNat % 8 * 64 + b₁.toNat % 64) * 64 + b₂.toNat % 64) * 64 + b₃.toNat % 64 :=
    toNat_ofNat_of_valid (by unfold tailBits Nat.isValidChar; omega)
  unfold utf8EncodeChar
  dsimp only
  rw [hv, if_neg (by omega), if_neg (by omega), if_neg (by omega),
    ofNat_eq_of_toNat (b := b₀) (by omega), ofNat_eq_of_toNat (b := b₁) (by omega),
    ofNat_eq_of_toNat (b := b₂) (by omega), ofNat_eq_of_toNat (b := b₃) (by omega)]

theorem CharForm.exists_char {bs : Bytes} (h : CharForm bs) : ∃ c, utf8EncodeChar c = bs := by
  cases h with
  | one h₀ => exact ⟨_, utf8EncodeChar_one h₀⟩
  | two h₀ h₀' hf => exact ⟨_, utf8EncodeChar_two h₀ h₀' hf⟩
  | three h₀ h₀' hf h₂ h₂' => exact ⟨_, utf8EncodeChar_three h₀ h₀' hf h₂ h₂'⟩
  | four h₀ h₀' hf h₂ h₂' h₃ h₃' => exact ⟨_, utf8EncodeChar_four h₀ h₀' hf h₂ h₂' h₃ h₃'⟩

theorem CharForm.length_le {bs : Bytes} (h : CharForm bs) : bs.length ≤ 4 := by
  cases h <;> simp

theorem utf8EncodeChar_inj {c d : Char} (h : utf8EncodeChar c = utf8EncodeChar d) : c = d := by
  have hc := ByteArray.utf8DecodeChar?_utf8EncodeChar_append (b := .empty) (c := c)
  have hd := ByteArray.utf8DecodeChar?_utf8EncodeChar_append (b := .empty) (c := d)
  rw [h, hd] at hc
  exact (Option.some.inj hc).symm

/-! ## The first bytes of a character -/

/-- The first bytes of a character, but not all of them. -/
def IsCut (bs : Bytes) : Prop := bs ≠ [] ∧ ∃ c more, more ≠ [] ∧ utf8EncodeChar c = bs ++ more

theorem isCut_of_charForm {bs : Bytes} (more : Bytes) (h : CharForm (bs ++ more)) (hb : bs ≠ [])
    (hm : more ≠ []) : IsCut bs := by
  obtain ⟨c, hc⟩ := h.exists_char
  exact ⟨hb, c, more, hm, hc⟩

theorem isCut_three {b₀ b₁ b₂ : UInt8} (h : 0xF0 ≤ b₀.toNat) (h' : b₀.toNat ≤ 0xF4)
    (hf : canFollow b₀ b₁ = true) (h₂ : 0x80 ≤ b₂.toNat) (h₂' : b₂.toNat ≤ 0xBF) :
    IsCut [b₀, b₁, b₂] :=
  isCut_of_charForm [0x80] (.four h h' hf h₂ h₂' (by decide) (by decide)) (by simp) (by simp)

theorem isCut_two {b₀ b₁ : UInt8} (h : 0xE0 ≤ b₀.toNat) (h' : b₀.toNat ≤ 0xF4)
    (hf : canFollow b₀ b₁ = true) : IsCut [b₀, b₁] := by
  by_cases h₃ : b₀.toNat < 0xF0
  · exact isCut_of_charForm [0x80] (.three h h₃ hf (by decide) (by decide)) (by simp) (by simp)
  · obtain ⟨_, c, more, hm, hc⟩ : IsCut [b₀, b₁, 0x80] :=
      isCut_three (by omega) h' hf (by decide) (by decide)
    exact ⟨by simp, c, _, by simp, hc⟩

theorem isCut_one {b₀ : UInt8} (h : 0xC2 ≤ b₀.toNat) (h' : b₀.toNat ≤ 0xF4) : IsCut [b₀] := by
  by_cases h₂ : b₀.toNat < 0xE0
  · exact isCut_of_charForm [_] (.two h h₂ (canFollow_follower b₀)) (by simp) (by simp)
  · obtain ⟨_, c, more, hm, hc⟩ := isCut_two (by omega) h' (canFollow_follower b₀)
    exact ⟨by simp, c, _, by simp, hc⟩

theorem IsCut.length_le {bs : Bytes} (h : IsCut bs) : bs.length ≤ 3 := by
  obtain ⟨_, c, more, hm, hc⟩ := h
  have hlen := (charForm_utf8EncodeChar c).length_le
  have hpos := List.length_pos_iff.mpr hm
  rw [hc, List.length_append] at hlen
  omega

/-! ## Steps of a reader -/

theorem byteStep_nil (b : UInt8) : byteStep [] b =
    if b.toNat < 0x80 then .char (Char.ofNat b.toNat)
    else if 0xC2 ≤ b.toNat ∧ b.toNat ≤ 0xF4 then .more [b] else .bad [b] := by
  simp [byteStep, UInt8.lt_iff_toNat_lt, UInt8.le_iff_toNat_le]

theorem byteStep_one (b₀ b : UInt8) : byteStep [b₀] b =
    if canFollow b₀ b = true then
      if b₀.toNat < 0xE0 then .char (Char.ofNat (b₀.toNat % 32 * 64 + tailBits b))
      else .more [b₀, b]
    else .bad [b₀] := by
  simp [byteStep, UInt8.lt_iff_toNat_lt]

theorem byteStep_two (b₀ b₁ b : UInt8) : byteStep [b₀, b₁] b =
    if 0x80 ≤ b.toNat ∧ b.toNat ≤ 0xBF then
      if b₀.toNat < 0xF0 then
        .char (Char.ofNat ((b₀.toNat % 16 * 64 + tailBits b₁) * 64 + tailBits b))
      else .more [b₀, b₁, b]
    else .bad [b₀, b₁] := by
  simp [byteStep, UInt8.lt_iff_toNat_lt, UInt8.le_iff_toNat_le]

theorem byteStep_three (b₀ b₁ b₂ b : UInt8) : byteStep [b₀, b₁, b₂] b =
    if 0x80 ≤ b.toNat ∧ b.toNat ≤ 0xBF then
      .char (Char.ofNat
        (((b₀.toNat % 8 * 64 + tailBits b₁) * 64 + tailBits b₂) * 64 + tailBits b))
    else .bad [b₀, b₁, b₂] := by
  simp [byteStep, UInt8.le_iff_toNat_le]

/-- Each byte of a form completes it, if no byte follows, or else is held. -/
theorem byteStep_of_charForm {held more : Bytes} {b : UInt8} (h : CharForm (held ++ b :: more)) :
    (more = [] ∧ ∃ c, byteStep held b = .char c ∧ utf8EncodeChar c = held ++ [b]) ∨
      (more ≠ [] ∧ byteStep held b = .more (held ++ [b])) := by
  rcases held with _ | ⟨b₀, _ | ⟨b₁, _ | ⟨b₂, held⟩⟩⟩ <;>
    simp only [List.cons_append, List.nil_append] at h
  · cases h with
    | one h₀ => exact .inl ⟨rfl, _, by rw [byteStep_nil, if_pos h₀], utf8EncodeChar_one h₀⟩
    | two h₀ h₀' _ | three h₀ h₀' _ _ _ | four h₀ h₀' _ _ _ _ _ =>
      refine .inr ⟨by simp, ?_⟩
      rw [byteStep_nil, if_neg (by omega), if_pos (by omega), List.nil_append]
  · cases h with
    | two h₀ h₀' hf =>
      exact .inl ⟨rfl, _, by rw [byteStep_one, if_pos hf, if_pos h₀'],
        utf8EncodeChar_two h₀ h₀' hf⟩
    | three h₀ h₀' hf _ _ | four h₀ h₀' hf _ _ _ _ =>
      refine .inr ⟨by simp, ?_⟩
      rw [byteStep_one, if_pos hf, if_neg (by omega)]
      rfl
  · cases h with
    | three h₀ h₀' hf h₂ h₂' =>
      exact .inl ⟨rfl, _, by rw [byteStep_two, if_pos ⟨h₂, h₂'⟩, if_pos h₀'],
        utf8EncodeChar_three h₀ h₀' hf h₂ h₂'⟩
    | four h₀ _ _ h₂ h₂' _ _ =>
      refine .inr ⟨by simp, ?_⟩
      rw [byteStep_two, if_pos ⟨h₂, h₂'⟩, if_neg (by omega)]
      rfl
  · rcases held with _ | ⟨b₃, held⟩
    · cases h with
      | four h₀ h₀' hf h₂ h₂' h₃ h₃' =>
        exact .inl ⟨rfl, _, by rw [byteStep_three, if_pos ⟨h₃, h₃'⟩],
          utf8EncodeChar_four h₀ h₀' hf h₂ h₂' h₃ h₃'⟩
    · have := h.length_le
      simp only [List.cons_append, List.length_cons, List.length_append] at this
      omega

theorem byteStep_utf8EncodeChar {c : Char} {held more : Bytes} {b : UInt8}
    (h : utf8EncodeChar c = held ++ b :: more) :
    byteStep held b = if more.isEmpty then .char c else .more (held ++ [b]) := by
  rcases byteStep_of_charForm (h ▸ charForm_utf8EncodeChar c) with ⟨rfl, d, hd, he⟩ | ⟨hm, hs⟩
  · rw [hd, utf8EncodeChar_inj (h.trans he.symm)]
    rfl
  · rw [hs, if_neg (by simpa using hm)]

def ByteStep.Fits (held : Bytes) (b : UInt8) : ByteStep → Prop
  | .char c => utf8EncodeChar c = held ++ [b]
  | .more held' => held' = held ++ [b] ∧ IsCut held'
  | .bad bytes => bytes = if held.isEmpty then [b] else held

theorem byteStep_fits_nil (b : UInt8) : (byteStep [] b).Fits [] b := by
  rw [byteStep_nil]
  by_cases h₁ : b.toNat < 0x80
  · rw [if_pos h₁]
    exact utf8EncodeChar_one h₁
  rw [if_neg h₁]
  by_cases h : 0xC2 ≤ b.toNat ∧ b.toNat ≤ 0xF4
  · rw [if_pos h]
    exact ⟨rfl, isCut_one h.1 h.2⟩
  · rw [if_neg h]
    rfl

theorem byteStep_fits_isCut {held : Bytes} (hh : IsCut held) (b : UInt8) :
    (byteStep held b).Fits held b := by
  have hlen := hh.length_le
  obtain ⟨hne, c, more, hm, hc⟩ := hh
  have h := charForm_utf8EncodeChar c
  rw [hc] at h
  rcases held with _ | ⟨b₀, _ | ⟨b₁, _ | ⟨b₂, held⟩⟩⟩ <;>
    simp only [List.cons_append, List.nil_append] at h
  · exact absurd rfl hne
  · have h₀ : 0xC2 ≤ b₀.toNat ∧ b₀.toNat ≤ 0xF4 := by
      cases h with
      | one _ => exact absurd rfl hm
      | two _ _ _ | three _ _ _ _ _ | four _ _ _ _ _ _ _ => omega
    rw [byteStep_one]
    by_cases hf : canFollow b₀ b = true
    · rw [if_pos hf]
      by_cases h₂ : b₀.toNat < 0xE0
      · rw [if_pos h₂]
        exact utf8EncodeChar_two h₀.1 h₂ hf
      · rw [if_neg h₂]
        exact ⟨rfl, isCut_two (by omega) h₀.2 hf⟩
    · rw [if_neg hf]
      rfl
  · have h₀ : 0xE0 ≤ b₀.toNat ∧ b₀.toNat ≤ 0xF4 ∧ canFollow b₀ b₁ = true := by
      cases h with
      | two _ _ _ => exact absurd rfl hm
      | three _ _ hf _ _ | four _ _ hf _ _ _ _ => exact ⟨by omega, by omega, hf⟩
    rw [byteStep_two]
    by_cases ht : 0x80 ≤ b.toNat ∧ b.toNat ≤ 0xBF
    · rw [if_pos ht]
      by_cases h₃ : b₀.toNat < 0xF0
      · rw [if_pos h₃]
        exact utf8EncodeChar_three h₀.1 h₃ h₀.2.2 ht.1 ht.2
      · rw [if_neg h₃]
        exact ⟨rfl, isCut_three (by omega) h₀.2.1 h₀.2.2 ht.1 ht.2⟩
    · rw [if_neg ht]
      rfl
  · simp only [List.length_cons] at hlen
    obtain rfl : held = [] := List.length_eq_zero_iff.mp (by omega)
    cases h with
    | three _ _ _ _ _ => exact absurd rfl hm
    | four h₀ h₀' hf h₂ h₂' _ _ =>
      rw [byteStep_three]
      by_cases ht : 0x80 ≤ b.toNat ∧ b.toNat ≤ 0xBF
      · rw [if_pos ht]
        exact utf8EncodeChar_four h₀ h₀' hf h₂ h₂' ht.1 ht.2
      · rw [if_neg ht]
        rfl

/-- Between two bytes a reader holds nothing, or the first bytes of a character. -/
def Held (held : Bytes) : Prop := held = [] ∨ IsCut held

theorem byteStep_fits {held : Bytes} (h : Held held) (b : UInt8) :
    (byteStep held b).Fits held b := by
  rcases h with rfl | h
  · exact byteStep_fits_nil b
  · exact byteStep_fits_isCut h b

theorem Held.length_le {held : Bytes} (h : Held held) : held.length ≤ 3 := by
  rcases h with rfl | h
  · simp
  · exact h.length_le

end LogTriage.Text
