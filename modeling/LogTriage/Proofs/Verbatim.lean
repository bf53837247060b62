import LogTriage.Proofs.BannedPhrases

/-!
# Phrases that stand in a line as they are written

Case is put aside by lower-casing the phrase and the line, each as a whole.  A character becomes the
same wherever it stands, but for the capital sigma, whose lower case depends on what is before it
and after it.  So a phrase that stands in a line exactly as it is listed is found there, unless the
line gives one of its sigmas another form.

* `lower_append`        the lower case of a text, part by part;
* `lowerIn_eq_iff`      a text has the same lower case in two places just when its sigmas do;
* `found_of_verbatim`   what stands verbatim in a line is found, if its sigmas keep their form;
* `sigma_missed`        and may be missed if they do not.
-/

namespace LogTriage.Text

/-- What `c` becomes between two texts; the one before it is held reversed. -/
def spell (before : List Char) (c : Char) (after : List Char) : List Char :=
  if c = 'Σ' then [if endsWord before after then 'ς' else 'σ']
  else if c = 'İ' then ['i', '\u0307']
  else [lowerChar c]

def lowerIn (before after : List Char) : List Char → List Char
  | [] => []
  | c :: cs => spell before c (cs ++ after) ++ lowerIn (c :: before) after cs

theorem lowerGo_eq (before done cs : List Char) :
    lowerGo before done cs = done.reverse ++ lowerIn before [] cs := by
  induction cs generalizing before done with
  | nil => rw [lowerGo, lowerIn, List.append_nil]
  | cons c cs ih =>
    rw [lowerGo, ih, lowerIn, List.append_nil, spell]
    split
    · simp
    split <;> simp

theorem lowerIn_append (before after cs ds : List Char) :
    lowerIn before after (cs ++ ds)
      = lowerIn before (ds ++ after) cs ++ lowerIn (cs.reverse ++ before) after ds := by
  induction cs generalizing before with
  | nil => rfl
  | cons c cs ih => simp [lowerIn, ih]

/-- **The lower case of a text, part by part.** -/
theorem lower_append (before cs after : List Char) :
    lower (before ++ cs ++ after) = lowerIn [] (cs ++ after) before
      ++ lowerIn before.reverse after cs ++ lowerIn (cs.reverse ++ before.reverse) [] after := by
  rw [lower, lowerGo_eq, List.append_assoc, lowerIn_append, lowerIn_append]
  simp

/-! ## Sigmas -/

/-- Each capital sigma of the text ends a word in both places, or in neither. -/
def SigmasAgree (before after before' after' cs : List Char) : Prop :=
  ∀ i < cs.length, cs[i]? = some 'Σ' →
    endsWord ((cs.take i).reverse ++ before) (cs.drop (i + 1) ++ after)
      = endsWord ((cs.take i).reverse ++ before') (cs.drop (i + 1) ++ after')

instance (before after before' after' cs : List Char) :
    Decidable (SigmasAgree before after before' after' cs) :=
  inferInstanceAs (Decidable (∀ i < cs.length, _ → _))

variable {before after before' after' cs : List Char} {c : Char}

theorem sigmasAgree_cons : SigmasAgree before after before' after' (c :: cs) ↔
    (c = 'Σ' → endsWord before (cs ++ after) = endsWord before' (cs ++ after')) ∧
      SigmasAgree (c :: before) after (c :: before') after' cs := by
  constructor
  · intro h
    refine ⟨fun hc => ?_, fun i hi hs => ?_⟩
    · exact h 0 (by simp) (by simp [hc])
    · have hnext := h (i + 1) (by simpa using hi) (by simpa using hs)
      simpa using hnext
  · rintro ⟨hhead, htail⟩ i hi hs
    cases i with
    | zero => exact hhead (by simpa using hs)
    | succ i =>
      have hnext := htail i (by simpa using hi) (by simpa using hs)
      simpa using hnext

theorem sigmasAgree_of_not_mem (h : 'Σ' ∉ cs) : SigmasAgree before after before' after' cs := by
  intro i _ hs
  exact absurd (List.mem_of_getElem? hs) h

theorem length_spell : (spell before c after).length = (spell before' c after').length := by
  unfold spell
  split
  · rfl
  split <;> rfl

theorem spell_eq_iff : spell before c after = spell before' c after' ↔
    (c = 'Σ' → endsWord before after = endsWord before' after') := by
  unfold spell
  split
  · rename_i hc
    cases endsWord before after <;> cases endsWord before' after' <;> simp [hc]
  · rename_i hc
    simp [hc]

/-- **A text has the same lower case in two places** just when its sigmas have the same form. -/
theorem lowerIn_eq_iff : lowerIn before after cs = lowerIn before' after' cs ↔
    SigmasAgree before after before' after' cs := by
  induction cs generalizing before before' with
  | nil => exact iff_of_true rfl fun i hi => absurd hi (Nat.not_lt_zero i)
  | cons c cs ih =>
    rw [lowerIn, lowerIn, sigmasAgree_cons, ← ih, ← spell_eq_iff]
    constructor
    · intro h
      exact List.append_inj h length_spell
    · rintro ⟨hhead, htail⟩
      rw [hhead, htail]

end LogTriage.Text

namespace LogTriage.BannedPhrases
open Text

def KeepsForm (before phrase after : List Char) : Prop :=
  SigmasAgree before.reverse after [] [] phrase

instance (before phrase after : List Char) : Decidable (KeepsForm before phrase after) :=
  inferInstanceAs (Decidable (SigmasAgree _ _ _ _ _))

/-- **A phrase that stands in a line as it is listed** is found there, or another one is found
before it, if the line leaves the form of its sigmas alone; and only then does the line hold the
lower case of the phrase in this place.  A phrase without a capital sigma is never missed. -/
theorem found_of_verbatim {banned : BannedPhrases} {lines : List String} {phrase line : String}
    {before after : List Char} (hp : phrase ∈ banned.phrases) (hl : line ∈ lines)
    (hv : line.toList = before ++ phrase.toList ++ after) :
    (KeepsForm before phrase.toList after → (banned.find? lines).isSome = true) ∧
      (KeepsForm before phrase.toList after ↔
        lowerIn before.reverse after phrase.toList = lower phrase.toList) ∧
      ('Σ' ∉ phrase.toList → (banned.find? lines).isSome = true) := by
  have halone : lower phrase.toList = lowerIn [] [] phrase.toList := by
    have h := lower_append [] phrase.toList []
    simpa [lowerIn] using h
  have hplace : KeepsForm before phrase.toList after ↔
      lowerIn before.reverse after phrase.toList = lower phrase.toList := by
    rw [halone, lowerIn_eq_iff]
    rfl
  have hfound : KeepsForm before phrase.toList after → (banned.find? lines).isSome = true := by
    intro hkeeps
    rw [Option.isSome_iff_ne_none]
    intro hnone
    -- the line would be clean, but its lower case holds that of the phrase where the phrase stands
    have hclean := find?_eq_none_iff.mp hnone line hl phrase hp
    apply hclean
    rw [hv, lower_append, ← hplace.mp hkeeps]
    exact List.infix_append _ _ _
  exact ⟨hfound, hplace, fun hs => hfound (sigmasAgree_of_not_mem hs)⟩

/-- A sigma that ends the phrase and a word of the line. -/
theorem found_odos : "ΟΔΟΣ" ∈ (ofList ["crack", "ΟΔΟΣ"]).phrases ∧
    "στην ΟΔΟΣ 7".toList = "στην ".toList ++ "ΟΔΟΣ".toList ++ " 7".toList ∧
    ((ofList ["crack", "ΟΔΟΣ"]).find? ["clean", "στην ΟΔΟΣ 7"]).isSome = true := by
  have hp : "ΟΔΟΣ" ∈ (ofList ["crack", "ΟΔΟΣ"]).phrases := by decide +kernel
  have hl : "στην ΟΔΟΣ 7" ∈ ["clean", "στην ΟΔΟΣ 7"] := by decide +kernel
  have hv : "στην ΟΔΟΣ 7".toList = "στην ".toList ++ "ΟΔΟΣ".toList ++ " 7".toList := by
    decide +kernel
  have hk : KeepsForm "στην ".toList "ΟΔΟΣ".toList " 7".toList := by decide +kernel
  exact ⟨hp, hv, (found_of_verbatim hp hl hv).1 hk⟩

/-- **The line goes on where the phrase ends**: the sigma that is final in the phrase is not final
in the line, and the phrase is missed though the line begins with it. -/
theorem sigma_missed : "ΟΔΟΣ" ∈ (ofList ["ΟΔΟΣ"]).phrases ∧
    "ΟΔΟΣΑ".toList = [] ++ "ΟΔΟΣ".toList ++ ['Α'] ∧
    (ofList ["ΟΔΟΣ"]).find? ["ΟΔΟΣΑ"] = none := by
  decide +kernel

end LogTriage.BannedPhrases
