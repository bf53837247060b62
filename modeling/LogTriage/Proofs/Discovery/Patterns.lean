import LogTriage.Discovery

/-!
# The names of attachments

A directory is searched by patterns, and the encoding of an attachment is told by the end of its
name.  The two say the same of every name.

* `Glob.Matches`           what a pattern stands for, and
* `Glob.accepts_iff`       that this is what it accepts;
* `Glob.matches_ending`    a star and a literal text: the names that end in it, in capitals or not;
* `accepts_iff`            so the patterns accept the names with one of four endings,
* `isSome_ofFileName?_iff` of which three tell an encoding;
* `accepts_eq`             the fourth is one of the three with something before it.
-/

namespace LogTriage

namespace Text

variable {c : Char}

theorem lower_capital (h : 'A' ≤ c ∧ c ≤ 'Z') :
    c.toLower = asciiLower c ∧ (asciiLower c).toNat < 0x80 := by
  have hall : ∀ n < 26, (Char.ofNat (65 + n)).toLower = asciiLower (Char.ofNat (65 + n)) ∧
      (asciiLower (Char.ofNat (65 + n))).toNat < 0x80 := by
    decide
  have hlow : 65 ≤ c.toNat := h.1
  have hhigh : c.toNat ≤ 90 := h.2
  have hc : c = Char.ofNat (65 + (c.toNat - 65)) := by
    rw [Nat.add_sub_cancel' hlow, Char.ofNat_toNat]
  rw [hc]
  exact hall _ (by omega)

theorem toLower_eq_asciiLower (c : Char) : c.toLower = asciiLower c := by
  by_cases h : 'A' ≤ c ∧ c ≤ 'Z'
  · exact (lower_capital h).1
  · have hstays : c.toLower = c := dif_neg h
    rw [hstays, asciiLower, if_neg h]

theorem asciiLower_of_le (h : 0x80 ≤ c.toNat) : asciiLower c = c := by
  refine if_neg fun hcapital => ?_
  have hhigh : c.toNat ≤ 90 := hcapital.2
  omega

theorem toNat_asciiLower_lt (h : c.toNat < 0x80) : (asciiLower c).toNat < 0x80 := by
  by_cases hcapital : 'A' ≤ c ∧ c ≤ 'Z'
  · exact (lower_capital hcapital).2
  · rwa [asciiLower, if_neg hcapital]

end Text

namespace Glob
open Text (asciiLower)

variable {p : Pattern} {cs name : List Char}

theorem sameLetter_iff {c d : Char} : sameLetter c d = true ↔ asciiLower c = asciiLower d := by
  simp only [sameLetter, Bool.or_eq_true, beq_iff_eq, Bool.and_eq_true, decide_eq_true_eq,
    Text.toLower_eq_asciiLower]
  constructor
  · rintro (rfl | ⟨-, h⟩)
    · rfl
    · exact h
  · intro h
    by_cases hc : c.toNat < 0x80
    · by_cases hd : d.toNat < 0x80
      · exact .inr ⟨⟨hc, hd⟩, h⟩
      · have hlow := Text.toNat_asciiLower_lt hc
        rw [h, Text.asciiLower_of_le (Nat.not_lt.mp hd)] at hlow
        exact absurd hlow hd
    · rw [Text.asciiLower_of_le (Nat.not_lt.mp hc)] at h
      by_cases hd : d.toNat < 0x80
      · exact absurd (h ▸ Text.toNat_asciiLower_lt hd) hc
      · rw [Text.asciiLower_of_le (Nat.not_lt.mp hd)] at h
        exact .inl h

theorem anyTail_iff {rest : List Char → Bool} :
    anyTail rest name = true ↔ ∃ skipped tail, name = skipped ++ tail ∧ rest tail = true := by
  induction name with
  | nil =>
    constructor
    · exact fun h => ⟨[], [], rfl, h⟩
    · rintro ⟨skipped, tail, hname, h⟩
      obtain ⟨-, rfl⟩ := List.append_eq_nil_iff.mp hname.symm
      exact h
  | cons c name ih =>
    rw [anyTail, Bool.or_eq_true, ih]
    constructor
    · rintro (h | ⟨skipped, tail, rfl, h⟩)
      · exact ⟨[], c :: name, rfl, h⟩
      · exact ⟨c :: skipped, tail, rfl, h⟩
    · rintro ⟨skipped, tail, hname, h⟩
      cases skipped with
      | nil => exact .inl (by rwa [hname])
      | cons d skipped => exact .inr ⟨skipped, tail, (List.cons.inj hname).2, h⟩

/-- What a pattern stands for: a star for any run of characters, a character for itself, where
capitals of ASCII are the same as small letters. -/
inductive Matches : Pattern → List Char → Prop where
  | done : Matches [] []
  | run {p : Pattern} {name : List Char} (skipped : List Char) (h : Matches p name) :
    Matches (.anyRun :: p) (skipped ++ name)
  | char {c d : Char} {p : Pattern} {name : List Char} (hc : asciiLower c = asciiLower d)
    (h : Matches p name) : Matches (.char c :: p) (d :: name)

/-- **A pattern accepts what it stands for.** -/
theorem accepts_iff (p : Pattern) (name : List Char) : p.accepts name = true ↔ Matches p name := by
  induction p generalizing name with
  | nil =>
    rw [Pattern.accepts, List.isEmpty_iff]
    constructor
    · rintro rfl
      exact .done
    · rintro ⟨⟩
      rfl
  | cons token p ih =>
    cases token with
    | anyRun =>
      rw [Pattern.accepts, anyTail_iff]
      constructor
      · rintro ⟨skipped, tail, rfl, h⟩
        exact .run skipped ((ih tail).mp h)
      · intro h
        cases h with
        | run skipped h => exact ⟨skipped, _, rfl, (ih _).mpr h⟩
    | char c =>
      cases name with
      | nil => exact ⟨nofun, nofun⟩
      | cons d name =>
        rw [Pattern.accepts, Bool.and_eq_true, sameLetter_iff, ih]
        constructor
        · rintro ⟨hc, h⟩
          exact .char hc h
        · intro h
          cases h with
          | char hc h => exact ⟨hc, h⟩

def literal (cs : List Char) : Pattern := cs.map .char

theorem matches_literal :
    Matches (literal cs) name ↔ name.map asciiLower = cs.map asciiLower := by
  induction cs generalizing name with
  | nil =>
    rw [List.map_nil, List.map_eq_nil_iff]
    constructor
    · rintro ⟨⟩
      rfl
    · rintro rfl
      exact .done
  | cons c cs ih =>
    rw [literal, List.map_cons, List.map_cons, List.map_eq_cons_iff]
    constructor
    · intro h
      cases h with
      | char hc h => exact ⟨_, _, rfl, hc.symm, ih.mp h⟩
    · rintro ⟨d, tail, rfl, hc, h⟩
      exact .char hc.symm (ih.mpr h)

/-- **A star and a literal text** stand for the names that end in the text, in capitals or not. -/
theorem matches_ending : Matches (.anyRun :: literal cs) name ↔
    cs.map asciiLower <:+ name.map asciiLower := by
  constructor
  · intro h
    cases h with
    | run skipped h =>
      rw [List.map_append, matches_literal.mp h]
      exact List.suffix_append _ _
  · rintro ⟨lead, hlead⟩
    obtain ⟨skipped, tail, rfl, -, htail⟩ := List.map_eq_append_iff.mp hlead.symm
    exact .run skipped (matches_literal.mpr htail)

end Glob

open Text (asciiLower)
open Glob (Pattern literal)

/-- The name ends in the text, in capitals or not. -/
def EndsIn (name ending : String) : Prop := ending.toList <:+ name.toList.map asciiLower

namespace Discovery

def endings : List String := [".log", ".log.gz", ".gz", ".zip"]

theorem acceptedPatterns_eq : acceptedPatterns.map Pattern.ofString
    = endings.map fun ending => .anyRun :: literal ending.toList := by
  decide

theorem asciiLower_endings : ∀ ending ∈ endings, ending.toList.map asciiLower = ending.toList := by
  decide

theorem accepts_iff_matches (name : String) : accepts name = true ↔
    ∃ pattern ∈ acceptedPatterns, Glob.Matches (.ofString pattern) name.toList := by
  rw [accepts, List.any_eq_true]
  exact exists_congr fun pattern => and_congr_right fun _ => Glob.accepts_iff _ _

theorem accepts_iff (name : String) :
    accepts name = true ↔ ∃ ending ∈ endings, EndsIn name ending := by
  have hany : accepts name = (acceptedPatterns.map Pattern.ofString).any (·.acceptsName name) := by
    rw [List.any_map]
    rfl
  rw [hany, acceptedPatterns_eq, List.any_map, List.any_eq_true]
  refine exists_congr fun ending => and_congr_right fun hending => ?_
  rw [EndsIn, ← asciiLower_endings ending hending]
  exact (Glob.accepts_iff _ _).trans Glob.matches_ending

end Discovery

theorem Encoding.isSome_ofFileName?_iff (name : String) :
    (ofFileName? name).isSome = true ↔
      EndsIn name ".log" ∨ EndsIn name ".gz" ∨ EndsIn name ".zip" := by
  simp only [EndsIn, ← List.isSuffixOf_iff_suffix]
  unfold ofFileName?
  dsimp only
  split
  · rename_i hlog
    exact ⟨fun _ => .inl hlog, fun _ => rfl⟩
  rename_i hlog
  split
  · rename_i hgz
    exact ⟨fun _ => .inr (.inl hgz), fun _ => rfl⟩
  rename_i hgz
  split
  · rename_i hzip
    exact ⟨fun _ => .inr (.inr hzip), fun _ => rfl⟩
  · rename_i hzip
    exact ⟨nofun, fun h => absurd h (not_or.mpr ⟨hlog, not_or.mpr ⟨hgz, hzip⟩⟩)⟩

namespace Discovery

/-- **The patterns and the pipeline agree** on every name. -/
theorem accepts_eq (name : String) : accepts name = (Encoding.ofFileName? name).isSome := by
  rw [Bool.eq_iff_iff, accepts_iff, Encoding.isSome_ofFileName?_iff]
  constructor
  · rintro ⟨ending, hending, h⟩
    simp only [endings, List.mem_cons, List.not_mem_nil, or_false] at hending
    obtain rfl | rfl | rfl | rfl := hending
    · exact .inl h
    · have hgz : ".gz".toList <:+ ".log.gz".toList := by decide
      exact .inr (.inl (hgz.trans h))
    · exact .inr (.inl h)
    · exact .inr (.inr h)
  · rintro (h | h | h)
    · exact ⟨_, by decide, h⟩
    · exact ⟨_, by decide, h⟩
    · exact ⟨_, by decide, h⟩

example : ["RPCS3.log", ".GZ", "a.LOG.gz", "log", "notes.txt", "a.zıp"].map accepts
    = [true, true, true, false, false, false] := by
  decide

end Discovery

end LogTriage
