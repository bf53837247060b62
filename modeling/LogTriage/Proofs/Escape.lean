import Mathlib.Data.List.Chain
import LogTriage.Escape
import LogTriage.Report.Segment

/-!
# Texts that a chat does not interpret

Escaping puts a joiner after every active character.  A text that is escaped may be joined with
others, padded and cut, and still every active character is followed at once by a joiner, or by
what a text ends in where it was cut.  No two backticks stand side by side in such a text.

* `guarded_chars`      escaping puts a joiner after every active character;
* `Harmless.append`    harmless texts are joined to a harmless text;
* `Harmless.cut`       a harmless text may be cut, when a dot or an ellipsis marks the place;
* `not_double_infix`   two backticks that stand side by side are not harmless.
-/

namespace LogTriage

namespace Escape
variable {guards cs ds : List Char} {d : Char}

/-- Every active character is followed at once by one of `guards`. -/
structure Guarded (guards cs : List Char) : Prop where
  followed : cs.IsChain fun c d => active c = true → d ∈ guards
  /-- An active character is not the last one. -/
  ended : ∀ c ∈ cs.getLast?, active c = false

theorem guarded_of_inactive (h : ∀ c ∈ cs, active c = false) : Guarded guards cs where
  followed := by
    have hpairs : cs.Pairwise fun c d => active c = true → d ∈ guards := by
      rw [List.pairwise_iff_forall_sublist]
      intro c d hsub hactive
      rw [h c (hsub.subset List.mem_cons_self)] at hactive
      cases hactive
    exact hpairs.isChain
  ended := by
    intro c hc
    exact h c (List.mem_of_getLast? hc)

theorem guarded_nil (guards : List Char) : Guarded guards [] :=
  guarded_of_inactive (by simp)

theorem Guarded.mono {guards' : List Char} (h : Guarded guards cs) (hg : guards ⊆ guards') :
    Guarded guards' cs where
  followed := h.followed.imp fun _ _ hd hactive => hg (hd hactive)
  ended := h.ended

theorem Guarded.append (hc : Guarded guards cs) (hd : Guarded guards ds) :
    Guarded guards (cs ++ ds) where
  followed := by
    refine List.isChain_append.mpr ⟨hc.followed, hd.followed, ?_⟩
    intro c hlast d _ hactive
    rw [hc.ended c hlast] at hactive
    cases hactive
  ended := by
    intro c hlast
    rw [List.getLast?_append, Option.mem_def, Option.or_eq_some_iff] at hlast
    rcases hlast with hlast | ⟨-, hlast⟩
    · exact hd.ended c hlast
    · exact hc.ended c hlast

theorem Guarded.take_append (h : Guarded guards cs) (n : Nat) (hd : d ∈ guards)
    (hds : ∀ c ∈ d :: ds, active c = false) : Guarded guards (cs.take n ++ d :: ds) where
  followed := by
    have hmark : Guarded guards (d :: ds) := guarded_of_inactive hds
    refine List.isChain_append.mpr ⟨h.followed.take n, hmark.followed, ?_⟩
    intro c _ d' hd' _
    rw [List.head?_cons, Option.mem_def, Option.some.injEq] at hd'
    rwa [← hd']
  ended := by
    intro c hlast
    rw [List.getLast?_append_cons] at hlast
    exact hds c (List.mem_of_getLast? hlast)

theorem guarded_intercalate {parts : List (List Char)} (hds : Guarded guards ds)
    (h : ∀ part ∈ parts, Guarded guards part) : Guarded guards (ds.intercalate parts) := by
  induction parts with
  | nil => exact guarded_nil guards
  | cons part parts ih =>
    have hpart := h part List.mem_cons_self
    have hrest := ih fun p hp => h p (List.mem_cons_of_mem _ hp)
    cases parts with
    | nil =>
      have hone : ds.intercalate [part] = part := by simp
      rwa [hone]
    | cons next parts =>
      rw [List.intercalate_cons_cons]
      exact (hpart.append hds).append hrest

theorem Guarded.next (h : Guarded guards cs) {i : Nat} {c : Char} (hi : cs[i]? = some c)
    (hc : active c = true) : ∃ d ∈ guards, cs[i + 1]? = some d := by
  obtain ⟨hlt, hci⟩ := List.getElem?_eq_some_iff.mp hi
  by_cases hlast : i + 1 < cs.length
  · have hpair := List.isChain_iff_getElem.mp h.followed i hlast
    exact ⟨cs[i + 1], hpair (hci ▸ hc), List.getElem?_eq_getElem hlast⟩
  · have hend : cs.getLast? = some c := by
      rw [List.getLast?_eq_getElem?, ← hi]
      congr 1
      omega
    rw [h.ended c hend] at hc
    cases hc

/-! ## Escaping -/

theorem charsGo_eq (done cs : List Char) : charsGo done cs = done.reverse ++ chars cs := by
  induction cs generalizing done with
  | nil => rw [chars, charsGo, charsGo, List.reverse_nil, List.append_nil]
  | cons c cs ih =>
    rw [chars, charsGo, charsGo]
    split
    · rw [ih, ih [joiner, c]]
      simp
    · rw [ih, ih [c]]
      simp

theorem chars_cons (c : Char) (cs : List Char) : chars (c :: cs) =
    c :: if active c && cs.head? ≠ some joiner then joiner :: chars cs else chars cs := by
  rw [chars, charsGo]
  split
  · rw [charsGo_eq]
    rfl
  · rw [charsGo_eq]
    rfl

theorem head?_chars (cs : List Char) : (chars cs).head? = cs.head? := by
  cases cs with
  | nil => rfl
  | cons c cs => rw [chars_cons, List.head?_cons, List.head?_cons]

theorem active_joiner : active joiner = false := by decide

/-- **Escaping puts a joiner after every active character.** -/
theorem guarded_chars (cs : List Char) : Guarded [joiner] (chars cs) := by
  induction cs with
  | nil => exact guarded_nil _
  | cons c cs ih =>
    rw [chars_cons]
    have hrest (ds : List Char) (hds : Guarded [joiner] ds)
        (hc : active c = true → ds.head? = some joiner) : Guarded [joiner] (c :: ds) := by
      refine ⟨List.isChain_cons.mpr ⟨?_, hds.followed⟩, ?_⟩
      · intro d hd hactive
        rw [hc hactive, Option.mem_def, Option.some.injEq] at hd
        rw [← hd]
        exact List.mem_singleton_self joiner
      · intro x hx
        cases ds with
        | nil =>
          have hxc : c = x := by simpa using hx
          subst hxc
          by_contra hactive
          rw [Bool.not_eq_false] at hactive
          cases hc hactive
        | cons d ds =>
          rw [List.getLast?_cons_cons] at hx
          exact hds.ended x hx
    have hjoiner : Guarded [joiner] [joiner] := guarded_of_inactive (by simp [active_joiner])
    have hjoined : Guarded [joiner] (joiner :: chars cs) := hjoiner.append ih
    split
    · exact hrest _ hjoined fun _ => rfl
    · rename_i hplain
      refine hrest _ ih fun hactive => ?_
      rw [head?_chars]
      simpa [hactive] using hplain

/-! ## Marks that a chat reads -/

/-- **Two backticks do not stand side by side** where a backtick is no guard. -/
theorem Guarded.not_double_infix (h : Guarded guards cs) (hg : '\x60' ∉ guards) :
    ¬ ['\x60', '\x60'] <:+: cs := by
  intro hinfix
  have hpair := h.followed.infix hinfix
  rw [List.isChain_cons_cons] at hpair
  exact hg (hpair.1 (by decide))

end Escape

/-! ## Harmless texts -/

/-- What may follow an active character: a joiner, or what a text ends in where it was cut. -/
def Escape.guards : List Char := [joiner, '…', '.']

/-- Every active character of the text is followed at once by a guard. -/
def Harmless (s : String) : Prop := Escape.Guarded Escape.guards s.toList

def Inactive (s : String) : Prop := ∀ c ∈ s.toList, Escape.active c = false

instance (s : String) : Decidable (Inactive s) :=
  decidable_of_iff (s.toList.all fun c => !Escape.active c) (by simp [Inactive])

variable {s t : String}

theorem Inactive.harmless (h : Inactive s) : Harmless s := Escape.guarded_of_inactive h

theorem Inactive.append (hs : Inactive s) (ht : Inactive t) : Inactive (s ++ t) := by
  intro c hc
  rw [String.toList_append, List.mem_append] at hc
  exact hc.elim (hs c) (ht c)

theorem harmless_escape (s : String) : Harmless (escape s) := by
  have hjoined : Escape.Guarded [Escape.joiner] (escape s).toList := by
    rw [escape, String.toList_ofList]
    exact Escape.guarded_chars s.toList
  exact hjoined.mono (by simp [Escape.guards])

namespace Harmless

theorem append (hs : Harmless s) (ht : Harmless t) : Harmless (s ++ t) := by
  rw [Harmless, String.toList_append]
  exact Escape.Guarded.append hs ht

theorem push {c : Char} (hs : Harmless s) (hc : Escape.active c = false) : Harmless (s.push c) := by
  rw [Harmless, String.toList_push]
  exact Escape.Guarded.append hs (Escape.guarded_of_inactive (by simpa using hc))

theorem intercalate {sep : String} {parts : List String} (hsep : Harmless sep)
    (h : ∀ part ∈ parts, Harmless part) : Harmless (sep.intercalate parts) := by
  rw [Harmless, String.toList_intercalate]
  refine Escape.guarded_intercalate hsep ?_
  intro cs hcs
  obtain ⟨part, hpart, rfl⟩ := List.mem_map.mp hcs
  exact h part hpart

theorem inactive_replicate (n : Nat) {c : Char} (hc : Escape.active c = false) :
    ∀ d ∈ List.replicate n c, Escape.active d = false := by
  intro d hd
  rwa [List.eq_of_mem_replicate hd]

theorem padStart (width : Nat) (hs : Harmless s) : Harmless (Text.padStart width s) := by
  rw [Harmless, Text.padStart, String.toList_ofList]
  exact (Escape.guarded_of_inactive (inactive_replicate _ (by decide))).append hs

theorem padEnd (width : Nat) (hs : Harmless s) : Harmless (Text.padEnd width s) := by
  rw [Harmless, Text.padEnd, String.toList_ofList]
  exact Escape.Guarded.append hs (Escape.guarded_of_inactive (inactive_replicate _ (by decide)))

/-- **A harmless text may be cut** when a guard marks the place. -/
theorem cut (n : Nat) (hs : Harmless s) {d : Char} {ds : List Char} (ht : t.toList = d :: ds)
    (hd : d ∈ Escape.guards) (hplain : Inactive t) : Harmless (Text.take n s ++ t) := by
  rw [Harmless, String.toList_append, Text.take, String.toList_ofList, ht]
  rw [Inactive, ht] at hplain
  exact Escape.Guarded.take_append hs n hd hplain

theorem truncate (max : Nat) (hs : Harmless s) : Harmless (Report.truncate max s) := by
  unfold Report.truncate
  split
  · exact hs
  · have hpush : (Text.take (max - 1) s).push '…' = Text.take (max - 1) s ++ "…" := by
      apply String.toList_injective
      simp
    rw [hpush]
    have hguard : "…".toList = ['…'] := rfl
    exact hs.cut (max - 1) hguard (by decide) (by decide)

theorem not_double_infix (hs : Harmless s) : ¬ ['\x60', '\x60'] <:+: s.toList :=
  Escape.Guarded.not_double_infix hs (by decide)

end Harmless

end LogTriage
