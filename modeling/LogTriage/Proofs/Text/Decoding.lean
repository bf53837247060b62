import LogTriage.Proofs.Text.Character

/-!
# Taking bytes apart

Any bytes are the form of a text, as long as possible, and what comes after it: nothing, a
character that is cut off, or bytes that no character can begin with.  `Decodes` says so without a
reader; the reader of `LogTriage.Text.Utf8` finds exactly this.

* `decodes_read`       what a reader has read takes the bytes apart;
* `Decodes.text_eq`, `Decodes.ending_eq`  there is no other way;
* `Decodes.longest`    no longer text has a form that the bytes begin with.

Of ill-formed bytes only the first ones count: as many as a character could begin with, and one
when there is none.
-/

namespace LogTriage.Text
open String (utf8EncodeChar)

def encode (text : List Char) : Bytes := text.flatMap utf8EncodeChar

theorem encode_cons (c : Char) (t : List Char) :
    encode (c :: t) = utf8EncodeChar c ++ encode t := by
  simp [encode]

theorem encode_append (t u : List Char) : encode (t ++ u) = encode t ++ encode u := by
  simp [encode]

inductive Ending where
  | whole
  | cut (held : Bytes)
  | illFormed (bytes : Bytes)
deriving DecidableEq, Inhabited

/-- No character begins where `bad` does, and `bad` is all that one could begin with. -/
structure IllFormed (bad rest : Bytes) : Prop where
  no_char : ∀ c, ¬ utf8EncodeChar c <+: bad ++ rest
  not_cut : ¬ IsCut (bad ++ rest)
  start : IsCut bad ∨ bad.length = 1
  longest : ∀ bs, bs <+: bad ++ rest → IsCut bs → bs.length ≤ bad.length

/-- The bytes are the form of `text`, and end in this way. -/
inductive Decodes : Bytes → List Char → Ending → Prop where
  | whole (text : List Char) : Decodes (encode text) text .whole
  | cut (text : List Char) {held : Bytes} : IsCut held →
      Decodes (encode text ++ held) text (.cut held)
  | illFormed (text : List Char) {bad rest : Bytes} : IllFormed bad rest →
      Decodes (encode text ++ (bad ++ rest)) text (.illFormed bad)

/-- How what has been read ends, if no more bytes come. -/
def Reading.ending (r : Reading) : Ending :=
  match r.fault with
  | some bytes => .illFormed bytes
  | none => if r.held.isEmpty then .whole else .cut r.held

/-! ## Reading known bytes -/

theorem Reading.read_cons (r : Reading) (b : UInt8) (bs : Bytes) :
    r.read (b :: bs) = (r.byte b).read bs := rfl

theorem Reading.read_of_fault {r : Reading} {bytes : Bytes} (h : r.fault = some bytes)
    (bs : Bytes) : r.read bs = r := by
  induction bs with
  | nil => rfl
  | cons b bs ih =>
    have hb : r.byte b = r := by
      unfold Reading.byte
      rw [h]
    rw [Reading.read_cons, hb, ih]

theorem byte_char {held : Bytes} {b : UInt8} {c : Char} (h : byteStep held b = .char c)
    (chars : List Char) : Reading.byte { chars, held } b = { chars := c :: chars } := by
  simp only [Reading.byte, h]

theorem byte_more {held held' : Bytes} {b : UInt8} (h : byteStep held b = .more held')
    (chars : List Char) : Reading.byte { chars, held } b = { chars, held := held' } := by
  simp only [Reading.byte, h]

theorem byte_bad {held bad : Bytes} {b : UInt8} (h : byteStep held b = .bad bad)
    (chars : List Char) : Reading.byte { chars, held } b = { chars, fault := some bad } := by
  simp only [Reading.byte, h]

theorem Reading.read_chars (held : Bytes) (before chars : List Char) (bs : Bytes) :
    Reading.read { chars := chars ++ before, held } bs =
      { Reading.read { chars, held } bs with
        chars := (Reading.read { chars, held } bs).chars ++ before } := by
  induction bs generalizing chars held with
  | nil => rfl
  | cons b bs ih =>
    rw [Reading.read_cons, Reading.read_cons]
    cases hs : byteStep held b with
    | char c =>
      rw [byte_char hs, byte_char hs]
      exact ih [] (c :: chars)
    | more held' =>
      rw [byte_more hs, byte_more hs]
      exact ih held' chars
    | bad bad =>
      rw [byte_bad hs, byte_bad hs, Reading.read_of_fault rfl, Reading.read_of_fault rfl]

theorem Reading.text_byte (r : Reading) (b : UInt8) : r.text <+: (r.byte b).text := by
  unfold Reading.byte
  split
  · exact List.prefix_rfl
  split
  · exact ⟨[_], by rw [Reading.text, Reading.text, List.reverse_cons]⟩
  · exact List.prefix_rfl
  · exact List.prefix_rfl

theorem Reading.text_read (r : Reading) (bs : Bytes) : r.text <+: (r.read bs).text := by
  induction bs generalizing r with
  | nil => exact List.prefix_rfl
  | cons b bs ih => exact (r.text_byte b).trans (ih (r.byte b))

theorem read_held {c : Char} {held bs more : Bytes} (h : utf8EncodeChar c = held ++ bs ++ more)
    (hm : more ≠ []) (chars : List Char) :
    Reading.read { chars, held } bs = { chars, held := held ++ bs } := by
  induction bs generalizing held with
  | nil =>
    rw [List.append_nil]
    rfl
  | cons b bs ih =>
    have hc : utf8EncodeChar c = held ++ b :: (bs ++ more) := by rw [h]; simp
    have hs : byteStep held b = .more (held ++ [b]) := by
      rw [byteStep_utf8EncodeChar hc, if_neg (by simp [hm])]
    rw [Reading.read_cons, byte_more hs, ih (by rw [h]; simp), List.append_assoc,
      List.singleton_append]

theorem read_isCut {bs : Bytes} (h : IsCut bs) (chars : List Char) :
    Reading.read { chars } bs = { chars, held := bs } := by
  obtain ⟨_, c, more, hm, hc⟩ := h
  exact read_held (c := c) (by rw [hc, List.nil_append]) hm chars

theorem read_utf8EncodeChar (c : Char) (chars : List Char) :
    Reading.read { chars } (utf8EncodeChar c) = { chars := c :: chars } := by
  obtain ⟨bs, b, h⟩ := (List.eq_nil_or_concat (utf8EncodeChar c)).resolve_left
    String.utf8EncodeChar_ne_nil
  rw [List.concat_eq_append] at h
  have hs : byteStep bs b = .char c := by
    rw [byteStep_utf8EncodeChar h]
    rfl
  have hb : Reading.read { chars } bs = { chars, held := bs } :=
    read_held (c := c) (by rw [h, List.nil_append]) (List.cons_ne_nil b []) chars
  rw [h, Reading.read_append, hb, Reading.read_cons, byte_char hs]
  rfl

theorem not_isCut_utf8EncodeChar (c : Char) : ¬ IsCut (utf8EncodeChar c) := fun h => by
  have hr := (read_utf8EncodeChar c []).symm.trans (read_isCut h [])
  exact absurd (congrArg Reading.chars hr) (by simp)

theorem read_encode (text chars : List Char) :
    Reading.read { chars } (encode text) = { chars := text.reverse ++ chars } := by
  induction text generalizing chars with
  | nil => rfl
  | cons c text ih =>
    rw [encode_cons, Reading.read_append, read_utf8EncodeChar, ih, List.reverse_cons,
      List.append_assoc, List.singleton_append]

/-! ## Ill-formed bytes -/

theorem illFormed_of_byteStep {held bad : Bytes} {b : UInt8} (hh : Held held)
    (hs : byteStep held b = .bad bad) (bs : Bytes) :
    ∃ rest, held ++ b :: bs = bad ++ rest ∧ IllFormed bad rest := by
  have hfit := byteStep_fits hh b
  rw [hs] at hfit
  have hbad : bad = if held.isEmpty then [b] else held := hfit
  have hpre : held ++ [b] <+: held ++ b :: bs := ⟨bs, by simp⟩
  have hno : ∀ c, ¬ held ++ [b] <+: utf8EncodeChar c := by
    rintro c ⟨more, hc⟩
    have hc' : utf8EncodeChar c = held ++ b :: more := by rw [← hc]; simp
    rw [byteStep_utf8EncodeChar hc'] at hs
    split at hs <;> cases hs
  have hlong : ∀ p, p <+: held ++ b :: bs → held.length < p.length → held ++ [b] <+: p :=
    fun p hp hlen => List.prefix_of_prefix_length_le hpre hp
      (by rwa [List.length_append, List.length_singleton])
  have hcut : ∀ p, p <+: held ++ b :: bs → IsCut p → p.length ≤ held.length := by
    rintro p hp ⟨_, c, more, _, hc⟩
    exact Nat.le_of_not_lt fun hlen => hno c ((hlong p hp hlen).trans ⟨more, hc.symm⟩)
  have hchar : ∀ c, ¬ utf8EncodeChar c <+: held ++ b :: bs := by
    intro c hc
    by_cases hlen : (utf8EncodeChar c).length ≤ held.length
    · obtain ⟨tail, ht⟩ := List.prefix_of_prefix_length_le hc ⟨b :: bs, rfl⟩ hlen
      rcases hh with rfl | ⟨_, d, more, hm, hd⟩
      · exact String.utf8EncodeChar_ne_nil (List.append_eq_nil_iff.mp ht).1
      · exact not_isCut_utf8EncodeChar c ⟨String.utf8EncodeChar_ne_nil, d, tail ++ more,
          by simp [hm], by rw [hd, ← ht, List.append_assoc]⟩
    · exact hno c (hlong _ hc (by omega))
  obtain ⟨rest, hrest, hlen, hstart⟩ : ∃ rest, held ++ b :: bs = bad ++ rest ∧
      held.length ≤ bad.length ∧ (IsCut bad ∨ bad.length = 1) := by
    rcases hh with rfl | hheld
    · exact ⟨bs, by rw [hbad]; rfl, by simp, .inr (by rw [hbad]; rfl)⟩
    · rw [if_neg (by simpa using hheld.1)] at hbad
      exact ⟨b :: bs, by rw [hbad], Nat.le_of_eq (by rw [hbad]), .inl (hbad ▸ hheld)⟩
  refine ⟨rest, hrest, hrest ▸ hchar, fun hc => ?_, hstart, fun p hp hc => ?_⟩
  · have hle := hcut _ (hrest ▸ List.prefix_rfl) hc
    rw [← hrest, List.length_append, List.length_cons] at hle
    omega
  · exact Nat.le_trans (hcut p (hrest ▸ hp) hc) hlen

theorem IllFormed.byteStep_eq {bad rest : Bytes} (h : IllFormed bad rest) :
    ∃ held b bs, Held held ∧ bad ++ rest = held ++ b :: bs ∧ byteStep held b = .bad bad := by
  obtain ⟨held, b, bs, hh, he, hbad, hnot⟩ : ∃ held b bs, Held held ∧
      bad ++ rest = held ++ b :: bs ∧ bad = (if held.isEmpty then [b] else held) ∧
      ¬ IsCut (held ++ [b]) := by
    by_cases hc : IsCut bad
    · rcases rest with _ | ⟨b, rest⟩
      · exact absurd (by rwa [List.append_nil]) h.not_cut
      · refine ⟨bad, b, rest, .inr hc, rfl, by simp [hc.1], fun hcut => ?_⟩
        have hle := h.longest _ ⟨rest, by simp⟩ hcut
        rw [List.length_append, List.length_singleton] at hle
        omega
    · obtain ⟨b, rfl⟩ := List.length_eq_one_iff.mp (h.start.resolve_left hc)
      exact ⟨[], b, rest, .inl rfl, rfl, rfl, hc⟩
  refine ⟨held, b, bs, hh, he, ?_⟩
  have hfit := byteStep_fits hh b
  cases hs : byteStep held b with
  | char c =>
    rw [hs] at hfit
    have hc : utf8EncodeChar c = held ++ [b] := hfit
    exact absurd ⟨bs, by rw [hc, he]; simp⟩ (h.no_char c)
  | more held' =>
    rw [hs] at hfit
    exact absurd (hfit.1 ▸ hfit.2) hnot
  | bad bytes =>
    rw [hs] at hfit
    rw [hbad, show bytes = _ from hfit]

theorem read_illFormed {bad rest : Bytes} (h : IllFormed bad rest) (chars : List Char) :
    Reading.read { chars } (bad ++ rest) = { chars, fault := some bad } := by
  obtain ⟨held, b, bs, hh, he, hs⟩ := h.byteStep_eq
  have hheld : Reading.read { chars } held = { chars, held } := by
    rcases hh with rfl | hc
    · rfl
    · exact read_isCut hc chars
  rw [he, Reading.read_append, hheld, Reading.read_cons, byte_bad hs, Reading.read_of_fault rfl]

/-! ## Readings of all bytes -/

theorem decodes_of_read {held : Bytes} (hh : Held held) (chars : List Char) (bs : Bytes) :
    Decodes (encode chars.reverse ++ (held ++ bs)) (Reading.read { chars, held } bs).text
      (Reading.read { chars, held } bs).ending := by
  induction bs generalizing chars held with
  | nil =>
    rw [List.append_nil]
    rcases hh with rfl | hc
    · rw [List.append_nil]
      exact .whole _
    · have he : Reading.ending { chars, held } = .cut held := by
        simp [Reading.ending, hc.1]
      exact he ▸ .cut _ hc
  | cons b bs ih =>
    have hfit := byteStep_fits hh b
    rw [Reading.read_cons]
    cases hs : byteStep held b with
    | char c =>
      rw [hs] at hfit
      have hc : utf8EncodeChar c = held ++ [b] := hfit
      have he : encode chars.reverse ++ (held ++ b :: bs)
          = encode (c :: chars).reverse ++ ([] ++ bs) := by
        rw [List.reverse_cons, encode_append, encode_cons, hc]
        simp [encode]
      rw [byte_char hs, he]
      exact ih (.inl rfl) (c :: chars)
    | more held' =>
      rw [hs] at hfit
      obtain ⟨rfl, hc⟩ := hfit
      have he : held ++ b :: bs = held ++ [b] ++ bs := by simp
      rw [byte_more hs, he]
      exact ih (.inr hc) chars
    | bad bad =>
      obtain ⟨rest, he, hi⟩ := illFormed_of_byteStep hh hs bs
      rw [byte_bad hs, he, Reading.read_of_fault rfl]
      exact .illFormed _ hi

theorem decodes_read (bs : Bytes) :
    Decodes bs (Reading.read {} bs).text (Reading.read {} bs).ending :=
  decodes_of_read (.inl rfl) [] bs

theorem held_read {held : Bytes} (hh : Held held) (chars : List Char) (bs : Bytes) :
    Held (Reading.read { chars, held } bs).held := by
  induction bs generalizing chars held with
  | nil => exact hh
  | cons b bs ih =>
    have hfit := byteStep_fits hh b
    rw [Reading.read_cons]
    cases hs : byteStep held b with
    | char c =>
      rw [byte_char hs]
      exact ih (.inl rfl) _
    | more held' =>
      rw [hs] at hfit
      rw [byte_more hs]
      exact ih (.inr hfit.2) _
    | bad bad =>
      rw [byte_bad hs, Reading.read_of_fault rfl]
      exact .inl rfl

variable {bs : Bytes} {text : List Char} {ending : Ending}

theorem Decodes.text_eq (h : Decodes bs text ending) : text = (Reading.read {} bs).text := by
  cases h with
  | whole => simp [read_encode, Reading.text]
  | cut _ hc => simp [Reading.read_append, read_encode, read_isCut hc, Reading.text]
  | illFormed _ hi =>
    rw [Reading.read_append, read_encode, read_illFormed hi]
    simp [Reading.text]

theorem Decodes.ending_eq (h : Decodes bs text ending) :
    ending = (Reading.read {} bs).ending := by
  cases h with
  | whole => simp [read_encode, Reading.ending]
  | cut _ hc => simp [Reading.read_append, read_encode, read_isCut hc, Reading.ending, hc.1]
  | illFormed _ hi =>
    rw [Reading.read_append, read_encode, read_illFormed hi]
    rfl

theorem Decodes.longest (h : Decodes bs text ending) {t : List Char} (ht : encode t <+: bs) :
    t <+: text := by
  obtain ⟨rest, rfl⟩ := ht
  have hr := Reading.read_chars [] t.reverse [] rest
  rw [h.text_eq, Reading.read_append, read_encode, Reading.text, List.append_nil]
  rw [List.nil_append] at hr
  rw [hr, List.reverse_append, List.reverse_reverse]
  exact List.prefix_append _ _

theorem Decodes.encode_isPrefix (h : Decodes bs text ending) : encode text <+: bs := by
  cases h with
  | whole => exact List.prefix_rfl
  | cut => exact List.prefix_append _ _
  | illFormed => exact List.prefix_append _ _

theorem Decodes.eq_encode (h : Decodes bs text .whole) : bs = encode text := by
  cases h
  rfl

/-! ## Sizes -/

theorem utf8Size_eq_length (chars : List Char) : utf8Size chars = (encode chars).length := by
  have h : ∀ n, chars.foldl (fun n c => n + c.utf8Size) n = n + (encode chars).length := by
    induction chars with
    | nil => exact fun n => rfl
    | cons c cs ih =>
      intro n
      rw [List.foldl_cons, ih, encode_cons, List.length_append, String.length_utf8EncodeChar,
        Nat.add_assoc]
  rw [utf8Size, h, Nat.zero_add]

theorem utf8Size_append (t u : List Char) : utf8Size (t ++ u) = utf8Size t + utf8Size u := by
  simp only [utf8Size_eq_length, encode_append, List.length_append]

theorem utf8Size_cons (c : Char) (t : List Char) :
    utf8Size (c :: t) = c.utf8Size + utf8Size t := by
  rw [utf8Size_eq_length, encode_cons, List.length_append, String.length_utf8EncodeChar,
    utf8Size_eq_length]

theorem utf8Size_reverse (t : List Char) : utf8Size t.reverse = utf8Size t := by
  induction t with
  | nil => rfl
  | cons c t ih =>
    rw [List.reverse_cons, utf8Size_append, ih, utf8Size_cons, utf8Size_cons, Nat.add_comm]
    rfl

theorem utf8ByteSize_ofList (t : List Char) : (String.ofList t).utf8ByteSize = utf8Size t := by
  rw [utf8Size_eq_length, ← String.size_toByteArray, String.toByteArray_ofList, List.utf8Encode,
    List.size_toByteArray, encode]

end LogTriage.Text
