import LogTriage.Proofs.Escape
import LogTriage.Report.Basic

/-!
# Reports are harmless

The texts of an analysis are escaped; the lines of a report are put together from them and from
words of its own.  Whatever is shown under another name, padded, cut, joined or packed on the way
stays harmless, so that nothing in a log can end the fence around a report or mention anyone.

* `harmless_summaryLines`  the lines of a report;
* `harmless_pack`          the bodies that lines are packed into;
* `fence_only_at_ends`     a fence stands only at the two ends of a segment;
* `harmless_sections`      the sections of a report.
-/

namespace LogTriage

/-! ## Fields -/

namespace FieldMap
variable {m : FieldMap} {key value : String}

def Harmless (m : FieldMap) : Prop := ∀ e ∈ m.entries, LogTriage.Harmless e.2

theorem Harmless.get? (h : m.Harmless) (hv : m.get? key = some value) :
    LogTriage.Harmless value := by
  obtain ⟨before, after, he, -⟩ := List.lookup_eq_some_iff.mp hv
  exact h (key, value) (by simp [he])

theorem eq_or_mem_of_mem_put {e : String × String} {l : List (String × String)}
    (he : e ∈ put key value l) : e = (key, value) ∨ e ∈ l := by
  induction l with
  | nil => exact .inl (List.mem_singleton.mp he)
  | cons head rest ih =>
    obtain ⟨k, v⟩ := head
    rw [put] at he
    split at he
    · exact List.mem_cons.mp he
    split at he
    · exact (List.mem_cons.mp he).imp_right (List.mem_cons_of_mem _)
    · rcases List.mem_cons.mp he with rfl | he
      · exact .inr List.mem_cons_self
      · exact (ih he).imp_right (List.mem_cons_of_mem _)

theorem Harmless.insert (h : m.Harmless) (hv : LogTriage.Harmless value) :
    (m.insert key value).Harmless := by
  intro e he
  rcases eq_or_mem_of_mem_put he with rfl | he
  · exact hv
  · exact h e he

theorem Harmless.erase (h : m.Harmless) (key : String) : (m.erase key).Harmless := by
  intro e he
  exact h e (List.mem_filter.mp he).1

theorem Harmless.mapValues {f : String → String} (h : m.Harmless)
    (hf : ∀ value, LogTriage.Harmless value → LogTriage.Harmless (f value)) :
    (m.mapValues f).Harmless := by
  intro e he
  obtain ⟨e', he', rfl⟩ := List.mem_map.mp he
  exact hf e'.2 (h e' he')

theorem harmless_escape (m : FieldMap) : m.escape.Harmless := by
  intro e he
  obtain ⟨e', -, rfl⟩ := List.mem_map.mp he
  exact LogTriage.harmless_escape e'.2

end FieldMap

namespace Report
open Text
variable {fields : FieldMap} {key value : String}

/-! ## Fields as they are shown -/

theorem harmless_relabel {label : String → Option String} (h : fields.Harmless)
    (hlabel : ∀ value shown, Harmless value → label value = some shown → Harmless shown) :
    (relabel key label fields).Harmless := by
  unfold relabel
  split
  · rename_i shown hshown
    obtain ⟨value, hvalue, hlabelled⟩ := Option.bind_eq_some_iff.mp hshown
    exact h.insert (hlabel value shown (h.get? hvalue) hlabelled)
  · exact h

theorem harmless_autoLabel {shown : String} (h : autoLabel value = some shown) :
    Harmless shown := by
  unfold autoLabel at h
  split at h
  · cases h
    exact Inactive.harmless (by decide)
  · cases h

theorem harmless_filterLabel {shown : String} (h : filterLabel value = some shown) :
    Harmless shown := by
  unfold filterLabel at h
  split at h
  · cases h
    exact Inactive.harmless (by decide)
  split at h
  · cases h
    exact Inactive.harmless (by decide)
  · cases h

theorem harmless_loaderLabel (h : Harmless value) : Harmless (loaderLabel value) := by
  unfold loaderLabel
  dsimp only
  split
  · exact Inactive.harmless (by decide)
  · exact Inactive.harmless (by decide)
  · exact Inactive.harmless (by decide)
  · exact h

theorem harmless_markOf (h : Harmless value) : Harmless (markOf value) := by
  unfold markOf
  split
  · exact Inactive.harmless (by decide)
  split
  · exact Inactive.harmless (by decide)
  · exact h

theorem harmless_overrideScale (h : fields.Harmless) : (overrideScale fields).Harmless := by
  unfold overrideScale
  split
  · exact h.insert (Inactive.harmless (by decide))
  · exact h

theorem harmless_dropEmptyGpu (h : fields.Harmless) : (dropEmptyGpu fields).Harmless := by
  unfold dropEmptyGpu
  split
  · split
    · exact h.erase "gpu"
    · exact h
  · exact h

theorem harmless_normalize (h : fields.Harmless) : (normalize fields).Harmless := by
  have hauto (key : String) {fields : FieldMap} (h : fields.Harmless) :
      (relabel key autoLabel fields).Harmless :=
    harmless_relabel h fun _ _ _ hl => harmless_autoLabel hl
  have hcounts := hauto "spu_threads" (hauto "ppu_threads" h)
  have hfilter : (relabel "af_override" filterLabel _).Harmless :=
    harmless_relabel hcounts fun _ _ _ hl => harmless_filterLabel hl
  have hlabel : ∀ value shown, Harmless value → some (loaderLabel value) = some shown →
      Harmless shown := by
    rintro value _ hv ⟨⟩
    exact harmless_loaderLabel hv
  have hloader : (relabel "lib_loader" (fun value => some (loaderLabel value)) _).Harmless :=
    harmless_relabel (harmless_overrideScale hfilter) hlabel
  exact (harmless_dropEmptyGpu hloader).mapValues fun _ hv => harmless_markOf hv

/-! ## Lines -/

theorem inactive_toString (n : Nat) : Inactive (toString n) := by
  intro c hc
  have hdigits : (toString n).toList = Nat.toDigits 10 n := String.toList_ofList
  rw [hdigits] at hc
  have hdigit := Nat.isDigit_of_mem_toDigits (by decide) (by decide) hc
  unfold Escape.active
  rw [Bool.or_eq_false_iff, beq_eq_false_iff_ne, beq_eq_false_iff_ne]
  constructor
  · rintro rfl
    cases hdigit
  · rintro rfl
    cases hdigit

theorem inactive_zeroPadded (width n : Nat) : Inactive (zeroPadded width n) := by
  intro c hc
  rw [zeroPadded, String.toList_ofList, List.mem_append] at hc
  rcases hc with hc | hc
  · exact Harmless.inactive_replicate _ (by decide) c hc
  · exact inactive_toString n c hc

theorem inactive_date (d : Date) : Inactive d.text := by
  have hyear : Inactive (Date.yearText d.year) := by
    unfold Date.yearText
    split
    · exact inactive_zeroPadded 4 _
    split
    · exact Inactive.append (by decide) (inactive_zeroPadded 4 _)
    · exact Inactive.append (by decide) (inactive_toString _)
  have hdash : Inactive "-" := by decide
  exact (((hyear.append hdash).append (inactive_zeroPadded 2 _)).append hdash).append
    (inactive_zeroPadded 2 _)

theorem harmless_valueOf (h : fields.Harmless) (key : String) : Harmless (valueOf fields key) := by
  unfold valueOf
  split
  · rename_i value hvalue
    exact h.get? hvalue
  split
  · exact Inactive.harmless (by decide)
  · exact Inactive.harmless (by decide)

theorem harmless_row (h : fields.Harmless) {label label' : String} (hl : Inactive label)
    (hl' : Inactive label') (width : Nat) (key key' : String) :
    Harmless (row fields label width key label' key') := by
  have hcolon : Inactive ": " := by decide
  have hbar : Inactive " | " := by decide
  have hleft := (hl.append hcolon).harmless.append ((harmless_valueOf h key).padStart width)
  have hright := ((hleft.append hbar.harmless).append hl'.harmless).append hcolon.harmless
  exact hright.append (harmless_valueOf h key')

theorem harmless_cpuLines (h : fields.Harmless) : ∀ line ∈ cpuLines fields, Harmless line := by
  unfold cpuLines
  simp only [List.mem_cons, List.not_mem_nil, or_false]
  rintro line (rfl | rfl | rfl | rfl | rfl)
  all_goals exact harmless_row h (by decide) (by decide) _ _ _

theorem harmless_videoLines (h : fields.Harmless) : ∀ line ∈ videoLines fields, Harmless line := by
  unfold videoLines
  intro line hline
  rw [List.mem_append, List.mem_append] at hline
  rcases hline with (hline | hline) | hline
  · simp only [List.mem_cons, List.not_mem_nil, or_false] at hline
    rcases hline with rfl | rfl | rfl | rfl | rfl
    all_goals exact harmless_row h (by decide) (by decide) _ _ _
  · rw [Option.mem_toList, Option.map_eq_some_iff] at hline
    obtain ⟨aspect, haspect, rfl⟩ := hline
    exact (Inactive.harmless (by decide)).append ((h.get? haspect).padStart 20)
  · rw [List.mem_singleton.mp hline]
    exact (Inactive.harmless (by decide)).append ((harmless_valueOf h "gpu").padStart 29)

theorem harmless_driverLines (h : fields.Harmless) :
    ∀ line ∈ driverLines fields, Harmless line := by
  have hprefixed (key label : String) (hl : Inactive label) (line : String)
      (hline : line ∈ ((fields.get? key).map (label ++ ·)).toList) : Harmless line := by
    rw [Option.mem_toList, Option.map_eq_some_iff] at hline
    obtain ⟨value, hvalue, rfl⟩ := hline
    exact hl.harmless.append (h.get? hvalue)
  unfold driverLines
  intro line hline
  rw [List.mem_append, List.mem_append] at hline
  rcases hline with (hline | hline) | hline
  · rw [Option.mem_toList, Option.map_eq_some_iff] at hline
    obtain ⟨gpu, hgpu, rfl⟩ := hline
    have hname : Harmless ("Vulkan GPU: " ++ gpu) :=
      (Inactive.harmless (by decide)).append (h.get? hgpu)
    split
    · rename_i driver hdriver
      have hopen := hname.append (Inactive.harmless (s := " (driver ") (by decide))
      exact (hopen.append (h.get? hdriver)).append (Inactive.harmless (by decide))
    · exact hname
  · exact hprefixed "gl_renderer" "GL Renderer: " (by decide) line hline
  · exact hprefixed "gl_version" "GL Version: " (by decide) line hline

theorem harmless_buildLines (h : fields.Harmless) : ∀ line ∈ buildLines fields, Harmless line := by
  intro line hline
  obtain ⟨key, -, hkey⟩ := List.mem_filterMap.mp hline
  exact h.get? hkey

theorem harmless_trimTitle {title : String} (h : Harmless title) : Harmless (trimTitle title) := by
  unfold trimTitle
  split
  · exact h
  · have hguard : "...".toList = ['.', '.', '.'] := rfl
    exact h.cut (maxTitle - 3) hguard (by decide) (by decide)

end Report

/-! ## Analyses -/

/-- What a report shows of a product is harmless. -/
structure Product.Harmless (p : Product) : Prop where
  serial : ∀ serial, p.serial = some serial → LogTriage.Harmless serial
  title : ∀ title, p.title = some title → LogTriage.Harmless title

structure Analysis.Harmless (a : Analysis) : Prop where
  fields : a.fields.Harmless
  libraries : ∀ library ∈ a.libraries, LogTriage.Harmless library
  product : a.product.Harmless

theorem Product.harmless_escape (p : Product) : p.escape.Harmless := by
  constructor
  · intro serial hs
    obtain ⟨s, -, rfl⟩ := Option.map_eq_some_iff.mp hs
    exact LogTriage.harmless_escape s
  · intro title ht
    obtain ⟨t, -, rfl⟩ := Option.map_eq_some_iff.mp ht
    exact LogTriage.harmless_escape t

namespace Report
variable {a : Analysis} {p : Product}

theorem harmless_getD {o : Option String} {default : String} (hd : Harmless default)
    (h : ∀ s, o = some s → Harmless s) : Harmless (o.getD default) := by
  cases o with
  | none => exact hd
  | some s => exact h s rfl

theorem harmless_productLines (h : p.Harmless) : ∀ line ∈ productLines p, Harmless line := by
  have hempty : Harmless "" := Inactive.harmless (by decide)
  unfold productLines
  intro line hline
  split at hline
  · rcases List.mem_cons.mp hline with rfl | hline
    · have hserial := (harmless_getD hempty h.serial).padEnd 9
      have htitle : Harmless (p.title.getD "Unknown") :=
        harmless_getD (Inactive.harmless (by decide)) h.title
      have hrequest : Harmless ((p.pullRequest.map toString).getD noPullRequest) := by
        refine harmless_getD (Inactive.harmless (by decide)) ?_
        intro s hs
        obtain ⟨n, -, rfl⟩ := Option.map_eq_some_iff.mp hs
        exact (inactive_toString n).harmless
      have hstatus : Harmless p.status.label := by
        cases p.status <;> exact Inactive.harmless (by decide)
      have hupdated : Harmless ((p.updated.map Date.text).getD "") := by
        refine harmless_getD hempty ?_
        intro s hs
        obtain ⟨d, -, rfl⟩ := Option.map_eq_some_iff.mp hs
        exact (inactive_date d).harmless
      have hword (word : String) (hw : Inactive word) {s t : String} (hs : Harmless s)
          (ht : Harmless t) : Harmless (s ++ word ++ t) := (hs.append hw.harmless).append ht
      have h₁ := (Inactive.harmless (s := "ID:") (by decide)).append hserial
      have h₂ := hword " Title:" (by decide) h₁ ((harmless_trimTitle htitle).padEnd 40)
      have h₃ := hword " PR:" (by decide) h₂ (hrequest.padEnd 4)
      have h₄ := hword " Status:" (by decide) h₃ (hstatus.padEnd 8)
      exact hword " Updated:" (by decide) h₄ (hupdated.padEnd 10)
    · rw [Option.mem_toList, Option.map_eq_some_iff] at hline
      obtain ⟨thread, -, rfl⟩ := hline
      have hurl : Inactive "https://forums.rpcs3.net/thread-" := by decide
      exact ((hurl.append (inactive_toString thread)).append (by decide)).harmless
  · split at hline
    · rename_i serial hserial
      rcases List.mem_cons.mp hline with rfl | hline
      · have hhead : Harmless "Product code " := Inactive.harmless (by decide)
        exact (hhead.append (h.serial serial hserial)).append (Inactive.harmless (by decide))
      · rw [Option.mem_toList, Option.map_eq_some_iff] at hline
        obtain ⟨title, htitle, rfl⟩ := hline
        exact (Inactive.harmless (by decide)).append (h.title title htitle)
    · rw [List.mem_singleton.mp hline]
      exact Inactive.harmless (by decide)

theorem harmless_joined {libraries : List String} (h : ∀ library ∈ libraries, Harmless library) :
    Harmless (String.intercalate ", " libraries) :=
  Harmless.intercalate (Inactive.harmless (by decide)) h

theorem harmless_librariesText {libraries : List String}
    (h : ∀ library ∈ libraries, Harmless library) : Harmless (librariesText libraries) := by
  unfold librariesText
  split
  · exact Inactive.harmless (by decide)
  · exact harmless_joined h

theorem harmless_summaryLines (h : a.Harmless) : ∀ line ∈ summaryLines a, Harmless line := by
  have hempty : Harmless "" := Inactive.harmless (by decide)
  have hfields := harmless_normalize h.fields
  unfold summaryLines
  intro line hline
  simp only [List.mem_append] at hline
  rcases hline with ((((((hline | hline) | hline) | hline) | hline) | hline) | hline) | hline
  · exact harmless_buildLines hfields line hline
  · split at hline
    · cases hline
    · rw [List.mem_singleton.mp hline]
      exact hempty
  · exact harmless_productLines h.product line hline
  · rw [List.mem_singleton.mp hline]
    exact hempty
  · exact harmless_cpuLines hfields line hline
  · simp only [List.mem_cons, List.not_mem_nil, or_false] at hline
    rcases hline with rfl | rfl
    · exact (Inactive.harmless (by decide)).append (harmless_librariesText h.libraries)
    · exact hempty
  · exact harmless_videoLines hfields line hline
  · exact harmless_driverLines hfields line hline

/-! ## Segments -/

structure Packing.Harmless (p : Packing) : Prop where
  body : LogTriage.Harmless p.body
  done : ∀ body ∈ p.done, LogTriage.Harmless body

namespace Packing
variable {packing : Packing} {line : String}

theorem harmless_turn (h : packing.Harmless) : packing.turn.Harmless where
  body := Inactive.harmless (s := "") (by decide)
  done := by
    intro body hb
    rcases List.mem_cons.mp hb with rfl | hb
    · exact h.body
    · exact h.done body hb

theorem harmless_append (h : packing.Harmless) (hl : LogTriage.Harmless line) :
    (packing.append line).Harmless where
  body := (h.body.append hl).push (by decide)
  done := h.done

theorem harmless_add (budget : Nat) (h : packing.Harmless) (hl : LogTriage.Harmless line) :
    (packing.add budget line).Harmless := by
  have hcut := hl.truncate (budget - 1)
  unfold add
  split
  · exact h
  dsimp only
  split
  · split
    · exact harmless_turn h
    · exact harmless_append (harmless_turn h) hcut
  · exact harmless_append h hcut

end Packing

theorem harmless_pack (budget : Nat) {lines : List String} (h : ∀ line ∈ lines, Harmless line) :
    ∀ body ∈ pack budget lines, Harmless body := by
  have hfold : ∀ (lines : List String) (packing : Packing), packing.Harmless →
      (∀ line ∈ lines, Harmless line) → (lines.foldl (Packing.add budget) packing).Harmless := by
    intro lines
    induction lines with
    | nil =>
      intro packing hp _
      exact hp
    | cons line lines ih =>
      intro packing hp hl
      exact ih _ (Packing.harmless_add budget hp (hl line List.mem_cons_self))
        fun l hmem => hl l (List.mem_cons_of_mem _ hmem)
  have hpacked := hfold lines {} ⟨Inactive.harmless (by decide), by simp⟩ h
  intro body hb
  rw [pack, Packing.bodies, List.mem_reverse] at hb
  split at hb
  · exact hpacked.done body hb
  · exact (Packing.harmless_turn hpacked).done body hb

theorem getElem?_wrap {body : String} {i : Nat} (hi : i < ('\n' :: body.toList).length) :
    (wrap body).toList[3 + i]? = ('\n' :: body.toList)[i]? := by
  have hwrap : (wrap body).toList
      = ['\x60', '\x60', '\x60'] ++ (('\n' :: body.toList) ++ ['\x60', '\x60', '\x60']) := by
    simp [wrap, fenceOpen, fenceClose]
  rw [hwrap, List.getElem?_append_right (by simp), List.getElem?_append_left (by simpa using hi)]
  simp

theorem getElem?_fence (before after : List Char) {k : Nat} (hk : k < 3) :
    (before ++ fenceClose.toList ++ after)[before.length + k]? = some '\x60' := by
  have hthree : fenceClose.toList = ['\x60', '\x60', '\x60'] := rfl
  rw [List.append_assoc, List.getElem?_append_right (Nat.le_add_right _ _),
    Nat.add_sub_cancel_left, hthree, List.getElem?_append_left (by simpa using hk)]
  obtain rfl | rfl | rfl : k = 0 ∨ k = 1 ∨ k = 2 := by omega
  all_goals rfl

/-- **A fence stands only at the two ends of a segment** whose body is harmless. -/
theorem fence_only_at_ends {body : String} (h : Harmless body) {before after : List Char}
    (hs : (wrap body).toList = before ++ fenceClose.toList ++ after) : before = [] ∨ after = [] := by
  have hbreak : Escape.Guarded Escape.guards ['\n'] :=
    Escape.guarded_of_inactive (List.forall_mem_singleton.mpr (by decide))
  have hinner : Escape.Guarded Escape.guards ('\n' :: body.toList) := hbreak.append h
  have hmark (k : Nat) (hk : k < 3) : (wrap body).toList[before.length + k]? = some '\x60' := by
    rw [hs]
    exact getElem?_fence before after hk
  have hlen : 3 + ('\n' :: body.toList).length + 3 = before.length + 3 + after.length := by
    have hopen : fenceOpen.toList.length = 4 := by decide
    have hclose : fenceClose.toList.length = 3 := by decide
    have hsame := congrArg List.length hs
    simp only [wrap, String.toList_append, List.length_append, hopen, hclose] at hsame
    rw [List.length_cons]
    omega
  rw [← List.length_eq_zero_iff, ← List.length_eq_zero_iff]
  by_contra hends
  rw [not_or] at hends
  by_cases hearly : before.length < 3
  -- one of the three marks would be the line feed after the first fence
  · have hfeed := hmark (3 - before.length) (by omega)
    have hplace : before.length + (3 - before.length) = 3 + 0 := by omega
    rw [hplace, getElem?_wrap (by simp)] at hfeed
    cases hfeed
  · obtain ⟨i, hi⟩ : ∃ i, before.length = 3 + i := ⟨before.length - 3, by omega⟩
    have hfirst := hmark 0 (by decide)
    rw [Nat.add_zero, hi, getElem?_wrap (by omega)] at hfirst
    obtain ⟨d, hd, hnext⟩ := hinner.next hfirst (by decide)
    obtain ⟨hlt, -⟩ := List.getElem?_eq_some_iff.mp hnext
    have hsecond := hmark 1 (by decide)
    rw [hi, Nat.add_assoc, getElem?_wrap hlt, hnext, Option.some.injEq] at hsecond
    rw [hsecond] at hd
    exact absurd hd (by decide)

/-! ## Sections -/

theorem harmless_sectionBody {body : String} {lines : List String} (hb : Harmless body)
    (h : ∀ line ∈ lines, Harmless line) : Harmless (sectionBody body lines) := by
  induction lines generalizing body with
  | nil => exact hb
  | cons line lines ih =>
    have hline := h line List.mem_cons_self
    rw [sectionBody]
    split
    · rename_i joined hjoined
      refine ih ?_ fun l hl => h l (List.mem_cons_of_mem _ hl)
      have htext : joined = if body.isEmpty then line else body.push '\n' ++ line := by
        unfold addLine at hjoined
        dsimp only at hjoined
        generalize (if body.isEmpty then line else body.push '\n' ++ line) = text at hjoined ⊢
        split at hjoined
        · cases hjoined
        · exact (Option.some.inj hjoined).symm
      rw [htext]
      split
      · exact hline
      · exact (hb.push (by decide)).append hline
    · split
      · exact hline.truncate maxSection
      · exact hb

theorem harmless_sectionOf {name : String} {lines : List String}
    (h : ∀ line ∈ lines, Harmless line) : Harmless (sectionOf name lines).body :=
  harmless_sectionBody (Inactive.harmless (by decide)) h

theorem harmless_title (b : ReportBuilder) (h : a.Harmless) : Harmless (b.structured a).title := by
  have hunknown : Harmless "Unknown" := Inactive.harmless (by decide)
  have htitle : (b.structured a).title
      = a.product.title.getD (a.product.serial.getD "Unknown") := by
    unfold ReportBuilder.structured
    cases a.product.title <;> rfl
  rw [htitle]
  exact harmless_getD (harmless_getD hunknown h.product.serial) h.product.title

/-- **The sections of a report are harmless.** -/
theorem harmless_sections (b : ReportBuilder) (h : a.Harmless) :
    ∀ s ∈ (b.structured a).sections, Harmless s.body := by
  have hfields := harmless_normalize h.fields
  have hbuild : ∀ line ∈ productLines a.product ++ buildLines (normalize a.fields), Harmless line :=
    List.forall_mem_append.mpr ⟨harmless_productLines h.product, harmless_buildLines hfields⟩
  have hgpu : ∀ line ∈ videoLines (normalize a.fields) ++ driverLines (normalize a.fields),
      Harmless line :=
    List.forall_mem_append.mpr ⟨harmless_videoLines hfields, harmless_driverLines hfields⟩
  have hlibraries : ∀ line ∈ [String.intercalate ", " a.libraries], Harmless line := by
    intro line hline
    rw [List.mem_singleton.mp hline]
    exact harmless_joined h.libraries
  intro s hs
  have hs := List.mem_of_mem_take hs
  rw [List.mem_append] at hs
  rcases hs with hs | hs
  · simp only [List.mem_cons, List.not_mem_nil, or_false] at hs
    rcases hs with rfl | rfl | rfl
    · exact harmless_sectionOf hbuild
    · exact harmless_sectionOf (harmless_cpuLines hfields)
    · exact harmless_sectionOf hgpu
  · split at hs
    · cases hs
    · rw [List.mem_singleton.mp hs]
      exact harmless_sectionOf hlibraries

end Report

end LogTriage
