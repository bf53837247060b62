import LogTriage.Report.Normal

/-!
# What is shown of fields

The rules that say how fields are shown are applied one after the other to one map, and some of them
read what others write.  Told key by key they do not meet: every rule has a key of its own, apart
from the marks, which come last.  So nothing is left to be done the second time.

* `get?_normalize`       what is shown under a key;
* `normalize_confined`   fields that are shown already stay as they are; which keys come and go, and
                         which values change.
-/

namespace LogTriage.Report

variable {fields : FieldMap} {key value : String}

/-! ## The rules one by one -/

theorem get?_relabel (key : String) (label : String → Option String) (fields : FieldMap)
    (k : String) : (relabel key label fields).get? k
      = if k = key then (fields.get? k).map fun value => (label value).getD value
        else fields.get? k := by
  unfold relabel
  by_cases hk : k = key
  · rw [if_pos hk, hk]
    cases hv : fields.get? key with
    | none => exact hv
    | some value =>
      cases hl : label value with
      | none => simp [hl, hv]
      | some shown => simp [hl, FieldMap.get?_insert]
  · rw [if_neg hk]
    split
    · rw [FieldMap.get?_insert, if_neg hk]
    · rfl

theorem get?_overrideScale (fields : FieldMap) (k : String) : (overrideScale fields).get? k
    = if k = "resolution_scale" ∧ fields.get? "strict_rendering_mode" = some "true" then
        some "Strict Mode"
      else fields.get? k := by
  unfold overrideScale
  by_cases hs : fields.get? "strict_rendering_mode" = some "true"
  · simp only [hs, if_true, FieldMap.get?_insert, and_true]
  · simp only [hs, if_false, and_false]

theorem get?_dropEmptyGpu (fields : FieldMap) (k : String) : (dropEmptyGpu fields).get? k
    = if k = "gpu" ∧ (fields.get? "gpu" = some "\"\"" ∨ fields.get? "gpu" = some "") then none
      else fields.get? k := by
  unfold dropEmptyGpu
  cases hv : fields.get? "gpu" with
  | none => simp
  | some value =>
    dsimp only
    by_cases hempty : value = "\"\"" ∨ value = ""
    · simp only [hempty, if_true, FieldMap.get?_erase, Option.some.injEq, and_true]
    · simp only [hempty, if_false, Option.some.injEq, and_false]

/-! ## Key by key -/

def source? (fields : FieldMap) (key : String) : Option String :=
  if key = "resolution_scale" ∧ fields.get? "strict_rendering_mode" = some "true" then
    some "Strict Mode"
  else if key = "gpu" ∧ (fields.get? "gpu" = some "\"\"" ∨ fields.get? "gpu" = some "") then none
  else fields.get? key

/-- The name by which a value is shown under a key, marks apart. -/
def labelled (key value : String) : String :=
  if key = "ppu_threads" ∨ key = "spu_threads" then (autoLabel value).getD value
  else if key = "af_override" then (filterLabel value).getD value
  else if key = "lib_loader" then loaderLabel value
  else value

theorem get?_normalize (fields : FieldMap) (k : String) : (normalize fields).get? k
    = (source? fields k).map fun value => markOf (labelled k value) := by
  unfold normalize
  dsimp only
  rw [FieldMap.get?_mapValues, get?_dropEmptyGpu, get?_relabel]
  simp only [get?_relabel, get?_overrideScale]
  -- one case for each key that a rule is about; in each the other rules do nothing
  by_cases hppu : k = "ppu_threads"
  · simp [hppu, source?, labelled, Function.comp_def]
  by_cases hspu : k = "spu_threads"
  · simp [hspu, source?, labelled, Function.comp_def]
  by_cases hfilter : k = "af_override"
  · simp [hfilter, source?, labelled, Function.comp_def]
  by_cases hscale : k = "resolution_scale"
  · simp [hscale, source?, labelled]
  by_cases hloader : k = "lib_loader"
  · simp [hloader, source?, labelled, Function.comp_def]
  simp [*, source?, labelled]

/-! ## The second time -/

theorem loaderLabel_loaderLabel (raw : String) :
    loaderLabel (loaderLabel raw) = loaderLabel raw := by
  have hcases : loaderLabel raw = "Auto & manual select" ∨ loaderLabel raw = "Auto" ∨
      loaderLabel raw = "Manual selection" ∨ loaderLabel raw = raw := by
    unfold loaderLabel
    dsimp only
    split <;> simp
  rcases hcases with h | h | h | h
  · rw [h]
    decide
  · rw [h]
    decide
  · rw [h]
    decide
  · rw [h, h]

theorem autoLabel_getD (value : String) :
    (autoLabel ((autoLabel value).getD value)).getD ((autoLabel value).getD value)
      = (autoLabel value).getD value := by
  unfold autoLabel
  split <;> simp [*]

theorem filterLabel_getD (value : String) :
    (filterLabel ((filterLabel value).getD value)).getD ((filterLabel value).getD value)
      = (filterLabel value).getD value := by
  unfold filterLabel
  split
  · simp
  · split <;> simp [*]

theorem labelled_labelled (key value : String) :
    labelled key (labelled key value) = labelled key value := by
  unfold labelled
  split
  · exact autoLabel_getD value
  split
  · exact filterLabel_getD value
  split
  · exact loaderLabel_loaderLabel value
  · rfl

theorem markOf_ne (value : String) : markOf value ≠ "true" ∧ markOf value ≠ "false" := by
  unfold markOf
  split
  · decide
  split
  · decide
  · exact ⟨‹_›, ‹_›⟩

theorem labelled_mark (key : String) : labelled key "✓" = "✓" ∧ labelled key "✗" = "✗" := by
  unfold labelled
  split
  · decide
  split
  · decide
  split
  · decide +kernel
  · exact ⟨rfl, rfl⟩

theorem markOf_labelled (key value : String) :
    markOf (labelled key (markOf (labelled key value))) = markOf (labelled key value) := by
  obtain ⟨htrue, hfalse⟩ := labelled_mark key
  generalize hshown : labelled key value = shown
  have hagain : labelled key shown = shown := by rw [← hshown, labelled_labelled]
  unfold markOf
  by_cases ht : shown = "true"
  · simp [ht, htrue]
  by_cases hf : shown = "false"
  · simp [hf, hfalse]
  simp [ht, hf, hagain]

theorem get?_normalize_ne (fields : FieldMap) (k : String) :
    (normalize fields).get? k ≠ some "true" ∧ (normalize fields).get? k ≠ some "false" := by
  rw [get?_normalize]
  cases source? fields k with
  | none => exact ⟨nofun, nofun⟩
  | some value =>
    obtain ⟨htrue, hfalse⟩ := markOf_ne (labelled k value)
    exact ⟨fun h => htrue (Option.some.inj h), fun h => hfalse (Option.some.inj h)⟩

theorem source?_gpu {value : String} (h : source? fields "gpu" = some value) :
    fields.get? "gpu" = some value ∧ value ≠ "\"\"" ∧ value ≠ "" := by
  unfold source? at h
  split at h
  · rename_i hscale
    exact absurd hscale.1 (by decide)
  split at h
  · cases h
  · rename_i hkept
    refine ⟨h, ?_, ?_⟩
    · rintro rfl
      exact hkept ⟨rfl, .inl h⟩
    · rintro rfl
      exact hkept ⟨rfl, .inr h⟩

theorem get?_normalize_gpu (fields : FieldMap) :
    (normalize fields).get? "gpu" ≠ some "\"\"" ∧ (normalize fields).get? "gpu" ≠ some "" := by
  rw [get?_normalize]
  cases hv : source? fields "gpu" with
  | none => exact ⟨nofun, nofun⟩
  | some value =>
    obtain ⟨-, hquotes, hempty⟩ := source?_gpu hv
    have hshown : labelled "gpu" value = value := by simp [labelled]
    simp only [Option.map_some, hshown, ne_eq, Option.some.injEq, markOf]
    split
    · decide
    split
    · decide
    · exact ⟨hquotes, hempty⟩

theorem source?_normalize (fields : FieldMap) (k : String) :
    source? (normalize fields) k = (normalize fields).get? k := by
  have hstrict := (get?_normalize_ne fields "strict_rendering_mode").1
  obtain ⟨hquotes, hempty⟩ := get?_normalize_gpu fields
  rw [source?, if_neg (fun h => hstrict h.2), if_neg (fun h => h.2.elim hquotes hempty)]

theorem normalize_normalize (fields : FieldMap) :
    normalize (normalize fields) = normalize fields := by
  refine FieldMap.ext_get? fun k => ?_
  rw [get?_normalize, source?_normalize, get?_normalize]
  cases source? fields k with
  | none => rfl
  | some value => exact congrArg some (markOf_labelled k value)

/-! ## What is touched -/

def ruledKeys : List String :=
  ["ppu_threads", "spu_threads", "af_override", "resolution_scale", "lib_loader", "gpu"]

theorem get?_normalize_other {k : String} (h : k ∉ ruledKeys) :
    (normalize fields).get? k = (fields.get? k).map markOf := by
  simp only [ruledKeys, List.mem_cons, List.not_mem_nil, or_false, not_or] at h
  rw [get?_normalize]
  simp [source?, labelled, h]

theorem get?_normalize_eq_none_iff {k : String} : (normalize fields).get? k = none ↔
    ¬ (k = "resolution_scale" ∧ fields.get? "strict_rendering_mode" = some "true") ∧
      (fields.get? k = none ∨
        k = "gpu" ∧ (fields.get? k = some "\"\"" ∨ fields.get? k = some "")) := by
  rw [get?_normalize, Option.map_eq_none_iff, source?]
  split
  · rename_i hscale
    simp [hscale]
  rename_i hscale
  split
  · rename_i hgpu
    obtain ⟨rfl, hgpu⟩ := hgpu
    simp [hgpu]
  · rename_i hgpu
    refine ⟨fun h => ⟨hscale, .inl h⟩, fun h => h.2.elim id fun hempty => ?_⟩
    obtain ⟨rfl, hempty⟩ := hempty
    exact absurd ⟨rfl, hempty⟩ hgpu

/-- **Showing fields** once is enough, and it is confined.  No truth value is left.  Keys that no
rule is about are kept, their values marked.  The only key that can come is the scale, and the only
one that can go is the name of the graphics card. -/
theorem normalize_confined (fields : FieldMap) :
    normalize (normalize fields) = normalize fields ∧
    (∀ k, (normalize fields).get? k ≠ some "true" ∧ (normalize fields).get? k ≠ some "false") ∧
    (∀ k, k ∉ ruledKeys → (normalize fields).get? k = (fields.get? k).map fun value =>
      if value = "true" then "✓" else if value = "false" then "✗" else value) ∧
    (∀ k, fields.get? k = none → ((normalize fields).get? k ≠ none ↔
      k = "resolution_scale" ∧ fields.get? "strict_rendering_mode" = some "true")) ∧
    (∀ k value, fields.get? k = some value → ((normalize fields).get? k = none ↔
      k = "gpu" ∧ (value = "" ∨ value = "\"\""))) ∧
    ∀ raw, loaderLabel (loaderLabel raw) = loaderLabel raw := by
  refine ⟨normalize_normalize fields, get?_normalize_ne fields, fun k h => get?_normalize_other h,
    fun k hk => ?_, fun k value hk => ?_, loaderLabel_loaderLabel⟩
  · rw [ne_eq, get?_normalize_eq_none_iff]
    simp only [hk, true_or, and_true, Decidable.not_not]
  · rw [get?_normalize_eq_none_iff]
    simp only [hk, reduceCtorEq, false_or, Option.some.injEq]
    refine ⟨fun h => ⟨h.2.1, h.2.2.symm⟩, fun h => ⟨?_, h.1, h.2.symm⟩⟩
    rintro ⟨rfl, -⟩
    exact absurd h.1 (by decide)

end LogTriage.Report
