/-!
# Field maps

A map from names to texts whose entries are kept in increasing order of their names, so that two
maps with the same entries are the same map.
-/

namespace LogTriage

structure FieldMap where
  entries : List (String × String)
  sorted : entries.Pairwise (fun a b => a.1 < b.1)

namespace FieldMap

def empty : FieldMap := ⟨[], .nil⟩

instance : EmptyCollection FieldMap := ⟨empty⟩
instance : Inhabited FieldMap := ⟨empty⟩

theorem ext_entries {m n : FieldMap} (h : m.entries = n.entries) : m = n := by
  cases m; cases n; simp_all

instance : DecidableEq FieldMap := fun m n =>
  if h : m.entries = n.entries then isTrue (ext_entries h) else isFalse fun e => h (e ▸ rfl)

section entries
variable {k v : String}

/-- The entries with `v` under `k`. -/
def put (k v : String) : List (String × String) → List (String × String)
  | [] => [(k, v)]
  | (k', v') :: rest =>
    if k < k' then (k, v) :: (k', v') :: rest
    else if k = k' then (k, v) :: rest
    else (k', v') :: put k v rest

theorem fst_of_mem_put {e : String × String} :
    ∀ {l : List (String × String)}, e ∈ put k v l → e.1 = k ∨ e ∈ l
  | [], h => by simp [put] at h; simp [h]
  | (k', v') :: rest, h => by
    rw [put] at h
    split at h
    · rcases List.mem_cons.mp h with rfl | h
      · exact .inl rfl
      · exact .inr h
    · split at h
      · rcases List.mem_cons.mp h with rfl | h
        · exact .inl rfl
        · exact .inr (List.mem_cons_of_mem _ h)
      · rcases List.mem_cons.mp h with rfl | h
        · exact .inr List.mem_cons_self
        · exact (fst_of_mem_put h).imp_right (List.mem_cons_of_mem _)

theorem lt_of_not_lt_of_ne {a b : String} (h : ¬ a < b) (hne : a ≠ b) : b < a :=
  Decidable.byContradiction fun h' =>
    hne (String.le_antisymm (String.not_lt.mp h') (String.not_lt.mp h))

theorem pairwise_put {l : List (String × String)} (h : l.Pairwise (fun a b => a.1 < b.1)) :
    (put k v l).Pairwise (fun a b => a.1 < b.1) := by
  induction l with
  | nil => simp [put]
  | cons e rest ih =>
    obtain ⟨k', v'⟩ := e
    have hrest := List.pairwise_cons.mp h
    rw [put]
    split
    · rename_i hlt
      refine List.pairwise_cons.mpr ⟨fun e he => ?_, h⟩
      rcases List.mem_cons.mp he with rfl | he
      · exact hlt
      · exact String.lt_trans hlt (hrest.1 e he)
    · split
      · rename_i heq
        exact List.pairwise_cons.mpr ⟨fun e he => heq ▸ hrest.1 e he, hrest.2⟩
      · rename_i hlt hne
        refine List.pairwise_cons.mpr ⟨fun e he => ?_, ih hrest.2⟩
        rcases fst_of_mem_put he with rfl | he
        · exact lt_of_not_lt_of_ne hlt hne
        · exact hrest.1 e he

end entries

def insert (m : FieldMap) (k v : String) : FieldMap := ⟨put k v m.entries, pairwise_put m.sorted⟩

def get? (m : FieldMap) (k : String) : Option String := m.entries.lookup k

theorem lookup_cons_ite (a b k : String) (l : List (String × String)) :
    ((a, b) :: l).lookup k = if k = a then some b else l.lookup k := by
  by_cases hk : k = a
  · rw [if_pos hk, hk, List.lookup_cons_self]
  · rw [if_neg hk, List.lookup_cons, beq_eq_false_iff_ne.mpr hk]

theorem lookup_put (k v k' : String) (l : List (String × String)) :
    (put k v l).lookup k' = if k' = k then some v else l.lookup k' := by
  induction l with
  | nil => rw [put, lookup_cons_ite]
  | cons e rest ih =>
    obtain ⟨a, b⟩ := e
    rw [put]
    split
    · rw [lookup_cons_ite]
    · split
      · rename_i hak
        rw [lookup_cons_ite, lookup_cons_ite, ← hak]
        split <;> rfl
      · rename_i hak
        rw [lookup_cons_ite, lookup_cons_ite, ih]
        by_cases hk : k' = a
        · have hne : k' ≠ k := fun h => hak (h.symm.trans hk)
          rw [if_pos hk, if_pos hk, if_neg hne]
        · rw [if_neg hk, if_neg hk]

/-- **A field that is inserted** replaces the one of its name, and no other. -/
theorem get?_insert (m : FieldMap) (k v k' : String) :
    (m.insert k v).get? k' = if k' = k then some v else m.get? k' := lookup_put k v k' m.entries

def erase (m : FieldMap) (k : String) : FieldMap :=
  ⟨m.entries.filter (fun e => e.1 != k), m.sorted.filter _⟩

theorem lookup_filter_ne (k k' : String) (l : List (String × String)) :
    (l.filter (fun e => e.1 != k)).lookup k' = if k' = k then none else l.lookup k' := by
  induction l with
  | nil => simp
  | cons e rest ih =>
    obtain ⟨a, b⟩ := e
    rw [lookup_cons_ite, List.filter_cons]
    by_cases hak : a = k
    · rw [if_neg (by simp [hak]), ih, hak]
      split <;> rfl
    · rw [if_pos (by simpa using hak), lookup_cons_ite, ih]
      by_cases hk : k' = a
      · rw [if_pos hk, if_pos hk, if_neg (fun h => hak (hk.symm.trans h))]
      · rw [if_neg hk, if_neg hk]

/-- **A field that is erased** is gone, and no other one is. -/
theorem get?_erase (m : FieldMap) (k k' : String) :
    (m.erase k).get? k' = if k' = k then none else m.get? k' := lookup_filter_ne k k' m.entries

def keys (m : FieldMap) : List String := m.entries.map Prod.fst

theorem pairwise_mapValues {f : String → String} {l : List (String × String)}
    (h : l.Pairwise (fun a b => a.1 < b.1)) :
    (l.map fun e => (e.1, f e.2)).Pairwise (fun a b => a.1 < b.1) :=
  List.pairwise_map.mpr h

def mapValues (f : String → String) (m : FieldMap) : FieldMap :=
  ⟨m.entries.map fun e => (e.1, f e.2), pairwise_mapValues m.sorted⟩

theorem get?_mapValues (f : String → String) (m : FieldMap) (k : String) :
    (m.mapValues f).get? k = (m.get? k).map f := by
  obtain ⟨l, hl⟩ := m
  show (l.map fun e => (e.1, f e.2)).lookup k = (l.lookup k).map f
  clear hl
  induction l with
  | nil => rfl
  | cons e rest ih =>
    rw [List.map_cons, List.lookup_cons, List.lookup_cons]
    cases k == e.1 with
    | true => rfl
    | false => exact ih

theorem lookup_eq_some_of_mem {k v : String} {l : List (String × String)}
    (h : l.Pairwise (fun a b => a.1 < b.1)) (hm : (k, v) ∈ l) : l.lookup k = some v := by
  induction l with
  | nil => cases hm
  | cons e rest ih =>
    obtain ⟨a, b⟩ := e
    have hrest := List.pairwise_cons.mp h
    rw [lookup_cons_ite]
    rcases List.mem_cons.mp hm with heq | hm
    · cases heq
      rw [if_pos rfl]
    · have hlt : a < k := hrest.1 _ hm
      rw [if_neg (fun heq : k = a => String.lt_irrefl k (by rwa [← heq] at hlt)), ih hrest.2 hm]

theorem mem_entries_iff {m : FieldMap} {k v : String} : (k, v) ∈ m.entries ↔ m.get? k = some v := by
  refine ⟨lookup_eq_some_of_mem m.sorted, fun h => ?_⟩
  obtain ⟨before, after, hl, -⟩ := List.lookup_eq_some_iff.mp h
  rw [hl]
  exact List.mem_append_right _ List.mem_cons_self

theorem nodup_entries (m : FieldMap) : m.entries.Nodup :=
  List.Pairwise.imp (fun {a b} (hlt : a.1 < b.1) (heq : a = b) => String.lt_irrefl b.1 (heq ▸ hlt))
    m.sorted

/-- **Maps with the same fields** are the same map. -/
theorem ext_get? {m n : FieldMap} (h : ∀ k, m.get? k = n.get? k) : m = n := by
  have hmem : ∀ e, e ∈ m.entries ↔ e ∈ n.entries := fun ⟨k, v⟩ => by
    rw [mem_entries_iff, mem_entries_iff, h k]
  have hperm := (List.perm_ext_iff_of_nodup m.nodup_entries n.nodup_entries).mpr hmem
  exact ext_entries (hperm.eq_of_pairwise (fun _ _ _ _ hlt hgt => absurd hgt (String.lt_asymm hlt))
    m.sorted n.sorted)

/-- Later entries of the list replace earlier ones of the same name. -/
def ofList (l : List (String × String)) : FieldMap :=
  l.foldl (fun m e => m.insert e.1 e.2) empty

end FieldMap

end LogTriage
