import LogTriage.Line.Assembler

/-!
# Asking for items one by one

`Assembler.items` lists everything that an assembler will give out; `Assembler.next` gives it out
item by item and takes chunks only as it needs them.

* `items_pull`   taking a chunk changes no item, but for the lines that are given out;
* `next_items`   the next item is the first of all items, and the others are still to come;
* `next_asked`   the items that are asked for one by one are all items, and nothing comes after.

An assembler that has met an error takes no further chunk: `Settled` says so, and every step keeps
it.
-/

namespace LogTriage.Assembler
variable {a : Assembler}

/-- An error is only met at the end. -/
def Settled (a : Assembler) : Prop := a.failed.isSome = true → a.done = true

def emptied (a : Assembler) : Assembler := { a with ready := [] }

def asked (a : Assembler) : Nat → Assembler
  | 0 => a
  | n + 1 => (a.next.2).asked n

/-! ## What one pull does -/

theorem source_settle (a : Assembler) (held : Bytes) (fault : Option Bytes) :
    (a.settle held fault).source = a.source := by
  unfold settle
  split
  · rfl
  · rfl
  split
  · rfl
  dsimp only
  split <;> rfl

theorem source_pushChunk (a : Assembler) (chunk : Bytes) :
    (a.pushChunk chunk).source = a.source := by
  unfold pushChunk
  split
  · rfl
  · exact source_settle _ _ _

theorem settled_settle (held : Bytes) (fault : Option Bytes) (h : a.failed = none) :
    (a.settle held fault).Settled := by
  unfold settle
  split
  · exact fun _ => rfl
  · exact fun _ => rfl
  split
  · exact fun _ => rfl
  dsimp only
  split
  · exact fun _ => rfl
  · intro hf
    simp [h] at hf

theorem settled_pushChunk {chunk : Bytes} (h : a.failed = none) :
    (a.pushChunk chunk).Settled := by
  unfold pushChunk
  split
  · intro hf
    simp [h] at hf
  · dsimp only
    generalize Text.Reading.read { held := a.pending } chunk = r
    exact settled_settle (a := { a with
      pending := []
      offset := a.offset + Text.utf8Size r.chars
      splitter := a.splitter.pushText r.text }) r.held r.fault h

theorem done_finish (a : Assembler) : a.finish.done = true := by
  by_cases h : a.pending = []
  · simp [finish, handOver, h]
  · simp [finish, handOver, h]

theorem settled_pull (h : a.failed = none) : a.pull.Settled := by
  unfold pull
  split
  · exact fun _ => done_finish a
  · exact settled_pushChunk h
  · exact fun _ => rfl

theorem done_or_source_pull (a : Assembler) :
    a.pull.done = true ∨ a.pull.source.length + 1 = a.source.length := by
  unfold pull
  split
  · exact .inl (done_finish a)
  · rename_i h
    exact .inr (by rw [source_pushChunk, h, List.length_cons])
  · exact .inl rfl

/-! ## All items -/

theorem itemsWithin_of_done (h : a.done = true) (n : Nat) : a.itemsWithin n = a.settled := by
  cases n with
  | zero => rfl
  | succ n => rw [itemsWithin, if_pos (by simp [h])]

theorem itemsWithin_emptied (a : Assembler) (n : Nat) :
    a.itemsWithin n = a.ready.map .ok ++ a.emptied.itemsWithin n := by
  cases n with
  | zero => simp [itemsWithin, settled, emptied]
  | succ n =>
    by_cases h : (a.done || a.failed.isSome) = true
    · rw [itemsWithin, if_pos h, itemsWithin, if_pos (by exact h)]
      simp [settled, emptied]
    · rw [itemsWithin, if_neg h, itemsWithin, if_neg (by exact h)]
      rfl

theorem items_emptied (a : Assembler) : a.items = a.ready.map .ok ++ a.emptied.items :=
  itemsWithin_emptied a _

theorem items_of_done (h : a.done = true) : a.items = a.settled := itemsWithin_of_done h _

/-- **Taking a chunk changes no item.** -/
theorem items_pull (hr : a.ready = []) (hd : a.done = false) (hf : a.failed = none) :
    a.items = a.pull.items := by
  have he : ({ a with ready := [] } : Assembler) = a := by rw [← hr]
  rw [items, itemsWithin, if_neg (by simp [hd, hf]), he, hr, List.map_nil, List.nil_append]
  rcases done_or_source_pull a with h | h
  · rw [items_of_done h, itemsWithin_of_done h]
  · rw [items, h]

/-! ## One item after the other -/

theorem nextWithin_items {n : Nat} (hs : a.Settled) (hn : 0 < n)
    (hl : a.done = false → a.source.length + 2 ≤ n) :
    (a.nextWithin n).1 = a.items.head? ∧ (a.nextWithin n).2.items = a.items.tail ∧
      (a.nextWithin n).2.Settled := by
  induction n generalizing a with
  | zero => exact absurd hn (Nat.lt_irrefl 0)
  | succ n ih =>
    cases hr : a.ready with
    | cons line ready =>
      have hp : a.pop? = some (.ok line, { a with ready }) := by rw [pop?, hr]
      have hi : a.items = .ok line :: ({ a with ready } : Assembler).items := by
        rw [items_emptied, items_emptied ({ a with ready } : Assembler), hr]
        rfl
      rw [nextWithin, hp, hi]
      exact ⟨rfl, rfl, hs⟩
    | nil =>
      cases hf : a.failed with
      | some error =>
        have hd : a.done = true := hs (by rw [hf]; rfl)
        have hp : a.pop? = some (.error error, { a with failed := none }) := by
          rw [pop?, hr, hf]
        have hi : a.items = [.error error] := by
          rw [items_of_done hd, settled, hr, hf]
          rfl
        have hi' : ({ a with failed := none } : Assembler).items = [] := by
          rw [items_of_done (by exact hd), settled, hr]
          rfl
        rw [nextWithin, hp, hi]
        exact ⟨rfl, hi', fun _ => hd⟩
      | none =>
        have hp : a.pop? = none := by rw [pop?, hr, hf]
        cases hd : a.done with
        | true =>
          have hi : a.items = [] := by
            rw [items_of_done hd, settled, hr, hf]
            rfl
          rw [nextWithin, hp]
          simp only [hd, if_true, hi]
          exact ⟨rfl, rfl, hs⟩
        | false =>
          have hl := hl hd
          rw [nextWithin, hp, items_pull hr hd hf]
          simp only [hd, Bool.false_eq_true, if_false]
          refine ih (settled_pull hf) (by omega) fun hd' => ?_
          rcases done_or_source_pull a with h | h
          · rw [h] at hd'
            cases hd'
          · omega

/-- **The next item is the first of all items, and the others are still to come.** -/
theorem next_items (h : a.Settled) : a.next.1 = a.items.head? ∧ a.next.2.items = a.items.tail ∧
    a.next.2.Settled :=
  nextWithin_items h (Nat.zero_lt_succ _) fun _ => Nat.le_refl _

/-- **The items that are asked for one by one are all items, and then nothing.** -/
theorem next_asked (h : a.Settled) (n : Nat) : (a.asked n).next.1 = a.items[n]? := by
  induction n generalizing a with
  | zero =>
    rw [asked, (next_items h).1, List.head?_eq_getElem?]
  | succ n ih =>
    rw [asked, ih (next_items h).2.2, (next_items h).2.1, List.getElem?_tail]

end LogTriage.Assembler
