/-!
# Sorted tables of closed intervals

Properties of characters are given as tables whose rows span closed intervals of code points, in
increasing order and without overlap.  `bisect` finds the row whose span holds a number by halving
the range of candidate rows; the fuel bounds the number of halvings.
-/

namespace LogTriage.Text

section
variable {α : Type}

/-- The row of `rows` whose span holds `n`, searched between the positions `lo` and `hi`. -/
def bisect (rows : Array α) (span : α → Nat × Nat) (n : Nat) : Nat → Nat → Nat → Option α
  | 0, _, _ => none
  | fuel + 1, lo, hi =>
    if hi ≤ lo then none
    else
      match rows[(lo + hi) / 2]? with
      | none => none
      | some row =>
        if n < (span row).1 then bisect rows span n fuel lo ((lo + hi) / 2)
        else if (span row).2 < n then bisect rows span n fuel ((lo + hi) / 2 + 1) hi
        else some row

/-- Thirty-two halvings empty any range of fewer than `2 ^ 32` rows. -/
def findRow (rows : Array α) (span : α → Nat × Nat) (n : Nat) : Option α :=
  bisect rows span n 33 0 rows.size

end

/-- A set of code points, given by its maximal runs. -/
abbrev Runs := Array (Nat × Nat)

def Runs.holds (runs : Runs) (n : Nat) : Bool := (findRow runs id n).isSome

/-- A row `(first, last, step)` stands for every `step`-th code point from `first` to `last`. -/
abbrev SteppedRuns := Array (Nat × Nat × Nat)

def SteppedRuns.holds (rows : SteppedRuns) (n : Nat) : Bool :=
  (findRow rows (fun row => (row.1, row.2.1)) n).any fun row => (n - row.1) % row.2.2 = 0

/-- The runs that rows stand for. -/
def SteppedRuns.toList (rows : SteppedRuns) : List (Nat × Nat) :=
  Array.toList rows |>.flatMap fun (first, last, step) =>
    if step = 1 then [(first, last)]
    else (List.range ((last - first) / step + 1)).map fun i =>
      (first + i * step, first + i * step)

end LogTriage.Text
