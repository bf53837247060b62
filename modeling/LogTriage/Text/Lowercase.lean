import LogTriage.Text.CaseTable

/-!
# Lower-casing

Lower case is taken of a whole text, not of its characters one by one: a capital sigma that ends
a word becomes a final sigma, and the capital I with a dot becomes two characters.  Every other
character has a lower-case character of its own, or stays.
-/

namespace LogTriage.Text

/-- The lower-case letter of an ASCII capital. -/
def asciiLower (c : Char) : Char :=
  if 'A' ≤ c ∧ c ≤ 'Z' then Char.ofNat (c.toNat + 32) else c

def asciiUpper (c : Char) : Char :=
  if 'a' ≤ c ∧ c ≤ 'z' then Char.ofNat (c.toNat - 32) else c

def asciiUppered (s : String) : String := String.ofList (s.toList.map asciiUpper)

/-- The character that `c` becomes wherever it stands. -/
def lowerChar (c : Char) : Char :=
  if c.toNat < 0x80 then asciiLower c
  else
    match findRow caseRows (fun row => (row.1, row.2.1)) c.toNat with
    | none => c
    | some (first, _, step, shift) =>
      if (c.toNat - first) % step = 0 then Char.ofNat (Int.toNat (c.toNat + shift)) else c

/-- The first character that is not case-ignorable is a cased one. -/
def meetsCased (cs : List Char) : Bool :=
  match cs.dropWhile (fun c => ignorableRuns.holds c.toNat) with
  | [] => false
  | c :: _ => casedRuns.holds c.toNat

/-- A sigma ends a word when a cased letter comes before it and none after it. -/
def endsWord (before after : List Char) : Bool := meetsCased before && !meetsCased after

/-- Lower case of the text that follows `before`, which is held reversed, as is the result. -/
def lowerGo (before done : List Char) : List Char → List Char
  | [] => done.reverse
  | c :: cs =>
    let small :=
      if c = 'Σ' then [if endsWord before cs then 'ς' else 'σ']
      else if c = 'İ' then ['\u0307', 'i']
      else [lowerChar c]
    lowerGo (c :: before) (small ++ done) cs

def lower (cs : List Char) : List Char := lowerGo [] [] cs

def lowered (s : String) : String := String.ofList (lower s.toList)

end LogTriage.Text
