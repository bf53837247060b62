/-!
# JSON values

Objects keep their entries in the order in which they are written, repeated names included.  A
number keeps its text.  A string may name half of a surrogate pair, which is no text: such a
string has none.
-/

namespace LogTriage.Json

inductive Value where
  | null
  | boolean (b : Bool)
  | number (text : String)
  | string (text : Option String)
  | array (items : List Value)
  | object (entries : List (Option String × Value))
deriving Inhabited

namespace Value

mutual
/-- The two values are the same. -/
def same : Value → Value → Bool
  | .null, .null => true
  | .boolean a, .boolean b => a == b
  | .number a, .number b => a == b
  | .string a, .string b => a == b
  | .array as, .array bs => sameItems as bs
  | .object as, .object bs => sameEntries as bs
  | _, _ => false

def sameItems : List Value → List Value → Bool
  | [], [] => true
  | a :: as, b :: bs => same a b && sameItems as bs
  | _, _ => false

def sameEntries : List (Option String × Value) → List (Option String × Value) → Bool
  | [], [] => true
  | (k, a) :: as, (l, b) :: bs => k == l && same a b && sameEntries as bs
  | _, _ => false
end

mutual
theorem same_iff (v w : Value) : same v w = true ↔ v = w := by
  match v with
  | .null => cases w <;> simp [same]
  | .boolean a => cases w <;> simp [same]
  | .number a => cases w <;> simp [same]
  | .string a => cases w <;> simp [same]
  | .array as => cases w <;> simp [same, sameItems_iff as]
  | .object as => cases w <;> simp [same, sameEntries_iff as]

theorem sameItems_iff (as bs : List Value) : sameItems as bs = true ↔ as = bs := by
  match as with
  | [] => cases bs <;> simp [sameItems]
  | a :: as => cases bs <;> simp [sameItems, same_iff a, sameItems_iff as]

theorem sameEntries_iff (as bs : List (Option String × Value)) :
    sameEntries as bs = true ↔ as = bs := by
  match as, bs with
  | [], [] => simp [sameEntries]
  | [], _ :: _ => simp [sameEntries]
  | _ :: _, [] => simp [sameEntries]
  | (k, a) :: as, (l, b) :: bs =>
    simp [sameEntries, same_iff a, sameEntries_iff as, and_assoc]
end

instance : DecidableEq Value := fun v w => decidable_of_iff _ (same_iff v w)

end Value

end LogTriage.Json
