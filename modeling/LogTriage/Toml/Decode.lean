import LogTriage.Toml.Parser

/-!
# Taking values out of a document

A record may be written as a table or, by the order of its fields, as an array; fields that the
record does not have are passed over.  A date in the place of a record has none of its fields.
-/

namespace LogTriage.Toml

/-- The fields of a record, given the names of all its fields in their order. -/
def Value.fields? (names : List String) : Value → Option Entries
  | table _ entries => some entries
  | array items | tables items => some (names.zip items)
  | datetime _ => some []
  | _ => none

def Value.string? : Value → Option String
  | string s => some s
  | _ => none

def Value.nat? : Value → Option Nat
  | integer n => if 0 ≤ n then some n.toNat else none
  | _ => none

def Value.list? : Value → Option (List Value)
  | array items | tables items => some items
  | _ => none

def Value.strings? (v : Value) : Option (List String) := do (← v.list?).mapM Value.string?

def Value.isVoid : Value → Bool
  | array items | tables items => items.isEmpty
  | table _ entries => entries.isEmpty
  | _ => false

/-- The name of one of several alternatives: a string, or a table with one entry,
which is empty. -/
def Value.choice? : Value → Option String
  | string s => some s
  | table _ [(name, v)] => if v.isVoid then some name else none
  | _ => none

section
variable {α : Type}

/-- A field that may be missing; one that is there must be well-formed. -/
def Entries.optional? (fields : Entries) (read : Value → Option α) (name : String) :
    Option (Option α) :=
  match fields.lookup name with
  | none => some none
  | some v => (read v).map some

def Entries.withDefault? (fields : Entries) (read : Value → Option α) (default : α)
    (name : String) : Option α := do
  return (← fields.optional? read name).getD default

def Entries.required? (fields : Entries) (read : Value → Option α) (name : String) : Option α := do
  read (← fields.lookup name)

end

end LogTriage.Toml
