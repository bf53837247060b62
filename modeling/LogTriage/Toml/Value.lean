/-!
# TOML values

A document is a table.  Tables remember how they came to be, since that decides what may be added
to them later: a table with a header, or one that a header merely passes through, or one made by a
dotted key, or one written inline, which is closed.  The elements of an array of tables each have
a header of their own; any other array is closed too.
-/

namespace LogTriage.Toml

inductive TableKind where
  | headed
  /-- Named on the way to another table. -/
  | implied
  | dotted
  | closed
deriving DecidableEq, Inhabited

inductive Value where
  | string (s : String)
  | integer (n : Int)
  | float (digits : String)
  | boolean (b : Bool)
  | datetime (text : String)
  | array (items : List Value)
  | tables (items : List Value)
  | table (kind : TableKind) (entries : List (String × Value))
deriving Inhabited

abbrev Entries := List (String × Value)

/-- Replaces the value under `key`, or adds it as the last one. -/
def Entries.put (key : String) (v : Value) : Entries → Entries
  | [] => [(key, v)]
  | (k, w) :: rest => if k = key then (k, v) :: rest else (k, w) :: Entries.put key v rest

/-- What a change makes of a table; nothing when the change is not allowed. -/
abbrev Change := TableKind → Entries → Option Value

/-- Changes the table that `path` leads to.  Tables that are missing on the way are made, of kind
`kind`; an array of tables is entered at its last element; a table that a dotted key enters must
have no header. -/
def within (kind : TableKind) (change : Change) : List String → Change
  | [], k, entries => change k entries
  | key :: path, k, entries =>
    let put (v : Option Value) : Option Value := v.map fun v => .table k (Entries.put key v entries)
    match entries.lookup key with
    | none => put (within kind change path kind [])
    | some (.table k' inner) =>
      if k' = .closed ∨ (kind = .dotted ∧ k' = .headed) then none
      else put (within kind change path k' inner)
    | some (.tables items) =>
      match items.getLast? with
      | some (.table k' inner) =>
        put ((within kind change path k' inner).map fun v => .tables (items.dropLast ++ [v]))
      | _ => none
    | some _ => none

/-- Adds a value under a key that may be dotted; a key is used once, and a dotted key adds to
tables made by dotted keys only. -/
def addValue (path : List String) (key : String) (v : Value) : Change :=
  within .dotted (fun k entries =>
    if (k == .dotted) == path.isEmpty then none
    else if (entries.lookup key).isSome then none
    else some (.table k (entries ++ [(key, v)]))) path

/-- Opens the table of a header; it must not have been defined before. -/
def openTable (path : List String) (key : String) : Change :=
  within .implied (fun k entries =>
    match entries.lookup key with
    | none => some (.table k (entries ++ [(key, .table .headed [])]))
    | some (.table .implied inner) =>
      some (.table k (Entries.put key (.table .headed inner) entries))
    | some _ => none) path

/-- Opens the next element of an array of tables. -/
def openElement (path : List String) (key : String) : Change :=
  within .implied (fun k entries =>
    match entries.lookup key with
    | none => some (.table k (entries ++ [(key, .tables [.table .headed []])]))
    | some (.tables items) =>
      some (.table k (Entries.put key (.tables (items ++ [.table .headed []])) entries))
    | some _ => none) path

/-- Adds a value to the table of the header `header`. -/
def addUnder (header path : List String) (key : String) (v : Value) : Change :=
  within .implied (addValue path key v) header

def Value.change (v : Value) (c : Change) : Option Value :=
  match v with
  | .table k entries => c k entries
  | _ => none

end LogTriage.Toml
