import LogTriage.Text.Numeral

/-!
# Writing JSON

Documents are written with each element and each member on a line of its own, indented by two
spaces for each level; an empty array or object is closed at once.  Quotes, backslashes and
control characters are escaped, all else is written as it is.
-/

namespace LogTriage.Json

/-- What is written. -/
inductive Document where
  | null
  | integer (n : Int)
  | boolean (b : Bool)
  | string (s : String)
  | array (items : List Document)
  | object (members : List (String × Document))
deriving Inhabited

namespace Document

def escapeChar (c : Char) : String :=
  match c with
  | '"' => "\\\""
  | '\\' => "\\\\"
  | '\x08' => "\\b"
  | '\x0C' => "\\f"
  | '\n' => "\\n"
  | '\r' => "\\r"
  | '\t' => "\\t"
  | c =>
    if c.toNat < 0x20 then "\\u00" ++ Text.hexByte (UInt8.ofNat c.toNat) else String.ofList [c]

def quote (s : String) : String := "\"" ++ String.join (s.toList.map escapeChar) ++ "\""

def indent (level : Nat) : String := String.ofList (List.replicate (2 * level) ' ')

/-- Lines between two brackets, the brackets at `level` and the lines one level deeper. -/
def block (opening closing : String) (level : Nat) (lines : List String) : String :=
  if lines.isEmpty then opening ++ closing
  else
    opening ++ "\n" ++ String.intercalate ",\n" (lines.map (indent (level + 1) ++ ·))
      ++ "\n" ++ indent level ++ closing

mutual

/-- The text of a document that begins at `level`. -/
def render (level : Nat) : Document → String
  | null => "null"
  | integer n => toString n
  | boolean b => if b then "true" else "false"
  | string s => quote s
  | array items => block "[" "]" level (renderItems (level + 1) items)
  | object members => block "\x7b" "\x7d" level (renderMembers (level + 1) members)

def renderItems (level : Nat) : List Document → List String
  | [] => []
  | item :: items => item.render level :: renderItems level items

def renderMembers (level : Nat) : List (String × Document) → List String
  | [] => []
  | (name, v) :: members =>
    (quote name ++ ": " ++ v.render level) :: renderMembers level members

end

end Document

end LogTriage.Json
