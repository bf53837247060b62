import LogTriage.Text.HiddenTable

/-!
# Quoted texts

A text in quotation marks in which every character shows: quotation marks, backslashes and common
controls have an escape of two characters, other characters that do not show are given by number.
-/

namespace LogTriage.Text

def isHidden (c : Char) : Bool := hiddenRuns.holds c.toNat

/-- Writes `n` in hexadecimal, without leading zeros. -/
def hexNumber (n : Nat) : String := String.ofList (Nat.toDigits 16 n)

def quotedChar (c : Char) : String :=
  match c with
  | '\x00' => "\\0"
  | '\t' => "\\t"
  | '\n' => "\\n"
  | '\r' => "\\r"
  | '\\' => "\\\\"
  | '"' => "\\\""
  | c => if isHidden c then "\\u\x7b" ++ hexNumber c.toNat ++ "\x7d" else String.singleton c

def quoted (s : String) : String := "\"" ++ String.join (s.toList.map quotedChar) ++ "\""

end LogTriage.Text
