import LogTriage.Text.Blank
import LogTriage.Text.Substring

/-!
# Lists of libraries

The libraries that a log selects stand after `Load libraries:`, either in brackets on the same
line, with commas between them, or one by one on the lines that follow, each after a dash.  The
suffix `.sprx` of a name is dropped.
-/

namespace LogTriage.Libraries
open Text

def marker : List Char := "Load libraries:".toList

def suffix : List Char := ".sprx".toList

/-- Drops `p` from the start of `cs` as often as it stands there; the fuel is the length of `cs`
at least. -/
def dropRepeated (p : List Char) : Nat → List Char → List Char
  | 0, cs => cs
  | fuel + 1, cs =>
    if p.isPrefixOf cs && !p.isEmpty then dropRepeated p fuel (cs.drop p.length) else cs

/-- Gives `cs` without the suffixes at its end. -/
def dropSuffixes (cs : List Char) : List Char :=
  (dropRepeated suffix.reverse cs.length cs.reverse).reverse

/-- A name as it is listed, without white space around it and without suffixes. -/
def clean (cs : List Char) : List Char := trim (dropSuffixes (trim cs))

/-- The text between the brackets that enclose it. -/
def bracketed? (cs : List Char) : Option (List Char) :=
  match cs with
  | '[' :: rest => if rest.getLast? = some ']' then some rest.dropLast else none
  | _ => none

/-- The text after the dash of a list item. -/
def item? (line : List Char) : Option (List Char) :=
  match trimStart line with
  | '-' :: rest => some rest
  | _ => none

/-- The items up to the first line that is none. -/
def items : List (List Char) → List (List Char)
  | [] => []
  | line :: rest =>
    match item? line with
    | some item => item :: items rest
    | none => []

/-- The names that the text after the marker lists. -/
def listed (cs : List Char) : List (List Char) :=
  let lines := lines cs
  match bracketed? (trim (lines.head?.getD [])) with
  | some inner => splitAt ',' inner
  | none => items lines.tail

end Libraries

/-- The libraries that a text selects. -/
def libraries (text : String) : List String :=
  match Text.after? Libraries.marker text.toList with
  | none => []
  | some rest =>
    (((Libraries.listed rest).map Libraries.clean).filter (!·.isEmpty)).map String.ofList

end LogTriage
