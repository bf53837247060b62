import LogTriage.Stream.Error
import LogTriage.Text.Utf8
import LogTriage.Text.Numeral

/-!
# Line errors

What ends a sequence of lines before its bytes do.
-/

namespace LogTriage

inductive LineError where
  /-- The chunks themselves ended with an error. -/
  | source (error : StreamError)
  /-- The bytes at `offset` are not the form of a character. -/
  | invalidEncoding (offset : Nat) (bytes : Bytes)
  /-- More bytes of an incomplete character than may be carried to the next chunk. -/
  | pendingOverflow (pending limit : Nat)
  /-- A line longer than a line may be. -/
  | lineTooLong (length limit : Nat)
deriving DecidableEq, Inhabited

namespace LineError

def message : LineError → String
  | source error => error.message
  | invalidEncoding offset bytes =>
    "Invalid UTF-8 at byte offset " ++ toString offset ++ ": "
      ++ String.intercalate " " (bytes.map Text.hexByte)
  | pendingOverflow pending limit =>
    toString pending ++ " undecodable bytes pending across chunks, limit is " ++ toString limit
  | lineTooLong length limit =>
    "Line exceeds " ++ toString limit ++ " bytes without a terminator ("
      ++ toString length ++ " buffered)"

/-- The messages of the errors beneath this one, outermost first. -/
def causes : LineError → List String
  | source error => error.message :: error.causes
  | _ => []

end LineError

end LogTriage
