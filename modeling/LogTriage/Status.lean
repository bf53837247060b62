/-!
# Statuses

What an analysis answers to each line.  A status is *fatal* when it ends the analysis without a
result for the section at hand.
-/

namespace LogTriage

/-- A banned phrase that was found. -/
structure BannedHit where
  phaseIndex : Nat
  phaseName : String
  /-- The phrase, as listed. -/
  trigger : String
  /-- The line that holds it. -/
  context : String
deriving DecidableEq, Inhabited

inductive FailureReason where
  | patternMismatch
  | truncated
  | invalidEncoding
deriving DecidableEq, Inhabited

def FailureReason.message : FailureReason → String
  | patternMismatch => "extraction pattern did not match"
  | truncated => "log ended before the final section"
  | invalidEncoding => "log is not valid UTF-8"

def FailureReason.name : FailureReason → String
  | patternMismatch => "pattern_mismatch"
  | truncated => "truncated"
  | invalidEncoding => "invalid_encoding"

/-- Where an extraction failed; `trigger` is the trigger that ended the phase, if one did. -/
structure Failure where
  phaseIndex : Nat
  phaseName : String
  trigger : Option String
  reason : FailureReason
deriving DecidableEq, Inhabited

/-- The bound that was exceeded. -/
inductive OverflowSource where
  | logBytes
  | lineLength
  | pendingBytes
deriving DecidableEq, Inhabited

def OverflowSource.label : OverflowSource → String
  | logBytes => "LogBytes"
  | lineLength => "LineLength"
  | pendingBytes => "PendingBytes"

def OverflowSource.name : OverflowSource → String
  | logBytes => "log_bytes"
  | lineLength => "line_length"
  | pendingBytes => "pending_bytes"

inductive Status where
  | success
  | piracy (hit : BannedHit)
  | stop
  | overflow (consumed limit : Nat) (source : OverflowSource)
  | fail (failure : Failure)
  | unsupportedCodec (detail : String)
deriving DecidableEq, Inhabited

namespace Status

def name : Status → String
  | success => "SUCCESS"
  | piracy _ => "PIRACY"
  | stop => "STOP"
  | overflow .. => "OVERFLOW"
  | fail _ => "FAIL"
  | unsupportedCodec _ => "UNSUPPORTED_CODEC"

/-- The number that stands for the status in other programs. -/
def code : Status → Int
  | success => 0
  | piracy _ => 1
  | stop => 2
  | overflow .. => -1
  | fail _ => -2
  | unsupportedCodec _ => -3

def isFatal : Status → Bool
  | success | stop => false
  | _ => true

def text : Status → String
  | success => "SUCCESS"
  | stop => "STOP"
  | piracy hit =>
    "PIRACY: '" ++ hit.trigger ++ "' in phase " ++ toString hit.phaseIndex
      ++ " (" ++ hit.phaseName ++ ")"
  | overflow consumed limit source =>
    "OVERFLOW: " ++ toString consumed ++ " bytes consumed, limit " ++ toString limit
      ++ " (" ++ source.label ++ ")"
  | fail failure =>
    "FAIL: " ++ failure.reason.message ++ " in phase " ++ toString failure.phaseIndex
      ++ " (" ++ failure.phaseName ++ ")"
      ++ match failure.trigger with
        | some trigger => " at trigger '" ++ trigger ++ "'"
        | none => ""
  | unsupportedCodec detail => "UNSUPPORTED_CODEC: " ++ detail

end Status

end LogTriage
