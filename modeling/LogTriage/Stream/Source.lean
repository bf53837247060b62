import LogTriage.Text.Utf8

/-!
# Sources of bytes

A source gives its bytes piece by piece.  No read goes beyond a piece, nor gives more bytes than
were asked for.  A read that is interrupted is tried again; one that fails is the last one.
-/

namespace LogTriage

/-- What comes next from a source. -/
inductive SourceEvent where
  | piece (bytes : Bytes)
  | interrupted
  | failed (cause : String)
deriving DecidableEq, Inhabited

structure Source where
  events : List SourceEvent
  /-- Bytes that are read ahead; shorter reads are served from them. -/
  buffer : Nat := 0
deriving DecidableEq, Inhabited

/-- What one read gives: some bytes, or why there are none. -/
abbrev ReadResult := Except String Bytes

/-- Bytes cut into parts of `n`, the last one being what is left.  Each part takes one round. -/
def cutGo (n : Nat) : Nat → Bytes → List Bytes
  | 0, _ | _, [] => []
  | rounds + 1, bs => bs.take n :: cutGo n rounds (bs.drop n)

/-- Bytes cut into parts of `n`, the last one being what is left. -/
def cut (n : Nat) (bs : Bytes) : List Bytes := cutGo n bs.length bs

namespace Source

/-- The source that has all bytes at hand. -/
def ofBytes (bs : Bytes) : Source := { events := [.piece bs] }

/-- The parts in which a piece is read, `n` bytes at a time. -/
def readsOfPiece (buffer n : Nat) (bs : Bytes) : List Bytes :=
  if n < buffer then (cut buffer bs).flatMap (cut n) else cut n bs

/-- What reading `n` bytes at a time gives, up to the end or the first failure. -/
def readsOf (buffer n : Nat) : List SourceEvent → List ReadResult
  | [] => []
  | .piece bs :: events => (readsOfPiece buffer n bs).map .ok ++ readsOf buffer n events
  | .interrupted :: events => readsOf buffer n events
  | .failed cause :: _ => [.error cause]

def reads (s : Source) (n : Nat) : List ReadResult := readsOf s.buffer n s.events

/-- All bytes that come before the end or the first failure, and that failure. -/
def contentOf : List SourceEvent → Bytes × Option String
  | [] => ([], none)
  | .piece bs :: events =>
    let (rest, failure) := contentOf events
    (bs ++ rest, failure)
  | .interrupted :: events => contentOf events
  | .failed cause :: _ => ([], some cause)

def content (s : Source) : Bytes × Option String := contentOf s.events

end Source

end LogTriage
