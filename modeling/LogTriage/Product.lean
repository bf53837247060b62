import LogTriage.Date

/-!
# Products

What is known about the program that a log was written for.  A product is *known* when the
database has a compatibility status for it.
-/

namespace LogTriage

/-- Compatibility, as the database publishes it. -/
inductive Compatibility where
  | unknown
  | nothing
  | loadable
  | intro
  | ingame
  | playable
deriving DecidableEq, Inhabited

def Compatibility.label : Compatibility → String
  | unknown => "Unknown"
  | nothing => "Nothing"
  | loadable => "Loadable"
  | intro => "Intro"
  | ingame => "Ingame"
  | playable => "Playable"

/-- The published labels; any other one stands for `unknown`. -/
def Compatibility.ofLabel (label : String) : Compatibility :=
  ([nothing, loadable, intro, ingame, playable].find? (fun s => s.label == label)).getD unknown

structure Product where
  serial : Option String := none
  title : Option String := none
  status : Compatibility := .unknown
  /-- Thread of the compatibility report. -/
  thread : Option Nat := none
  pullRequest : Option Nat := none
  commit : Option String := none
  updated : Option Date := none
deriving DecidableEq, Inhabited

namespace Product

/-- No serial has been seen. -/
def unknown : Product := {}

/-- A serial has been seen of which nothing is known. -/
def unresolved (serial : String) : Product := { serial := some serial }

def isKnown (p : Product) : Bool := p.status ≠ .unknown

end Product

/-- Answers a serial with a product; it never fails. -/
abbrev Resolver := String → Product

/-- Knows no product. -/
def Resolver.unknown : Resolver := Product.unresolved

end LogTriage
