import LogTriage.Proofs.Engine.Calls

/-!
# Requests to an engine

Everything that an engine may be asked for, in any order: the calls, a line that a line feed ended,
a look at the section at hand, and, from outside, other phrases to ban.  `served` is the engine
after some requests, `answers` are the statuses that it gave.

* `respond_call`     a request that comes to a call is answered as the call is;
* `respond_aside`    any other request changes the banned phrases at most;
* `served_keeps`     what every call keeps, requests keep;
* `setting_served`   table, limits and resolver stay;
* `results_eq`       the complete sections of a run are numbered in order.
-/

namespace LogTriage.Engine

inductive Request where
  | call (c : Call)
  /-- A line that a line feed ended. -/
  | feed (line : String)
  | partialAnalysis
  /-- From now on other phrases are banned. -/
  | ban (banned : BannedPhrases)
deriving DecidableEq, Inhabited

def Request.call? : Request → Option Call
  | .call c => some c
  | .feed line => some (.feed line (line.utf8ByteSize + 1))
  | .partialAnalysis => none
  | .ban _ => none

def Request.line? (r : Request) : Option String :=
  match r.call? with
  | some (.feed line _) => some line
  | _ => none

def answer? (e : Engine) : Call → Option Status
  | .feed line raw => some (e.feedCounted line raw).1
  | .finish => some e.finish.1
  | .take => none

/-- What a request answers, if it answers a status, and the engine after it. -/
def respond (e : Engine) : Request → Option Status × Engine
  | .call call => (e.answer? call, e.perform call)
  | .feed line => Prod.map some id (e.feed line)
  | .partialAnalysis => (none, e)
  | .ban banned => (none, { e with banned })

def served (e : Engine) (requests : List Request) : Engine :=
  requests.foldl (fun e r => (e.respond r).2) e

def answers (e : Engine) : List Request → List Status
  | [] => []
  | r :: requests => (e.respond r).1.toList ++ (e.respond r).2.answers requests

/-- The complete sections: what the requests took, and what is left after them. -/
def results (e : Engine) : List Request → List Analysis
  | [] => e.completed
  | r :: requests => (r.call?.map e.taken).getD [] ++ (e.respond r).2.results requests

variable {e : Engine} {r : Request} {call : Call}

theorem served_cons (e : Engine) (r : Request) (requests : List Request) :
    e.served (r :: requests) = (e.respond r).2.served requests := rfl

theorem served_append (e : Engine) (before after : List Request) :
    e.served (before ++ after) = (e.served before).served after := List.foldl_append

theorem respond_call (e : Engine) (h : r.call? = some call) :
    e.respond r = (e.answer? call, e.perform call) := by
  cases r with
  | call call' =>
    cases h
    rfl
  | feed line =>
    cases h
    rfl
  | partialAnalysis => cases h
  | ban banned => cases h

theorem respond_aside (e : Engine) (h : r.call? = none) :
    ∃ banned, e.respond r = (none, { e with banned }) := by
  cases r with
  | call call => cases h
  | feed line => cases h
  | partialAnalysis => exact ⟨e.banned, rfl⟩
  | ban banned => exact ⟨banned, rfl⟩

/-- **What every call keeps**, whatever phrases are banned, is kept by requests. -/
theorem served_keeps {P : Engine → Prop} (hcall : ∀ e call, P e → P (e.perform call))
    (hban : ∀ e banned, P e → P { e with banned }) (h : P e) (requests : List Request) :
    P (e.served requests) := by
  induction requests generalizing e with
  | nil => exact h
  | cons r requests ih =>
    apply ih
    show P (e.respond r).2
    cases hc : r.call? with
    | some call =>
      rw [respond_call e hc]
      exact hcall e call h
    | none =>
      obtain ⟨banned, hb⟩ := respond_aside e hc
      rw [hb]
      exact hban e banned h

/-! ## What stays -/

theorem setting_perform (e : Engine) (call : Call) : (e.perform call).table = e.table ∧
    (e.perform call).limits = e.limits ∧ (e.perform call).resolver = e.resolver := by
  obtain ⟨new, h⟩ := perform_adds e call
  have hl := h.ledger_eq
  exact ⟨(congrArg table hl :), (congrArg limits hl :), (congrArg resolver hl :)⟩

theorem setting_respond (e : Engine) (r : Request) : (e.respond r).2.table = e.table ∧
    (e.respond r).2.limits = e.limits ∧ (e.respond r).2.resolver = e.resolver := by
  cases hc : r.call? with
  | some call =>
    rw [respond_call e hc]
    exact setting_perform e call
  | none =>
    obtain ⟨banned, hb⟩ := respond_aside e hc
    rw [hb]
    exact ⟨rfl, rfl, rfl⟩

theorem setting_served (e : Engine) (requests : List Request) :
    (e.served requests).table = e.table ∧ (e.served requests).limits = e.limits ∧
      (e.served requests).resolver = e.resolver := by
  induction requests generalizing e with
  | nil => exact ⟨rfl, rfl, rfl⟩
  | cons r requests ih =>
    obtain ⟨ht, hl, hr⟩ := setting_respond e r
    obtain ⟨ht', hl', hr'⟩ := ih (e.respond r).2
    exact ⟨ht'.trans ht, hl'.trans hl, hr'.trans hr⟩

/-! ## Complete sections -/

/-- **The complete sections of a run** are those that were complete before, and one for each
section that has been completed since, in order. -/
theorem results_eq (e : Engine) (requests : List Request) : ∃ new : List Analysis,
    e.results requests = e.completed ++ new ∧
      (e.served requests).sections = e.sections + new.length ∧
      new.map (·.index) = List.range' e.sections new.length := by
  induction requests generalizing e with
  | nil => exact ⟨[], (List.append_nil _).symm, rfl, rfl⟩
  | cons r requests ih =>
    obtain ⟨more, hm, hn, hi⟩ := ih (e.respond r).2
    rw [results, served_cons, hm, hn]
    cases hc : r.call? with
    | none =>
      obtain ⟨banned, hb⟩ := respond_aside e hc
      rw [hb] at hi ⊢
      exact ⟨more, rfl, rfl, hi⟩
    | some call =>
      obtain ⟨new, h⟩ := perform_adds e call
      have hcomp : e.taken call ++ (e.perform call).completed = e.completed ++ new := h.completed_eq
      have hsec : (e.perform call).sections = e.sections + new.length := h.sections_eq
      rw [respond_call e hc] at hi ⊢
      dsimp only [Option.map_some, Option.getD_some] at hi ⊢
      refine ⟨new ++ more, ?_, ?_, ?_⟩
      · rw [← List.append_assoc, hcomp, List.append_assoc]
      · rw [hsec, List.length_append, Nat.add_assoc]
      · rw [List.map_append, h.index_eq, hi, hsec, List.length_append, List.range'_append_1]

theorem sections_le_served (e : Engine) (requests : List Request) :
    e.sections ≤ (e.served requests).sections := by
  obtain ⟨new, -, hn, -⟩ := results_eq e requests
  rw [hn]
  exact Nat.le_add_right _ _

theorem sections_le_respond (e : Engine) (r : Request) : e.sections ≤ (e.respond r).2.sections :=
  sections_le_served e [r]

end LogTriage.Engine
