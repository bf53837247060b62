import LogTriage.Proofs.Engine.Snapshots
import LogTriage.Proofs.Phase.Validation
import LogTriage.Proofs.Report.Harmless

/-!
# Reports stay within their fences

An analysis of an engine is escaped, so that the reports on it are harmless: a segment has its
fence at the two ends and nowhere else, and no text of a report mentions anyone.

* `harmless_analysis`   an analysis that an engine gives is harmless;
* `reports_enclosed`    the reports on the analyses of a run.
-/

namespace LogTriage.Engine
open Report (fenceOpen fenceClose)

variable {e : Engine} {a : Analysis}

/-- **An analysis that an engine gives is harmless.** -/
theorem harmless_analysis (e : Engine) (complete : Bool) : (e.analysis complete).Harmless where
  fields := FieldMap.harmless_escape e.progress.fields
  libraries := by
    intro library hl
    obtain ⟨name, -, rfl⟩ := List.mem_map.mp hl
    exact harmless_escape name
  product := Product.harmless_escape _

theorem enclosed_of_harmless (h : a.Harmless) (b : ReportBuilder) :
    (∀ segment ∈ b.plainText a, ∃ body, segment = fenceOpen ++ body ++ fenceClose ∧
      Harmless body ∧ ¬ ['\x60', '\x60'] <:+: body.toList ∧
      ∀ before after, segment.toList = before ++ fenceClose.toList ++ after →
        before = [] ∨ after = []) ∧
      Harmless (b.structured a).title ∧ ∀ s ∈ (b.structured a).sections, Harmless s.body := by
  refine ⟨?_, Report.harmless_title b h, Report.harmless_sections b h⟩
  intro segment hs
  obtain ⟨body, hbody, rfl⟩ := List.mem_map.mp hs
  have hharmless := Report.harmless_pack _ (Report.harmless_summaryLines h) body hbody
  refine ⟨body, rfl, hharmless, hharmless.not_double_infix, ?_⟩
  intro before after hsplit
  exact Report.fence_only_at_ends hharmless hsplit

/-- **The reports on a run stay within their fences.**  Whatever an engine was asked for, an
analysis that it then gives, of a complete section or of the section at hand, is reported in
segments whose fences stand at the two ends only.  In the bodies of segments and sections, and in
the title, a joiner follows every backtick and every at sign, or what a text ends in where it was
cut. -/
theorem reports_enclosed (table : PhaseTable) (limits : EngineLimits) (banned : BannedPhrases)
    (resolver : Resolver) (requests : List Request) {a : Analysis} :
    let e := (fresh table limits banned resolver).served requests
    a ∈ e.takeCompleted.1 ∨ a = e.partialAnalysis →
    ∀ b : ReportBuilder,
      (∀ segment ∈ b.plainText a, ∃ body, segment = fenceOpen ++ body ++ fenceClose ∧
        Harmless body ∧ ¬ ['\x60', '\x60'] <:+: body.toList ∧
        ∀ before after, segment.toList = before ++ fenceClose.toList ++ after →
          before = [] ∨ after = []) ∧
        Harmless (b.structured a).title ∧ ∀ s ∈ (b.structured a).sections, Harmless s.body := by
  intro e ha b
  have hkept : Kept e := kept_served (kept_fresh table limits banned resolver) requests
  have hharmless : a.Harmless := by
    rcases ha with ha | rfl
    · obtain ⟨x, -, -, rfl⟩ := hkept.completed a ha
      exact harmless_analysis x true
    · exact harmless_analysis e false
  exact enclosed_of_harmless hharmless b

/-- A log with a head, whose last line is its build. -/
def headedTable : TableDefinition where
  id := "headed"
  name := "Headed"
  serialPattern := some "ID (?P<id>[a-z]+)"
  titlePattern := some "NAME (?P<title>[a-z]+)"
  phases := [{ name := "head", triggers := ["end"], pattern := some "(?P<build>[!-~]+)" }]

/-- A build that would close the fence and mention everyone. -/
theorem reports_of_loud_build : ∃ table a, headedTable.validate false = .ok table ∧
    ((fresh table {} {} .unknown).served [.feed "\x60\x60\x60@everyone", .feed "end"]).completed
      = [a] ∧
    a.fields.get? "build"
      = some "\x60\u200D\x60\u200D\x60\u200D@\u200Deveryone" ∧
    ∀ s ∈ (({} : ReportBuilder).structured a).sections, Harmless s.body := by
  have hrun : ∃ table, headedTable.validate false = .ok table ∧
      (((fresh table {} {} .unknown).served
        [.feed "\x60\x60\x60@everyone", .feed "end"]).completed.map (·.fields.get? "build"))
        = [some "\x60\u200D\x60\u200D\x60\u200D@\u200Deveryone"] := by
    decide +kernel
  obtain ⟨table, htable, hbuild⟩ := hrun
  obtain ⟨a, ha, hfield⟩ := List.map_eq_singleton_iff.mp hbuild
  refine ⟨table, a, htable, ha, hfield, ?_⟩
  have htaken := List.mem_singleton_self a
  rw [← ha] at htaken
  exact (reports_enclosed table {} {} .unknown _ (.inl htaken) {}).2.2

end LogTriage.Engine
