import IndentLint.Check.Plan
import IndentLint.Proofs.Tracking

/-! What comes of a check: a report, or one of two reasons why there is none. A tab is expanded that has more
columns than a text can hold, or a number has more digits than can be shown. -/
namespace IndentLint
open Number (Quantity)

namespace Report

variable {α β : Type} (f : α → β) (r : Report α)

theorem problemsMap : (r.map f).problems = r.problems.map (Problem.map f) := by
  rw [problems, map, List.filterMap_map, problems, List.map_filterMap]
  refine List.filterMap_congr fun a _ => ?_
  rw [Function.comp, Assessment.problem?, Assessment.problem?]
  cases starts : a.startsRun <;> simp [Assessment.map, starts, Problem.map]

theorem widthsMap : (r.map f).assessments.map (fun a => (a.index, a.expected)) =
    r.assessments.map fun a => (a.index, f a.expected) := List.map_map

theorem violationsMap : (r.map f).violations = r.violations.map (Assessment.map f) := List.filter_map

end Report

namespace Options

theorem ofFields {unit : Option Int} {tab : Int} {enabled : Bool} {o : Options}
    (taken : (of unit tab enabled).toOption = some o) :
    o.unit = unit.map Int.toNat ∧ o.tabWidth = tab.toNat ∧ o.enabled = enabled := by
  unfold of at taken
  split at taken
  · split at taken
    · cases taken
      exact ⟨rfl, rfl, rfl⟩
    · contradiction
  · contradiction

end Options

namespace Check.Plan

structure Carries (p : Plan) (texts : List (List Char)) : Prop where
  tabs : p.enabled = true → Source.checkTabs p.tab false texts p.room = .ok ()
  widths : p.isShowable texts (p.report texts) = true

/- Why there is no report on lines. -/
inductive Withheld (p : Plan) (texts : List (List Char)) : Fault → Prop where
  | tab {fault : Source.TabFault} (enabled : p.enabled = true)
      (expanded : Source.expandsTab false texts = true)
      (found : Source.tabFault? p.tab p.room = some fault) : Withheld p texts (.tab fault)
  | number (long : p.isShowable texts (p.report texts) = false) : Withheld p texts (.unusable .tooLong)

theorem runCarried {p : Plan} {texts : List (List Char)} (carries : p.Carries texts) :
    p.run texts = .ok (p.report texts) := by
  have widths := carries.widths
  unfold run
  cases enabled : p.enabled with
  | false => simp [widths]
  | true => simp [widths, carries.tabs enabled, bind, Except.bind, Except.mapError]

theorem checkTabsEnds (p : Plan) (texts : List (List Char)) :
    Source.checkTabs p.tab false texts p.room = .ok () ∨ ∃ fault, Source.expandsTab false texts = true ∧
      Source.tabFault? p.tab p.room = some fault ∧
      Source.checkTabs p.tab false texts p.room = .error fault := by
  unfold Source.checkTabs
  cases found : Source.tabFault? p.tab p.room with
  | none => exact .inl rfl
  | some fault =>
    cases expanded : Source.expandsTab false texts with
    | false => exact .inl rfl
    | true => exact .inr ⟨fault, rfl, rfl, rfl⟩

theorem runEnds (p : Plan) (texts : List (List Char)) :
    p.Carries texts ∧ p.run texts = .ok (p.report texts) ∨
      ∃ fault, p.Withheld texts fault ∧ p.run texts = .error fault := by
  have judged (tabs : p.enabled = true → Source.checkTabs p.tab false texts p.room = .ok ()) :
      p.Carries texts ∧ p.run texts = .ok (p.report texts) ∨
        ∃ fault, p.Withheld texts fault ∧ p.run texts = .error fault := by
    cases widths : p.isShowable texts (p.report texts) with
    | true => exact .inl ⟨⟨tabs, widths⟩, runCarried ⟨tabs, widths⟩⟩
    | false =>
      refine .inr ⟨_, .number widths, ?_⟩
      unfold run
      cases enabled : p.enabled with
      | false => simp [widths]
      | true => simp [widths, tabs enabled, bind, Except.bind, Except.mapError]
  cases enabled : p.enabled with
  | false => exact judged (by simp [enabled])
  | true =>
    rcases checkTabsEnds p texts with passed | ⟨fault, expanded, found, stopped⟩
    · exact judged fun _ => passed
    · refine .inr ⟨_, .tab enabled expanded found, ?_⟩
      simp [run, enabled, stopped, bind, Except.bind, Except.mapError]

theorem tabsFewer {p : Plan} {texts others : List (List Char)}
    (passed : Source.checkTabs p.tab false texts p.room = .ok ())
    (fewer : Source.expandsTab false others = true → Source.expandsTab false texts = true) :
    Source.checkTabs p.tab false others p.room = .ok () := by
  rcases checkTabsEnds p others with same | ⟨fault, expanded, found, -⟩
  · exact same
  · rw [Source.checkTabs, found, fewer expanded] at passed
    contradiction

section
variable {p : Plan} {texts : List (List Char)} {report : Report Quantity}
  (returned : p.run texts = .ok report)
include returned

theorem runReturns : p.Carries texts := by
  rcases runEnds p texts with ⟨carries, -⟩ | ⟨fault, -, stopped⟩
  · exact carries
  · cases returned.symm.trans stopped

theorem runReport : report = p.report texts := by
  have carried := runCarried (runReturns returned)
  exact Except.ok.inj (returned.symm.trans carried)

end

/-! ### Plans with options in whole numbers -/

section
variable {p : Plan} {o : Options} (options : p.options? = some o)
include options

theorem optionsFields : o.tabWidth = Source.columns p.tab ∧ o.enabled = p.enabled := by
  unfold options? at options
  split at options
  · exact (Options.ofFields options).2
  · exact (Options.ofFields options).2
  · contradiction

theorem reportOptions (texts : List (List Char)) : p.report texts = (analyze o texts).map .whole := by
  rw [Plan.report, options]

theorem linesOptions (texts : List (List Char)) : (p.lines texts).1 = o.lines texts := by
  rw [Plan.lines, Options.lines, (optionsFields options).1]

theorem showableOptions (texts : List (List Char)) : p.isShowable texts (p.report texts) = true ↔
    (Text.Numeral.isShowable (analyze o texts).unit = true ∨ Source.hasBlock (o.lines texts) = false) ∧
      ∀ problem ∈ (analyze o texts).problems, Text.Numeral.isShowable problem.expected = true := by
  rw [isShowable, reportOptions options, Report.problemsMap, linesOptions options, Bool.and_eq_true,
    Bool.or_eq_true, Bool.not_eq_true', List.all_map, List.all_eq_true]
  simp only [Report.map, Report.Problem.map, Function.comp, Quantity.isShowable]

end

end Check.Plan
end IndentLint
