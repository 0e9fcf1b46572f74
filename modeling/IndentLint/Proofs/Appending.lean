import IndentLint.Proofs.Check.Outcomes
import IndentLint.Proofs.Except
import IndentLint.Proofs.Source.Baseline
import IndentLint.Proofs.Source.Expanding
import IndentLint.Proofs.Source.Reading

/-! Lines added at the end. Once the unit is known and a block has been opened, what is said about the
lines before stands, whatever follows them, unless it keeps the whole report back. -/
namespace IndentLint
open Layout (Tracker Target)
open Report (Assessment Problem)
open Source (Line)

namespace Report

variable {α : Type}

theorem problemIndex {a : Assessment α} {p : Problem α} (found : a.problem? = some p) :
    p.index = a.index := by
  rw [problemEq found]

theorem problemsBefore (n : Nat) (as : List (Assessment α)) :
    (as.filterMap Assessment.problem?).filter (·.index < n) =
      (as.filter (·.index < n)).filterMap Assessment.problem? := by
  induction as with
  | nil => rfl
  | cons a rest ih =>
    cases found : a.problem? with
    | none =>
      rw [List.filterMap_cons_none found, ih, List.filter_cons]
      split
      · rw [List.filterMap_cons_none found]
      · rfl
    | some p =>
      rw [List.filterMap_cons_some found, List.filter_cons, List.filter_cons, problemIndex found, ih]
      split
      · rw [List.filterMap_cons_some found]
      · rfl

structure Continues (longer r : Report α) (count : Nat) : Prop where
  unit : longer.unit = r.unit
  assessments : r.assessments <+: longer.assessments
  problems : r.problems <+: longer.problems
  assessedBefore : longer.assessments.filter (·.index < count) = r.assessments
  problemsBefore : longer.problems.filter (·.index < count) = r.problems

theorem continuesMap {β : Type} {longer r : Report α} {count : Nat} (continues : longer.Continues r count)
    (f : α → β) : (longer.map f).Continues (r.map f) count where
  unit := congrArg f continues.unit
  assessments := continues.assessments.map _
  problems := by
    rw [problemsMap, problemsMap]
    exact continues.problems.map _
  assessedBefore := List.filter_map.trans (congrArg (List.map _) continues.assessedBefore)
  problemsBefore := by
    rw [problemsMap, problemsMap]
    exact List.filter_map.trans (congrArg (List.map _) continues.problemsBefore)

end Report

namespace Options

/- The lines show their unit for good, or it was given and there is a block to check. -/
def Settled (o : Options) (lines : List Line) : Prop :=
  o.unit ≠ none ∧ Source.hasBlock lines = true ∨ o.unit = none ∧ Source.inferUnit lines ≠ 0

theorem settledBlock {o : Options} {lines : List Line} (settled : o.Settled lines) :
    Source.hasBlock lines = true := by
  rcases settled with ⟨_, block⟩ | ⟨_, unit⟩
  · exact block
  · obtain ⟨body, found⟩ := Source.bodyOfUnit unit
    exact Source.hasBlockOfBody found

theorem settledUnit {o : Options} {lines : List Line} (settled : o.Settled lines) (more : List Line) :
    o.unitFor (lines ++ more) = o.unitFor lines := by
  rcases settled with ⟨given, _⟩ | ⟨absent, unit⟩
  · obtain ⟨u, same⟩ := Option.ne_none_iff_exists'.mp given
    simp [unitFor, same]
  · simp [unitFor, absent, Source.inferUnitAppend unit more]

theorem linesAppend (o : Options) (texts more : List (List Char)) :
    ∃ others, o.lines (texts ++ more) = o.lines texts ++ others ∧
      ∀ line ∈ others, texts.length ≤ line.index := by
  refine ⟨_, Source.readFromAppend o.tabWidth false 0 texts more, ?_⟩
  intro line mem
  have bounds := readIndexBounds mem
  rw [Nat.zero_add] at bounds
  exact bounds.1

theorem trackedAppend (o : Options) (texts more : List (List Char)) (settled : o.Settled (o.lines texts)) :
    ∃ later, o.tracked (texts ++ more) = o.tracked texts ++ later ∧
      ∀ pair ∈ later, texts.length ≤ pair.1.index := by
  obtain ⟨others, whole, behind⟩ := o.linesAppend texts more
  have unit := settledUnit settled others
  have checks : o.checks (o.lines texts ++ others) = o.checks (o.lines texts) := by
    rw [Options.checks, unit, Source.hasBlockAppend (settledBlock settled) others, Options.checks,
      settledBlock settled]
  simp only [tracked, whole, checks, unit, trackAppend]
  split
  · refine ⟨_, rfl, ?_⟩
    intro pair mem
    have line := List.mem_map_of_mem (f := Prod.fst) mem
    rw [trackedLines] at line
    exact behind _ (List.mem_filter.mp line).1
  · exact ⟨[], rfl, by simp⟩

theorem assessedBefore (o : Options) (texts : List (List Char)) :
    ∀ a ∈ (analyze o texts).assessments, a.index < texts.length := by
  intro a mem
  have index := List.mem_map_of_mem (f := (·.index)) mem
  rw [assessedIndexes] at index
  split at index
  · obtain ⟨line, kept, same⟩ := List.mem_map.mp index
    have bounds := readIndexBounds (List.mem_filter.mp kept).1
    omega
  · simp at index

theorem assessedAppend (o : Options) (texts more : List (List Char)) (settled : o.Settled (o.lines texts)) :
    ∃ later, (analyze o (texts ++ more)).assessments = (analyze o texts).assessments ++ later ∧
      ∀ a ∈ later, texts.length ≤ a.index := by
  obtain ⟨pairs, whole, behind⟩ := o.trackedAppend texts more settled
  obtain ⟨before, judged⟩ := judgeAppend .aligned (o.tracked texts) pairs
  refine ⟨judge before pairs, ?_, ?_⟩
  · rw [analyzeJudge, whole, judged, analyzeJudge]
  · intro a mem
    have index := List.mem_map_of_mem (f := (·.index)) mem
    rw [judgedIndexes] at index
    obtain ⟨pair, known, same⟩ := List.mem_map.mp index
    rw [← same]
    exact behind pair known

theorem analyzeContinues (o : Options) (texts more : List (List Char)) (settled : o.Settled (o.lines texts)) :
    (analyze o (texts ++ more)).Continues (analyze o texts) texts.length := by
  obtain ⟨others, whole, _⟩ := o.linesAppend texts more
  obtain ⟨later, assessed, behind⟩ := o.assessedAppend texts more settled
  have begins : (analyze o texts).assessments <+: (analyze o (texts ++ more)).assessments :=
    ⟨later, assessed.symm⟩
  have earlier : (analyze o (texts ++ more)).assessments.filter (·.index < texts.length) =
      (analyze o texts).assessments := by
    have kept : (analyze o texts).assessments.filter (·.index < texts.length) = (analyze o texts).assessments :=
      List.filter_eq_self.mpr fun a mem => decide_eq_true (o.assessedBefore texts a mem)
    have dropped : later.filter (·.index < texts.length) = [] :=
      List.filter_eq_nil_iff.mpr fun a mem => by simpa using behind a mem
    rw [assessed, List.filter_append, kept, dropped, List.append_nil]
  refine ⟨?_, begins, begins.filterMap _, earlier, ?_⟩
  · rw [o.analyzeReport, o.analyzeReport, whole, settledUnit settled]
  · rw [Report.problems, Report.problemsBefore, earlier, Report.problems]

end Options

structure Final (p : Check.Plan) (texts more : List (List Char)) : Prop where
  /- The report goes on, unless what was added keeps it back as a whole. -/
  later : ∀ r, p.run texts = .ok r →
    (∃ longer, p.run (texts ++ more) = .ok longer ∧ longer.Continues r texts.length) ∨
      ∃ fault, p.Withheld (texts ++ more) fault ∧ p.run (texts ++ more) = .error fault
  earlier : ∀ longer, p.run (texts ++ more) = .ok longer →
    ∃ r, p.run texts = .ok r ∧ longer.Continues r texts.length

theorem earlierVerdictsFinal {p : Check.Plan} {o : Options} (options : p.options? = some o)
    {texts : List (List Char)} (settled : o.Settled (o.lines texts)) (more : List (List Char)) :
    Final p texts more := by
  have continues : (p.report (texts ++ more)).Continues (p.report texts) texts.length := by
    rw [Check.Plan.reportOptions options, Check.Plan.reportOptions options]
    exact Report.continuesMap (o.analyzeContinues texts more settled) _
  constructor
  · intro r returned
    rw [Check.Plan.runReport returned]
    rcases p.runEnds (texts ++ more) with ⟨-, longer⟩ | withheld
    · exact .inl ⟨_, longer, continues⟩
    · exact .inr withheld
  · intro longer returned
    have carries := Check.Plan.runReturns returned
    obtain ⟨unit, problems⟩ := (Check.Plan.showableOptions options _).mp carries.widths
    have before := o.analyzeContinues texts more settled
    obtain ⟨others, whole, -⟩ := o.linesAppend texts more
    have block := Source.hasBlockAppend (Options.settledBlock settled) others
    have shown := unit.resolve_right (by simp [whole, block])
    rw [before.unit] at shown
    rw [Check.Plan.runReport returned]
    refine ⟨_, Check.Plan.runCarried ⟨fun enabled => ?_, ?_⟩, continues⟩
    · exact Check.Plan.tabsFewer (carries.tabs enabled) fun expanded => Source.expandsAppend expanded more
    · rw [Check.Plan.showableOptions options]
      exact ⟨.inl shown, fun problem member => problems problem (before.problems.subset member)⟩

def openTexts : List (List Char) := ["class A \x7b".toList, "  f();".toList, "     g();".toList]

def junkTexts : List (List Char) := ["\x7d\x7d \x7d else (".toList, "\t/* \x7b if".toList, " x \x7b".toList]

def inferring : Check.Plan := { unit := none, tab := .whole 4, enabled := true }

def fiveColumns : Check.Plan := { unit := some (.whole 5), tab := .whole 2, enabled := true }

theorem openTextsStand :
    (∃ o, inferring.options? = some o ∧ o.Settled (o.lines openTexts) ∧
      ∃ longer, inferring.run (openTexts ++ junkTexts) = .ok longer ∧ longer.unit = .whole 2 ∧
        longer.problems.filter (·.index < 3) = [⟨.over, 2, 5, .whole 2⟩]) ∧
      ∃ o, fiveColumns.options? = some o ∧ o.Settled (o.lines openTexts) ∧
        ∃ longer, fiveColumns.run (openTexts ++ junkTexts) = .ok longer ∧
          longer.problems.filter (·.index < 3) = [⟨.under, 1, 2, .whole 5⟩] := by
  have inferred : ({} : Options).Settled (({} : Options).lines openTexts) := .inr ⟨rfl, by decide⟩
  have given : Options.Settled { unit := some 5, tabWidth := 2 }
      (Options.lines { unit := some 5, tabWidth := 2 } openTexts) := .inl ⟨by decide, by decide⟩
  constructor
  · obtain ⟨r, returned, shown⟩ : ∃ r, inferring.run openTexts = .ok r ∧
        decide (r.unit = .whole 2 ∧ r.problems = [⟨.over, 2, 5, .whole 2⟩]) = true := okHolds (by decide +kernel)
    obtain ⟨unit, problems⟩ := of_decide_eq_true shown
    have final : Final inferring openTexts junkTexts := earlierVerdictsFinal rfl inferred junkTexts
    obtain ⟨longer, ran, continues⟩ := okStands (by decide +kernel) (final.later r returned)
    exact ⟨_, rfl, inferred, longer, ran, continues.unit.trans unit, continues.problemsBefore.trans problems⟩
  · obtain ⟨r, returned, shown⟩ : ∃ r, fiveColumns.run openTexts = .ok r ∧
        decide (r.problems = [⟨.under, 1, 2, .whole 5⟩]) = true := okHolds (by decide +kernel)
    have final : Final fiveColumns openTexts junkTexts := earlierVerdictsFinal rfl given junkTexts
    obtain ⟨longer, ran, continues⟩ := okStands (by decide +kernel) (final.later r returned)
    exact ⟨_, rfl, given, longer, ran, continues.problemsBefore.trans (of_decide_eq_true shown)⟩

/- What is added takes the verdict on the lines before with it. -/
theorem appendedTabStops :
    let texts := ["a \x7b".toList, "  b;".toList]
    let more := ["\tjunk".toList]
    ∃ p o, Check.Plan.of (.int 4) (.int 9223372036854775808) (.bool true) = .ok p ∧ p.options? = some o ∧
      o.Settled (o.lines texts) ∧ (∃ r, p.run texts = .ok r ∧ r.problems = [⟨.under, 1, 2, .whole 4⟩]) ∧
      p.run (texts ++ more) = .error (.tab .uncountable) := by
  intro texts more
  obtain ⟨r, returned, shown⟩ :
      ∃ r, Check.Plan.run { unit := some (.whole 4), tab := .whole 9223372036854775808, enabled := true } texts =
        .ok r ∧ decide (r.problems = [⟨.under, 1, 2, .whole 4⟩]) = true :=
    okHolds (by decide +kernel)
  exact ⟨_, { unit := some 4, tabWidth := 9223372036854775808 }, rfl, rfl, .inl ⟨by decide, by decide⟩,
    ⟨r, returned, of_decide_eq_true shown⟩, by decide +kernel⟩

end IndentLint
