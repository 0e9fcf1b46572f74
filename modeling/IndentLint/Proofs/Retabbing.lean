import IndentLint.Proofs.Check.Outcomes
import IndentLint.Proofs.Except
import IndentLint.Proofs.Layout.Scaling
import IndentLint.Proofs.Report.Marks
import IndentLint.Proofs.Source.Tabs

/-! Files that are indented with tabs alone. With another tab width, and a unit that is found in the
file, all widths are on another scale and every verdict is the same, as long as tabs so wide can be expanded. -/
namespace IndentLint
open Layout (Tracker Target Width Rescales)
open Report (Assessment Direction Problem)
open Source (Line Retabbed SameTabs)

section
variable {tab other : Nat}

def SameTarget (tab other : Nat) (target next : Target Int) : Prop :=
  target.rescale (· * (other : Int)) = next.rescale (· * (tab : Int))

theorem sameTargetParts {target next : Target Int} (same : SameTarget tab other target next) :
    SameTabs tab other target.width next.width ∧ next.atLeast = target.atLeast := by
  obtain ⟨width, atLeast⟩ := Target.mk.inj same
  exact ⟨width, atLeast.symm⟩

structure SameTracked (tab other : Nat) (pair next : Line × Target Int) : Prop where
  visible : pair.1.isBlank = false
  line : Retabbed tab other pair.1 next.1
  target : SameTarget tab other pair.2 next.2

theorem rescalesTabs (tab : Nat) : Rescales (fun width : Int => width * tab) :=
  Layout.rescalesTimes (Int.natCast_nonneg tab)

theorem trackRetabbed {lines moved : List Line} (retabbed : List.Forall₂ (Retabbed tab other) lines moved)
    {t s : Tracker Int} (same : t.rescale (· * (other : Int)) = s.rescale (· * (tab : Int))) :
    List.Forall₂ (SameTracked tab other) (track t lines) (track s moved) := by
  induction retabbed generalizing t s with
  | nil => exact .nil
  | @cons line next rest more first _ ih =>
    have checkableNext := Source.isCheckableRetabbed first
    have entered : (t.enter line.visible).rescale (· * (other : Int)) =
        (s.enter next.visible).rescale (· * (tab : Int)) := by
      rw [Tracker.enterRespaced first.visible, Tracker.rescaleEnter (rescalesTabs other),
        Tracker.rescaleEnter (rescalesTabs tab), same]
    have fed : (t.feed line.visible).rescale (· * (other : Int)) =
        (s.feed next.visible).rescale (· * (tab : Int)) := by
      rw [Tracker.feedRespaced first.visible, Tracker.rescaleFeed (rescalesTabs other),
        Tracker.rescaleFeed (rescalesTabs tab), same]
    cases checkable : line.isCheckable with
    | true =>
      rw [trackCheckable checkable, trackCheckable (checkableNext.trans checkable)]
      have target : SameTarget tab other (t.enter line.visible).target (s.enter next.visible).target := by
        rw [SameTarget, Tracker.rescaleTarget, Tracker.rescaleTarget, entered]
      exact .cons ⟨Source.checkableVisible checkable, first, target⟩ (ih fed)
    | false =>
      rw [trackSkipped checkable, trackSkipped (checkableNext.trans checkable)]
      exact ih same

end

/- Where a line is marked does not depend on the width of a tab: the marks have tabs alone on their
left. -/
theorem highlightRetabbed {tab other : Nat} {line moved : Line} (retabbed : Retabbed tab other line moved)
    (visible : line.isBlank = false) {target next : Target Int} (same : SameTarget tab other target next)
    {direction : Direction} (deviates : Report.direction line.indent target = direction) :
    Assessment.highlight moved moved.indent direction next.width =
      Assessment.highlight line line.indent direction target.width := by
  have stop := retabbed.offset visible _ _ (retabbed.indent visible) (Int.le_refl _)
  unfold Assessment.highlight
  cases direction with
  | aligned => simp only [stop]
  | «over» =>
    have start := retabbed.offset visible _ _ (sameTargetParts same).1 (overReaches columnsReach deviates)
    simp only [Width.column, start, stop]
  | under =>
    have margin := retabbed.offset visible 0 0 (Source.sameTabsZero tab other) (Int.natCast_nonneg _)
    simp only [margin, stop]

structure SameVerdict (tab other : Nat) (a b : Assessment Int) : Prop where
  index : b.index = a.index
  status : b.status = a.status
  start : b.start = a.start
  stop : b.stop = a.stop
  startsRun : b.startsRun = a.startsRun
  detected : SameTabs tab other a.detected b.detected
  expected : SameTabs tab other a.expected b.expected

structure SameProblem (tab other : Nat) (p q : Problem Int) : Prop where
  direction : q.direction = p.direction
  index : q.index = p.index
  detected : SameTabs tab other p.detected q.detected
  expected : SameTabs tab other p.expected q.expected

theorem problemsRetabbed {tab other : Nat} {as bs : List (Assessment Int)}
    (same : List.Forall₂ (SameVerdict tab other) as bs) :
    List.Forall₂ (SameProblem tab other) (as.filterMap Assessment.problem?)
      (bs.filterMap Assessment.problem?) := by
  induction same with
  | nil => exact .nil
  | @cons a b as bs first _ ih =>
    have starts := first.startsRun
    cases runs : a.startsRun with
    | false =>
      rw [runs] at starts
      rw [List.filterMap_cons_none (by simp [Assessment.problem?, runs]),
        List.filterMap_cons_none (by simp [Assessment.problem?, starts])]
      exact ih
    | true =>
      rw [runs] at starts
      have reported : a.problem? = some ⟨a.status, a.index, a.detected, a.expected⟩ := if_pos runs
      have reportedNext : b.problem? = some ⟨b.status, b.index, b.detected, b.expected⟩ := if_pos starts
      rw [List.filterMap_cons_some reported, List.filterMap_cons_some reportedNext]
      exact .cons ⟨first.status, first.index, first.detected, first.expected⟩ ih

section
variable {tab other : Nat} (tabPos : 0 < tab) (otherPos : 0 < other)
include tabPos otherPos

theorem compareRetabbed {columns next : Nat} {width wide : Int}
    (found : SameTabs tab other columns next) (expected : SameTabs tab other width wide) :
    Width.compare next wide = Width.compare columns width := by
  have reached := Source.sameTabsLe tabPos otherPos expected found
  have within := Source.sameTabsLe tabPos otherPos found expected
  cases deviates : Width.compare columns width with
  | lt =>
    have less : (columns : Int) < width := Int.compare_eq_lt.mp deviates
    exact Int.compare_eq_lt.mpr (by omega)
  | eq =>
    have same : (columns : Int) = width := Int.compare_eq_eq.mp deviates
    exact Int.compare_eq_eq.mpr (by omega)
  | gt =>
    have more : width < columns := Int.compare_eq_gt.mp deviates
    exact Int.compare_eq_gt.mpr (by omega)

theorem directionRetabbed {columns next : Nat} {target moved : Target Int}
    (found : SameTabs tab other columns next) (same : SameTarget tab other target moved) :
    Report.direction next moved = Report.direction columns target := by
  obtain ⟨expected, atLeast⟩ := sameTargetParts same
  rw [Report.direction, compareRetabbed tabPos otherPos found expected, atLeast, Report.direction]

theorem assessRetabbed (last : Direction) {line moved : Line} {target next : Target Int}
    (same : SameTracked tab other (line, target) (moved, next)) :
    SameVerdict tab other (Report.assess last line target) (Report.assess last moved next) := by
  have indent : SameTabs tab other line.indent moved.indent := same.line.indent same.visible
  have status := directionRetabbed tabPos otherPos indent same.target
  have marks : Assessment.highlight moved moved.indent (Report.direction moved.indent next) next.width =
      Assessment.highlight line line.indent (Report.direction line.indent target) target.width := by
    rw [status]
    exact highlightRetabbed same.line same.visible same.target rfl
  exact {
    index := same.line.index
    status := status
    start := congrArg Prod.fst marks
    stop := congrArg Prod.snd marks
    startsRun := by simp only [Report.assess, status]
    detected := indent
    expected := (sameTargetParts same.target).1 }

theorem judgeRetabbed (last : Direction) {pairs others : List (Line × Target Int)}
    (retabbed : List.Forall₂ (SameTracked tab other) pairs others) :
    List.Forall₂ (SameVerdict tab other) (judge last pairs) (judge last others) := by
  induction retabbed generalizing last with
  | nil => exact .nil
  | @cons pair next _ _ first _ ih =>
    have verdict := assessRetabbed tabPos otherPos last first
    rw [judge, judge, verdict.status]
    exact .cons verdict (ih _)

end

namespace Options

def Tabbed (o : Options) (texts : List (List Char)) : Prop :=
  ∀ line ∈ o.lines texts, line.isBlank = false → ∀ c ∈ line.lead, c = '\t'

instance decidableTabbed (o : Options) (texts : List (List Char)) : Decidable (o.Tabbed texts) :=
  inferInstanceAs (Decidable (∀ line ∈ _, _))

theorem linesRetabbed {o : Options} {texts : List (List Char)} (tabbed : o.Tabbed texts)
    (other : Options) :
    List.Forall₂ (Retabbed o.tabWidth other.tabWidth) (o.lines texts) (other.lines texts) :=
  Source.readFromRetabbed o.tabWidth_pos other.tabWidth_pos false 0 texts tabbed

section
variable {o other : Options} (inferring : o.unit = none) (otherInfers : other.unit = none)
include inferring otherInfers

theorem unitForRetabbed {lines moved : List Line}
    (retabbed : List.Forall₂ (Retabbed o.tabWidth other.tabWidth) lines moved) :
    SameTabs o.tabWidth other.tabWidth (o.unitFor lines) (other.unitFor moved) := by
  rw [unitFor, unitFor, inferring, otherInfers]
  exact Source.inferUnitRetabbed retabbed

variable (switched : other.enabled = o.enabled)
include switched

theorem checksRetabbed {lines moved : List Line}
    (retabbed : List.Forall₂ (Retabbed o.tabWidth other.tabWidth) lines moved) :
    other.checks moved = o.checks lines := by
  have unit := unitForRetabbed inferring otherInfers retabbed
  have none := Source.sameTabsLe o.tabWidth_pos other.tabWidth_pos unit
    (Source.sameTabsZero _ _)
  have units : (other.unitFor moved != 0) = (o.unitFor lines != 0) := by
    rw [Bool.eq_iff_iff, bne_iff_ne, bne_iff_ne]
    omega
  rw [checks, units, Source.hasBlockRetabbed retabbed, switched, checks]

theorem trackedRetabbed {texts : List (List Char)} (tabbed : o.Tabbed texts) :
    List.Forall₂ (SameTracked o.tabWidth other.tabWidth) (o.tracked texts) (other.tracked texts) := by
  have retabbed := linesRetabbed tabbed other
  have unit := unitForRetabbed inferring otherInfers retabbed
  simp only [tracked]
  rw [checksRetabbed inferring otherInfers switched retabbed]
  split
  · apply trackRetabbed retabbed
    rw [Tracker.rescaleStart (rescalesTabs _), Tracker.rescaleStart (rescalesTabs _), unit]
  · exact .nil

end
end Options

structure SameReport (tab other : Nat) (r s : Report Int) : Prop where
  lineCount : s.lineCount = r.lineCount
  inferred : s.inferred = r.inferred
  enabled : s.enabled = r.enabled
  unit : SameTabs tab other r.unit s.unit
  assessments : List.Forall₂ (SameVerdict tab other) r.assessments s.assessments
  problems : List.Forall₂ (SameProblem tab other) r.problems s.problems

theorem analyzeRetabbed {o other : Options} (inferring : o.unit = none) (otherInfers : other.unit = none)
    (switched : other.enabled = o.enabled) {texts : List (List Char)} (tabbed : o.Tabbed texts) :
    SameReport o.tabWidth other.tabWidth (analyze o texts) (analyze other texts) := by
  have unit := Options.unitForRetabbed inferring otherInfers (Options.linesRetabbed tabbed other)
  have assessed : List.Forall₂ (SameVerdict o.tabWidth other.tabWidth) (analyze o texts).assessments
      (analyze other texts).assessments := by
    rw [o.analyzeJudge, other.analyzeJudge]
    exact judgeRetabbed o.tabWidth_pos other.tabWidth_pos _
      (Options.trackedRetabbed inferring otherInfers switched tabbed)
  refine ⟨?_, ?_, ?_, ?_, assessed, problemsRetabbed assessed⟩
  · rw [o.analyzeReport, other.analyzeReport]
  · rw [o.analyzeReport, other.analyzeReport, switched, inferring, otherInfers]
  · rw [o.analyzeReport, other.analyzeReport]
    exact switched
  · rw [o.analyzeReport, other.analyzeReport, switched]
    cases enabled : o.enabled with
    | true => exact unit
    | false => exact Source.sameTabsZero _ _

theorem tabWidthsAgree {p q : Check.Plan} {o other : Options} (options : p.options? = some o)
    (others : q.options? = some other) (inferring : o.unit = none) (otherInfers : other.unit = none)
    (switched : other.enabled = o.enabled) {texts : List (List Char)} (tabbed : o.Tabbed texts)
    {r : Report Number.Quantity} (returned : p.run texts = .ok r) :
    (∃ a b : Report Int, r = a.map .whole ∧ q.run texts = .ok (b.map .whole) ∧
      SameReport o.tabWidth other.tabWidth a b) ∨
    ∃ fault, q.Withheld texts fault ∧ q.run texts = .error fault := by
  rcases q.runEnds texts with ⟨-, next⟩ | withheld
  · rw [Check.Plan.reportOptions others] at next
    exact .inl ⟨_, _, (Check.Plan.runReport returned).trans (Check.Plan.reportOptions options texts), next,
      analyzeRetabbed inferring otherInfers switched tabbed⟩
  · exact .inr withheld

def tabbedTexts : List (List Char) :=
  ["f() \x7b".toList, "\tif (a)\t/* b */".toList, "\tg();".toList, "  /* a comment".toList,
    "  */".toList, "\t\t\th(".toList, "\t1);".toList, "\x7d \x7d".toList, "\ti();".toList]

def tabsOfFour : Check.Plan := { unit := none, tab := .whole 4, enabled := true }

def tabsOfSeven : Check.Plan := { unit := none, tab := .whole 7, enabled := true }

theorem tabbedTextsAgree :
    ∃ r s, tabsOfFour.run tabbedTexts = .ok r ∧ tabsOfSeven.run tabbedTexts = .ok s ∧
      r.problems = [⟨.under, 2, 4, .whole 8⟩, ⟨.over, 5, 12, .whole 4⟩, ⟨.over, 8, 4, .whole 0⟩] ∧
      ∃ a b : Report Int, r = a.map .whole ∧ s = b.map .whole ∧ SameReport 4 7 a b := by
  have tabbed : ({} : Options).Tabbed tabbedTexts := by decide
  obtain ⟨r, returned, shown⟩ : ∃ r, tabsOfFour.run tabbedTexts = .ok r ∧ decide (r.problems =
      [⟨.under, 2, 4, .whole 8⟩, ⟨.over, 5, 12, .whole 4⟩, ⟨.over, 8, 4, .whole 0⟩]) = true :=
    okHolds (by decide +kernel)
  have options : tabsOfSeven.options? = some { tabWidth := 7 } := rfl
  obtain ⟨a, b, same, next, agree⟩ := okStands (by decide +kernel)
    (tabWidthsAgree (p := tabsOfFour) (o := {}) rfl options rfl rfl rfl tabbed returned)
  exact ⟨r, _, returned, next, of_decide_eq_true shown, a, b, same, rfl, agree⟩

/- The same tabs make a report with one accepted width and none with another. -/
theorem widestTabStops :
    let texts := ["a \x7b".toList, "\tb;".toList, "\x7d".toList]
    ∃ p q o other, Check.Plan.of (.scalar .null) (.int 4) (.bool true) = .ok p ∧
      Check.Plan.of (.scalar .null) (.int 9223372036854775808) (.bool true) = .ok q ∧
      p.options? = some o ∧ q.options? = some other ∧ o.Tabbed texts ∧
      (∃ r, p.run texts = .ok r ∧ r.unit = .whole 4) ∧ q.run texts = .error (.tab .uncountable) := by
  intro texts
  obtain ⟨r, returned, shown⟩ : ∃ r, tabsOfFour.run texts = .ok r ∧ decide (r.unit = .whole 4) = true :=
    okHolds (by decide +kernel)
  have tabbed : ({} : Options).Tabbed texts := by decide
  exact ⟨_, _, {}, { tabWidth := 9223372036854775808 }, rfl, rfl, rfl, rfl, tabbed,
    ⟨r, returned, of_decide_eq_true shown⟩, rfl⟩

end IndentLint
