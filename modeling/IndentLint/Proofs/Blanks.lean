import IndentLint.Proofs.Source.Baseline
import IndentLint.Proofs.Source.Reading
import IndentLint.Proofs.Tracking

/-! Lines that show nothing. The unit, the blocks and the targets come from the other lines alone, so
that a blank line or a comment put between them does no more than to count the lines behind it on. -/
namespace IndentLint
open Layout (Tracker Target Width)
open Report (Assessment Direction Problem)
open Source (Line)

namespace Source

theorem renumberedVisible (f : Nat → Nat) (lines : List Line) :
    List.Forall₂ SameVisible lines (lines.map (Line.renumber f)) := by
  induction lines with
  | nil => exact .nil
  | cons line rest ih => exact .cons rfl ih

theorem hasBlockRenumbered (f : Nat → Nat) (lines : List Line) :
    hasBlock (lines.map (Line.renumber f)) = hasBlock lines :=
  hasBlockShifted ((renumberedVisible f lines).imp fun _ _ same => shiftedSame same)

theorem inferUnitRenumbered (f : Nat → Nat) (lines : List Line) :
    inferUnit (lines.map (Line.renumber f)) = inferUnit lines := inferUnitSame (renumberedVisible f lines)

theorem inferUnitShown (lines : List Line) : inferUnit (shown lines) = inferUnit lines := by
  rw [inferUnit, firstBodyShown, inferUnit]

end Source

namespace Report

variable {α : Type}

def Assessment.renumber (f : Nat → Nat) (a : Assessment α) : Assessment α := { a with index := f a.index }

def Problem.renumber (f : Nat → Nat) (p : Problem α) : Problem α := { p with index := f p.index }

theorem problemRenumbered (f : Nat → Nat) (a : Assessment α) :
    (a.renumber f).problem? = a.problem?.map (Problem.renumber f) := by
  obtain ⟨index, status, detected, expected, start, stop, startsRun⟩ := a
  cases startsRun with
  | false => rfl
  | true => rfl

theorem problemsRenumbered (f : Nat → Nat) (as : List (Assessment α)) :
    (as.map (Assessment.renumber f)).filterMap Assessment.problem? =
      (as.filterMap Assessment.problem?).map (Problem.renumber f) := by
  rw [List.filterMap_map, List.map_filterMap]
  congr 1
  funext a
  exact problemRenumbered f a

end Report

section
variable {α : Type} [Width α]

theorem trackShown (t : Tracker α) (lines : List Line) : track t (Source.shown lines) = track t lines := by
  induction lines generalizing t with
  | nil => rfl
  | cons line rest ih =>
    cases blank : line.isBlank with
    | true =>
      have skipped : line.isCheckable = false := by simp [Line.isCheckable, blank]
      rw [Source.shownBlank blank, trackSkipped skipped, ih]
    | false =>
      rw [Source.shownVisible blank]
      cases checkable : line.isCheckable with
      | true => rw [trackCheckable checkable, trackCheckable checkable, ih]
      | false => rw [trackSkipped checkable, trackSkipped checkable, ih]

theorem trackRenumbered (f : Nat → Nat) (t : Tracker α) (lines : List Line) :
    track t (lines.map (Line.renumber f)) =
      (track t lines).map fun pair => (pair.1.renumber f, pair.2) := by
  induction lines generalizing t with
  | nil => rfl
  | cons line rest ih =>
    have same : (line.renumber f).isCheckable = line.isCheckable := rfl
    rw [List.map_cons]
    cases checkable : line.isCheckable with
    | true =>
      rw [trackCheckable (same.trans checkable), trackCheckable checkable, List.map_cons, ← ih]
      rfl
    | false => rw [trackSkipped (same.trans checkable), trackSkipped checkable, ih]

theorem judgeRenumbered (f : Nat → Nat) (last : Direction) (pairs : List (Line × Target α)) :
    judge last (pairs.map fun pair => (pair.1.renumber f, pair.2)) =
      (judge last pairs).map (Assessment.renumber f) := by
  induction pairs generalizing last with
  | nil => rfl
  | cons pair rest ih =>
    rw [List.map_cons, judge, ih]
    rfl

end

namespace Options

def behind (place index : Nat) : Nat := if place ≤ index then index + 1 else index

/- A line that shows nothing where it is put, and leaves a comment open there exactly if it was. -/
def Invisible (o : Options) (before : List (List Char)) (text : List Char) : Prop :=
  let inside := (Source.readLines o.tabWidth false before).2
  let read := Line.read o.tabWidth inside before.length text
  read.1.isBlank = true ∧ read.2 = inside

instance decidableInvisible (o : Options) (before : List (List Char)) (text : List Char) :
    Decidable (o.Invisible before text) :=
  inferInstanceAs (Decidable (_ ∧ _))

section
variable {o : Options} {before : List (List Char)} {text : List Char} (invisible : o.Invisible before text)
  (after : List (List Char))
include invisible

theorem shownInserted : Source.shown (o.lines (before ++ text :: after)) =
    Source.shown ((o.lines (before ++ after)).map (Line.renumber (behind before.length))) := by
  obtain ⟨blank, kept⟩ := invisible
  have first : ∀ line ∈ (Line.readFrom o.tabWidth false 0 before).1,
      behind before.length line.index = line.index := by
    intro line mem
    have bounds := readIndexBounds mem
    exact if_neg (by omega)
  have counts : ∀ i, behind before.length (0 + before.length + i) = 0 + before.length + 1 + i := by
    intro i
    rw [behind, if_pos (by omega)]
    omega
  rw [Source.readLines] at blank kept
  simp only [lines, Source.readLines]
  rw [Source.readFromAppend, Source.readFromAppend, List.map_append, Source.renumberedSame first,
    ← Source.readFromRenumbered _ _ counts, Source.readFromCons, Nat.zero_add, kept]
  simp only [Source.shown, List.filter_append]
  rw [← Source.shown, ← Source.shown, ← Source.shown, Source.shownBlank blank]

theorem unitForInserted :
    o.unitFor (o.lines (before ++ text :: after)) = o.unitFor (o.lines (before ++ after)) := by
  have unit := Source.inferUnitShown (o.lines (before ++ text :: after))
  rw [shownInserted invisible, Source.inferUnitShown, Source.inferUnitRenumbered] at unit
  rw [unitFor, ← unit, unitFor]

theorem checksInserted :
    o.checks (o.lines (before ++ text :: after)) = o.checks (o.lines (before ++ after)) := by
  have block := Source.hasBlockShown (o.lines (before ++ text :: after))
  rw [shownInserted invisible, Source.hasBlockShown, Source.hasBlockRenumbered] at block
  rw [checks, unitForInserted invisible, ← block, checks]

theorem trackedInserted : o.tracked (before ++ text :: after) =
    (o.tracked (before ++ after)).map fun pair => (pair.1.renumber (behind before.length), pair.2) := by
  simp only [tracked]
  rw [checksInserted invisible, unitForInserted invisible]
  split
  · rw [← trackShown, shownInserted invisible, trackShown, trackRenumbered]
  · rfl

end
end Options

theorem invisibleLinesCountOn (o : Options) (before after : List (List Char)) (text : List Char)
    (invisible : o.Invisible before text) :
    let r := analyze o (before ++ after)
    let longer := analyze o (before ++ text :: after)
    longer = { r with
      lineCount := r.lineCount + 1
      assessments := r.assessments.map (·.renumber (Options.behind before.length)) } ∧
    longer.problems = r.problems.map (·.renumber (Options.behind before.length)) := by
  intro r longer
  have assessed : judge .aligned (o.tracked (before ++ text :: after)) =
      r.assessments.map (·.renumber (Options.behind before.length)) := by
    rw [Options.trackedInserted invisible, judgeRenumbered, ← o.analyzeJudge]
  have whole : longer = { r with
      lineCount := r.lineCount + 1
      assessments := r.assessments.map (·.renumber (Options.behind before.length)) } := by
    change analyze o (before ++ text :: after) = _
    rw [o.analyzeReport (before ++ text :: after), assessed, Options.unitForInserted invisible]
    simp only [r, o.analyzeReport (before ++ after), List.length_append, List.length_cons]
    rfl
  refine ⟨whole, ?_⟩
  rw [whole, Report.problems, Report.problemsRenumbered, Report.problems]

def openingTexts : List (List Char) := ["if (a) \x7b /* a".toList, "b".toList]

def bodyTexts : List (List Char) := ["c */".toList, "   d();".toList, "  e();".toList, "\x7d".toList]

theorem commentCountsOn :
    ({} : Options).Invisible openingTexts "\t \x7d * / // \x7b".toList ∧
      (analyze {} (openingTexts ++ bodyTexts)).problems = [⟨.under, 4, 2, 3⟩] ∧
      (analyze {} (openingTexts ++ "\t \x7d * / // \x7b".toList :: bodyTexts)).problems =
        [⟨.under, 5, 2, 3⟩] := by
  have invisible : ({} : Options).Invisible openingTexts "\t \x7d * / // \x7b".toList := by decide
  have counted := invisibleLinesCountOn {} openingTexts bodyTexts _ invisible
  exact ⟨invisible, by decide, counted.2.trans (by decide)⟩

end IndentLint
