import IndentLint.Analysis
import IndentLint.Proofs.Layout.Bounds
import IndentLint.Proofs.Layout.Tracker

/-! A check in two passes. Tracking gives every checkable line its target, and judging compares
the lines with their targets. What is judged never comes back into the tracking. -/
namespace IndentLint
open Layout (Tracker Target Width)
open Report (Assessment Direction)
open Source (Line)

section
variable {α : Type} [Width α]

def track (t : Tracker α) : List Line → List (Line × Target α)
  | [] => []
  | line :: rest =>
    if line.isCheckable then
      let t := t.enter line.visible
      (line, t.target) :: track (t.leave line.visible) rest
    else track t rest

def judge (last : Direction) : List (Line × Target α) → List (Assessment α)
  | [] => []
  | (line, target) :: rest =>
    let a := Report.assess last line target
    a :: judge a.status rest

theorem assessFromJudge (t : Tracker α) (last : Direction) (lines : List Line) :
    assessFrom t last lines = judge last (track t lines) := by
  induction lines generalizing t last with
  | nil => rfl
  | cons line rest ih =>
    unfold assessFrom track
    split
    · simp only [judge, ih]
    · exact ih t last

theorem trackedLines (t : Tracker α) (lines : List Line) :
    (track t lines).map Prod.fst = lines.filter Line.isCheckable := by
  induction lines generalizing t with
  | nil => rfl
  | cons line rest ih =>
    unfold track
    split
    · rename_i checkable
      simp [checkable, ih]
    · rename_i skipped
      simp [skipped, ih]

theorem trackCheckable {line : Line} (checkable : line.isCheckable = true) (t : Tracker α)
    (rest : List Line) :
    track t (line :: rest) =
      (line, (t.enter line.visible).target) :: track (t.feed line.visible) rest := by
  rw [track, if_pos checkable]
  rfl

theorem trackSkipped {line : Line} (skipped : line.isCheckable = false) (t : Tracker α)
    (rest : List Line) : track t (line :: rest) = track t rest := by
  rw [track, skipped]
  rfl

theorem trackAppend (t : Tracker α) (lines more : List Line) :
    track t (lines ++ more) = track t lines ++
      track (t.run ((lines.filter Line.isCheckable).map Line.visible)) more := by
  induction lines generalizing t with
  | nil => rfl
  | cons line rest ih =>
    rw [List.cons_append]
    cases checkable : line.isCheckable with
    | true =>
      rw [trackCheckable checkable, trackCheckable checkable, ih, List.filter_cons_of_pos checkable]
      rfl
    | false =>
      rw [trackSkipped checkable, trackSkipped checkable, ih, List.filter_cons_of_neg (by simp [checkable])]

theorem judgeAppend (last : Direction) (pairs more : List (Line × Target α)) :
    ∃ before, judge last (pairs ++ more) = judge last pairs ++ judge before more := by
  induction pairs generalizing last with
  | nil => exact ⟨last, rfl⟩
  | cons pair rest ih =>
    obtain ⟨line, target⟩ := pair
    obtain ⟨before, same⟩ := ih (Report.assess last line target).status
    refine ⟨before, ?_⟩
    rw [List.cons_append, judge, same]
    rfl

theorem judgedIndexes (last : Direction) (pairs : List (Line × Target α)) :
    (judge last pairs).map (·.index) = pairs.map (·.1.index) := by
  induction pairs generalizing last with
  | nil => rfl
  | cons pair rest ih => simp [judge, Report.assess, ih]

theorem judgedTargets (last : Direction) (pairs : List (Line × Target α)) :
    (judge last pairs).map (fun a => (a.index, a.expected)) =
      pairs.map fun pair => (pair.1.index, pair.2.width) := by
  induction pairs generalizing last with
  | nil => rfl
  | cons pair rest ih => simp [judge, Report.assess, ih]

theorem judgedStatuses (last : Direction) (pairs : List (Line × Target α)) :
    (judge last pairs).map (·.status) = pairs.map fun pair => Report.direction pair.1.indent pair.2 := by
  induction pairs generalizing last with
  | nil => rfl
  | cons pair rest ih => simp [judge, Report.assess, ih]

end

theorem problemEq {α : Type} {a : Assessment α} {p : Report.Problem α} (found : a.problem? = some p) :
    p = ⟨a.status, a.index, a.detected, a.expected⟩ := by
  unfold Assessment.problem? at found
  split at found
  · exact (Option.some.inj found).symm
  · contradiction

theorem alignedIff (columns : Nat) (target : Target Int) :
    Report.direction columns target = .aligned ↔
      if target.atLeast then target.width ≤ columns else target.width = columns := by
  have less : Width.compare columns target.width = .lt ↔ (columns : Int) < target.width :=
    Int.compare_eq_lt
  have more : Width.compare columns target.width = .gt ↔ target.width < columns :=
    Int.compare_eq_gt
  unfold Report.direction
  cases found : Width.compare columns target.width with
  | lt =>
    have below := less.mp found
    cases target.atLeast <;> simp <;> omega
  | eq =>
    have same : target.width = columns := by
      have notLess := mt less.mpr (by simp [found])
      have notMore := mt more.mpr (by simp [found])
      omega
    cases target.atLeast <;> simp [same]
  | gt =>
    have above := more.mp found
    cases target.atLeast <;> simp <;> omega

theorem trackedMultiples {u : Int} {t : Tracker Int} (bounded : t.Bounded u) (lines : List Line) :
    ∀ pair ∈ track t lines, Tracker.Multiple u pair.2.width := by
  induction lines generalizing t with
  | nil => simp [track]
  | cons line rest ih =>
    have entered := Tracker.boundedEnter bounded line.visible
    unfold track
    split
    · intro pair mem
      rcases List.mem_cons.mp mem with rfl | later
      · exact Tracker.boundedTarget entered
      · exact ih (Tracker.boundedLeave entered line.visible) pair later
    · exact ih bounded

theorem readIndexes (tab : Nat) (inside : Bool) (index : Nat) (texts : List (List Char)) :
    (Line.readFrom tab inside index texts).1.map (·.index) = List.range' index texts.length := by
  induction texts generalizing inside index with
  | nil => rfl
  | cons text rest ih =>
    simp only [Line.readFrom, List.map_cons, ih, List.length_cons, List.range'_succ]
    rfl

theorem readIndexBounds {tab : Nat} {inside : Bool} {index : Nat} {texts : List (List Char)} {line : Line}
    (mem : line ∈ (Line.readFrom tab inside index texts).1) :
    index ≤ line.index ∧ line.index < index + texts.length := by
  have numbered := List.mem_map_of_mem (f := (·.index)) mem
  rw [readIndexes, List.mem_range'_1] at numbered
  exact numbered

namespace Options

def checks (o : Options) (lines : List Line) : Bool :=
  o.enabled && o.unitFor lines != 0 && Source.hasBlock lines

def lines (o : Options) (texts : List (List Char)) : List Line :=
  (Source.readLines o.tabWidth false texts).1

def tracked (o : Options) (texts : List (List Char)) : List (Line × Target Int) :=
  let lines := o.lines texts
  if o.checks lines then track (.start (o.unitFor lines : Int) true) lines else []

theorem analyzeJudge (o : Options) (texts : List (List Char)) :
    (analyze o texts).assessments = judge .aligned (o.tracked texts) := by
  unfold analyze tracked checks
  cases enabled : o.enabled with
  | false => rfl
  | true =>
    simp only [if_true, Options.assess, assessLines, lines]
    by_cases zero : o.unitFor (Source.readLines o.tabWidth false texts).1 = 0
    · simp [zero, judge]
    · by_cases block : Source.hasBlock (Source.readLines o.tabWidth false texts).1
      · simp [zero, block, assessFromJudge]
      · simp [block, judge]

theorem linesLength (o : Options) (texts : List (List Char)) : (o.lines texts).length = texts.length := by
  have indexes := congrArg List.length (readIndexes o.tabWidth false 0 texts)
  rwa [List.length_map, List.length_range'] at indexes

theorem analyzeReport (o : Options) (texts : List (List Char)) :
    analyze o texts =
      { unit := if o.enabled then (o.unitFor (o.lines texts) : Int) else 0
        inferred := !o.enabled || o.unit.isNone
        enabled := o.enabled
        lineCount := texts.length
        assessments := judge .aligned (o.tracked texts) } := by
  have assessed := o.analyzeJudge texts
  have length := o.linesLength texts
  unfold analyze at assessed ⊢
  cases enabled : o.enabled with
  | false => simp [disabledReport, tracked, checks, enabled, judge]
  | true =>
    rw [enabled, if_pos rfl] at assessed
    rw [if_pos rfl, if_pos rfl, ← assessed, ← length]
    rfl

theorem assessedIndexes (o : Options) (texts : List (List Char)) :
    (analyze o texts).assessments.map (·.index) =
      if o.checks (o.lines texts) then ((o.lines texts).filter Line.isCheckable).map (·.index) else [] := by
  rw [analyzeJudge, judgedIndexes, tracked]
  split
  · rw [← trackedLines (.start (o.unitFor (o.lines texts) : Int) true), List.map_map]
    rfl
  · rfl

theorem assessedIncreasing (o : Options) (texts : List (List Char)) :
    ((analyze o texts).assessments.map (·.index)).Pairwise (· < ·) := by
  have increasing : ((o.lines texts).map (·.index)).Pairwise (· < ·) := by
    rw [lines, Source.readLines, readIndexes]
    exact List.pairwise_lt_range'
  rw [assessedIndexes]
  split
  · exact increasing.sublist (List.filter_sublist.map _)
  · exact List.Pairwise.nil

theorem violationsOfAligned (o : Options) (texts : List (List Char))
    (aligned : ∀ pair ∈ o.tracked texts, Report.direction pair.1.indent pair.2 = .aligned) :
    (analyze o texts).violations = [] := by
  rw [Report.violations, List.filter_eq_nil_iff, analyzeJudge]
  intro a mem
  have status := List.mem_map_of_mem (f := (·.status)) mem
  rw [judgedStatuses] at status
  obtain ⟨pair, tracked, same⟩ := List.mem_map.mp status
  simp [Assessment.isViolation, ← same, aligned pair tracked]

theorem trackedOf {o : Options} {texts : List (List Char)} {pair : Line × Target Int}
    (mem : pair ∈ o.tracked texts) :
    pair ∈ track (.start (o.unitFor (o.lines texts) : Int) true) (o.lines texts) := by
  simp only [tracked] at mem
  split at mem
  · exact mem
  · simp at mem

theorem trackedNonneg {o : Options} {texts : List (List Char)} {pair : Line × Target Int}
    (mem : pair ∈ o.tracked texts) : 0 ≤ pair.2.width :=
  (trackedMultiples (Tracker.boundedStart _ true) _ pair (trackedOf mem)).1

theorem trackedMember {o : Options} {texts : List (List Char)} {pair : Line × Target Int}
    (mem : pair ∈ o.tracked texts) : pair.1 ∈ (o.lines texts).filter Line.isCheckable := by
  rw [← trackedLines (.start (o.unitFor (o.lines texts) : Int) true)]
  exact List.mem_map_of_mem (trackedOf mem)

theorem trackedCheckable {o : Options} {texts : List (List Char)} {pair : Line × Target Int}
    (mem : pair ∈ o.tracked texts) : pair.1.isCheckable = true :=
  (List.mem_filter.mp (trackedMember mem)).2

end Options
end IndentLint
