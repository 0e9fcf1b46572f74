import Mathlib
import IndentLint.Proofs.Tracking

/-! Runs of lines that deviate the same way. A run begins at a violation whose neighbour before it
is absent or has another status. The neighbour is the line assessed before, so that lines which are
not checked stand in nobody's way. -/
namespace IndentLint
open Layout (Target Width)
open Report (Assessment Direction Problem)
open Source (Line)

namespace Report

variable {α : Type}

def paired (previous : Option (Assessment α)) (as : List (Assessment α)) :
    List (Option (Assessment α) × Assessment α) :=
  (previous :: as.map some).zip as

def BeginsRun (pair : Option (Assessment α) × Assessment α) : Prop :=
  pair.2.status ≠ .aligned ∧ ∀ before ∈ pair.1, before.status ≠ pair.2.status

instance (pair : Option (Assessment α) × Assessment α) : Decidable (BeginsRun pair) :=
  inferInstanceAs (Decidable (_ ∧ _))

def Assessment.summary (a : Assessment α) : Problem α := ⟨a.status, a.index, a.detected, a.expected⟩

theorem pairedCons (previous : Option (Assessment α)) (a : Assessment α) (as : List (Assessment α)) :
    paired previous (a :: as) = (previous, a) :: paired (some a) as := rfl

theorem pairedSnd (previous : Option (Assessment α)) (as : List (Assessment α)) :
    (paired previous as).map Prod.snd = as := by
  induction as generalizing previous with
  | nil => rfl
  | cons a rest ih => rw [pairedCons, List.map_cons, ih]

theorem alignedOfQuiet (previous : Option (Assessment α)) {as : List (Assessment α)}
    (before : ∀ b ∈ previous, b.status = .aligned)
    (quiet : ∀ pair ∈ paired previous as, ¬ BeginsRun pair) :
    ∀ a ∈ as, a.status = .aligned := by
  induction as generalizing previous with
  | nil => simp
  | cons first rest ih =>
    have aligned : first.status = .aligned := by
      by_contra violates
      refine quiet (previous, first) (by simp [pairedCons]) ⟨violates, ?_⟩
      intro b mem
      rw [before b mem]
      exact Ne.symm violates
    have later := ih (some first) (by simpa using aligned)
      (fun pair mem => quiet pair (by simp [pairedCons, mem]))
    intro a mem
    rcases List.mem_cons.mp mem with rfl | mem
    · exact aligned
    · exact later a mem

theorem problemOfStart {a : Assessment α} {pair : Option (Assessment α) × Assessment α}
    (second : pair.2 = a) (starts : a.startsRun = true ↔ BeginsRun pair) :
    a.problem? = if BeginsRun pair then some pair.2.summary else none := by
  subst second
  unfold Assessment.problem?
  by_cases begins : BeginsRun pair
  · rw [if_pos begins, if_pos (starts.mpr begins)]
    rfl
  · rw [if_neg begins, if_neg fun h => begins (starts.mp h)]

theorem problemsOfStarts {pairs : List (Option (Assessment α) × Assessment α)}
    (starts : ∀ pair ∈ pairs, pair.2.problem? = if BeginsRun pair then some pair.2.summary else none) :
    (pairs.map Prod.snd).filterMap Assessment.problem? =
      (pairs.filter (BeginsRun ·)).map (·.2.summary) := by
  induction pairs with
  | nil => rfl
  | cons pair rest ih =>
    have first := starts pair (by simp)
    have later := ih fun other mem => starts other (by simp [mem])
    by_cases begins : BeginsRun pair
    · rw [if_pos begins] at first
      simp [first, begins, later]
    · rw [if_neg begins] at first
      simp [first, begins, later]

end Report

open Report (paired BeginsRun pairedCons pairedSnd)

section
variable {α : Type} [Width α]

/- The direction handed from line to line is the status of the assessment before. -/
theorem judgedStarts (previous : Option (Assessment α)) (pairs : List (Line × Target α)) :
    ∀ pair ∈ paired previous (judge ((previous.map (·.status)).getD .aligned) pairs),
      pair.2.startsRun = true ↔ BeginsRun pair := by
  induction pairs generalizing previous with
  | nil => simp [judge, paired]
  | cons head rest ih =>
    obtain ⟨line, target⟩ := head
    intro pair mem
    simp only [judge, pairedCons] at mem
    rcases List.mem_cons.mp mem with rfl | mem
    · cases previous with
      | none => simp [Report.assess, BeginsRun]
      | some before =>
        have commutes : ∀ d : Direction, d ≠ before.status ↔ before.status ≠ d := fun _ => ne_comm
        simp [Report.assess, BeginsRun, ← commutes]
    · exact ih (some _) pair mem

end

namespace Options

theorem assessedStarts (o : Options) (texts : List (List Char)) :
    ∀ pair ∈ paired none (analyze o texts).assessments,
      pair.2.problem? = if BeginsRun pair then some pair.2.summary else none := by
  intro pair mem
  rw [analyzeJudge] at mem
  exact Report.problemOfStart rfl (judgedStarts none _ pair mem)

theorem problemsPaired (o : Options) (texts : List (List Char)) :
    (analyze o texts).problems =
      ((paired none (analyze o texts).assessments).filter (BeginsRun ·)).map (·.2.summary) := by
  have all := Report.problemsOfStarts (assessedStarts o texts)
  rwa [pairedSnd] at all

theorem problemsEmptyIff (o : Options) (texts : List (List Char)) :
    (analyze o texts).problems = [] ↔ (analyze o texts).violations = [] := by
  rw [problemsPaired, List.map_eq_nil_iff, List.filter_eq_nil_iff, Report.violations,
    List.filter_eq_nil_iff]
  constructor
  · intro quiet a mem
    have aligned := Report.alignedOfQuiet none (by simp)
      (fun pair mem begins => quiet pair mem (by simpa using begins)) a mem
    simp [Assessment.isViolation, aligned]
  · intro aligned pair mem begins
    have known : pair.2 ∈ (analyze o texts).assessments := by
      rw [← pairedSnd none (analyze o texts).assessments]
      exact List.mem_map.mpr ⟨pair, mem, rfl⟩
    have violates : pair.2.status ≠ .aligned := (of_decide_eq_true begins).1
    exact aligned pair.2 known (by simp [Assessment.isViolation, violates])

end Options

theorem problemsAreRunStarts (o : Options) (texts : List (List Char)) :
    let lines := o.lines texts
    let r := analyze o texts
    r.assessments.map (·.index) =
        (if o.checks lines then (lines.filter Line.isCheckable).map (·.index) else []) ∧
      (r.assessments.map (·.index)).Pairwise (· < ·) ∧
      r.problems = ((paired none r.assessments).filter (BeginsRun ·)).map (·.2.summary) ∧
      (∀ pair ∈ paired none r.assessments,
        pair.2.label? = (if BeginsRun pair then some pair.2.summary.direction.label else none) ∧
        pair.2.message? = (if BeginsRun pair then some pair.2.summary.message else none)) ∧
      (∀ before a, (some before, a) ∈ paired none r.assessments →
        (before.status = a.status → a.problem? = none) ∧
        (before.status = .aligned → a.isViolation → a.problem? = some a.summary)) ∧
      (r.problems = [] ↔ r.violations = []) := by
  intro lines r
  have starts := o.assessedStarts texts
  refine ⟨o.assessedIndexes texts, o.assessedIncreasing texts, o.problemsPaired texts, ?_, ?_,
    o.problemsEmptyIff texts⟩
  · intro pair mem
    have problem := starts pair mem
    by_cases begins : BeginsRun pair <;>
      simp [Assessment.label?, Assessment.message?, problem, begins]
  · intro before a mem
    have problem := starts (some before, a) mem
    constructor
    · intro same
      rw [problem, if_neg]
      exact fun begins => begins.2 before rfl same
    · intro aligned violates
      have other : a.status ≠ .aligned := by simpa [Assessment.isViolation] using violates
      rw [problem, if_pos]
      refine ⟨other, ?_⟩
      intro b same
      cases Option.some.inj same
      rw [aligned]
      exact Ne.symm other

/- Two lines too far in, one behind a comment and one too far out, and one too far in behind an aligned line. Braces
are written as \x7b and \x7d here. -/
def mixedRuns : List (List Char) :=
  ["a \x7b".toList, "   b;".toList, "   c;".toList, "// d".toList, "   e;".toList, " f;".toList, "g;".toList,
    "\x7d".toList, " h;".toList]

theorem mixedRunsStart :
    let r := analyze { unit := some 2 } mixedRuns
    r.assessments.map (fun a => (a.index, a.status)) = [(0, .aligned), (1, .over), (2, .over), (4, .over),
        (5, .under), (6, .under), (7, .aligned), (8, .over)] ∧
      r.problems = ((paired none r.assessments).filter (BeginsRun ·)).map (·.2.summary) ∧
      r.problems = [⟨.over, 1, 3, 2⟩, ⟨.under, 5, 1, 2⟩, ⟨.over, 8, 1, 0⟩] :=
  ⟨by decide, (problemsAreRunStarts { unit := some 2 } mixedRuns).2.2.1, by decide⟩

end IndentLint
