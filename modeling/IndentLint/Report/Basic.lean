import IndentLint.Report.Assessment

/-! The result of checking one sequence of lines. -/
namespace IndentLint

structure Report (α : Type) where
  unit : α
  inferred : Bool := true
  enabled : Bool := true
  lineCount : Nat := 0
  assessments : List (Report.Assessment α) := []
  deriving DecidableEq, Repr

namespace Report

variable {α : Type}

def problems (r : Report α) : List (Problem α) := r.assessments.filterMap Assessment.problem?

def violations (r : Report α) : List (Assessment α) := r.assessments.filter Assessment.isViolation

def hasProblems (r : Report α) : Bool := !r.problems.isEmpty

def problemsOf (r : Report α) (d : Direction) : List (Problem α) := r.problems.filter (·.direction = d)

def map {β : Type} (f : α → β) (r : Report α) : Report β :=
  { r with unit := f r.unit, assessments := r.assessments.map (Assessment.map f) }

end Report
end IndentLint
