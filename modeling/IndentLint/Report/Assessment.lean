import IndentLint.Source.Line
import IndentLint.Layout.Tracker

/-! Comparing lines with their targets. Neighbouring lines that deviate the same way form a run,
and a run is reported at its first line. -/
namespace IndentLint.Report

inductive Direction where
  | aligned
  | over
  | under
  deriving DecidableEq, Repr

namespace Direction

def all : List Direction := [.aligned, .over, .under]

def name : Direction → String
  | .aligned => "none"
  | .over => "over"
  | .under => "under"

def label : Direction → String
  | .aligned => ""
  | .over => "Over-indent"
  | .under => "Under-indent"

def ofName? (name : String) : Option Direction := all.find? (·.name = name)

end Direction

structure Problem (α : Type) where
  direction : Direction
  index : Nat
  detected : Nat
  expected : α
  deriving DecidableEq, Repr

def Problem.message {α : Type} [ToString α] (p : Problem α) : String :=
  s!"Detected indent: {p.detected}, Expected indent: {p.expected}"

def Problem.map {α β : Type} (f : α → β) (p : Problem α) : Problem β :=
  { p with expected := f p.expected }

structure Assessment (α : Type) where
  index : Nat
  status : Direction
  detected : Nat
  expected : α
  start : Nat
  stop : Nat
  startsRun : Bool
  deriving DecidableEq, Repr

namespace Assessment

variable {α : Type}

def isViolation (a : Assessment α) : Bool := a.status ≠ .aligned

def problem? (a : Assessment α) : Option (Problem α) :=
  if a.startsRun then some ⟨a.status, a.index, a.detected, a.expected⟩ else none

def label? (a : Assessment α) : Option String := a.problem?.map (·.direction.label)

def message? [ToString α] (a : Assessment α) : Option String := a.problem?.map Problem.message

def map {β : Type} (f : α → β) (a : Assessment α) : Assessment β :=
  { a with expected := f a.expected }

/-- An over-indented line is marked from its target on, an under-indented one from its start,
and an aligned one not at all. -/
def highlight [Layout.Width α] (line : Source.Line) (detected : Nat) (direction : Direction)
    (target : α) : Nat × Nat :=
  let stop := line.offset detected
  match direction with
  | .aligned => (stop, stop)
  | .over => let start := line.offset (Layout.Width.column target); (start, max start stop)
  | .under => (line.offset 0, max (line.offset 0) stop)

end Assessment

section

variable {α : Type} [Layout.Width α]

def direction (detected : Nat) (target : Layout.Target α) : Direction :=
  match Layout.Width.compare detected target.width with
  | .eq => .aligned
  | .gt => if target.atLeast then .aligned else .over
  | .lt => .under

def assess (last : Direction) (line : Source.Line) (target : Layout.Target α) : Assessment α :=
  let detected := line.indent
  let status := direction detected target
  let (start, stop) := Assessment.highlight line detected status target.width
  { index := line.index, status, detected, expected := target.width, start, stop
    startsRun := status ≠ .aligned && status ≠ last }

end

end IndentLint.Report
