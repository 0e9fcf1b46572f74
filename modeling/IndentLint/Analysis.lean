import IndentLint.Source.Baseline
import IndentLint.Report.Basic

/-! Checking the indentation of one source file, given as a sequence of lines. -/
namespace IndentLint

open Source (Line)
open Layout (Tracker)
open Report (Assessment Direction)
open Number (Quantity)

inductive OptionFault where
  | unit (value : Quantity)
  | tabWidth (value : Quantity)
  deriving DecidableEq, Repr

def OptionFault.message : OptionFault → String
  | .unit n => s!"indent_unit must be positive, got {n}"
  | .tabWidth n => s!"tab_width must be positive, got {n}"

structure Options where
  unit : Option Nat := none
  tabWidth : Nat := 4
  enabled : Bool := true
  unit_pos : ∀ u ∈ unit, 0 < u := by simp
  tabWidth_pos : 0 < tabWidth := by decide

namespace Options

/-- The unit is judged before the tab width. -/
def of (unit : Option Int) (tabWidth : Int) (enabled : Bool) : Except OptionFault Options :=
  if h : ∀ u ∈ unit, 0 < u then
    if h' : 0 < tabWidth then
      .ok
        { unit := unit.map Int.toNat
          tabWidth := tabWidth.toNat
          enabled
          unit_pos := by
            intro u hu
            obtain ⟨n, hn, rfl⟩ := Option.map_eq_some_iff.1 hu
            have := h n hn
            omega
          tabWidth_pos := by omega }
    else .error (.tabWidth (.whole tabWidth))
  else .error (.unit (.whole (unit.getD 0)))

end Options

def assessFrom {α : Type} [Layout.Width α] (t : Tracker α) (last : Direction) :
    List Line → List (Assessment α)
  | [] => []
  | line :: rest =>
    if line.isCheckable then
      let t := t.enter line.visible
      let a := Report.assess last line t.target
      a :: assessFrom (t.leave line.visible) a.status rest
    else assessFrom t last rest

def assessLines {α : Type} [Layout.Width α] (unit : α) (lines : List Line) : List (Assessment α) :=
  if Source.hasBlock lines then assessFrom (.start unit true) .aligned lines else []

def Options.unitFor (o : Options) (lines : List Line) : Nat := o.unit.getD (Source.inferUnit lines)

def Options.assess (o : Options) (lines : List Line) : Report Int :=
  let unit := o.unitFor lines
  { unit, inferred := o.unit.isNone, lineCount := lines.length
    assessments := if unit = 0 then [] else assessLines (unit : Int) lines }

def disabledReport (lineCount : Nat) : Report Int := { unit := 0, enabled := false, lineCount }

def analyze (o : Options) (texts : List (List Char)) : Report Int :=
  if o.enabled then o.assess (Source.readLines o.tabWidth false texts).1
  else disabledReport texts.length

end IndentLint
