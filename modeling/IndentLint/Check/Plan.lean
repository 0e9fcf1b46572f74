import IndentLint.Check.Fault
import IndentLint.Log

/-! What is asked of a check, and carrying it out on lines. It need not have been validated: any
number that is not below or at zero can be a unit. -/
namespace IndentLint.Check

open Document (Value)
open Number (Quantity)
open Source (Line)

structure Plan where
  unit : Option Quantity
  tab : Quantity
  enabled : Bool
  /-- Most columns of a tab that can be stored where the check is carried out. -/
  room : Nat := Source.usualRoom
  deriving DecidableEq, Repr

def positive (fault : Quantity → OptionFault) (v : Value) : Except Fault Quantity :=
  match v.quantity? with
  | none => .error (.unusable .mistyped)
  | some q =>
    if !q.isNotPositive then .ok q
    else if q.isShowable then .error (.options (fault q))
    else .error (.unusable .tooLong)

namespace Plan

def of (unit tab enabled : Value) (room : Nat := Source.usualRoom) : Except Fault Plan := do
  let unit ← match unit with
    | .scalar .null => .ok none
    | v => (positive .unit v).map some
  .ok { unit, tab := ← positive .tabWidth tab, enabled := !enabled.isEmpty, room }

def ofSettings (s : Settings) (room : Nat := Source.usualRoom) : Except Fault Plan := do
  let unit ← (s.get .indentUnit).mapError .unusable
  let tab ← (s.get .tabWidth).mapError .unusable
  let enabled ← (s.get .enabled).mapError .unusable
  of unit tab enabled room

def lines (p : Plan) (texts : List (List Char)) : List Line × Bool :=
  Source.readLines (Source.columns p.tab) false texts

def options? (p : Plan) : Option Options :=
  let tab : Int := Source.columns p.tab
  match p.unit with
  | none => (Options.of none tab p.enabled).toOption
  | some (.whole n) => (Options.of (some n) tab p.enabled).toOption
  | some _ => none

def assessBy (unit : Quantity) (lines : List Line) : Report Quantity :=
  { unit, inferred := false, lineCount := lines.length, assessments := assessLines unit lines }

def report (p : Plan) (texts : List (List Char)) : Report Quantity :=
  match p.options? with
  | some o => (analyze o texts).map .whole
  | none =>
    if p.enabled then assessBy (p.unit.getD (.whole 0)) (p.lines texts).1
    else (disabledReport texts.length).map .whole

def isShowable (p : Plan) (texts : List (List Char)) (report : Report Quantity) : Bool :=
  (report.unit.isShowable || !Source.hasBlock (p.lines texts).1)
    && report.problems.all fun problem => problem.expected.isShowable

def run (p : Plan) (texts : List (List Char)) : Except Fault (Report Quantity) := do
  if p.enabled then (Source.checkTabs p.tab false texts p.room).mapError .tab
  let report := p.report texts
  if p.isShowable texts report then .ok report else .error (.unusable .tooLong)

def notes (p : Plan) (texts : List (List Char)) (report : Report Quantity) : Log :=
  if !report.enabled then []
  else
    let (lines, commentOpen) := p.lines texts
    let scanning : Log := if commentOpen
      then [⟨.debug, .scanning, "Block comment left open at end of input"⟩] else []
    let baseline : Log := if !report.inferred then []
      else match Source.firstBodyLine? lines with
        | some line =>
          [⟨.debug, .baseline, s!"Inferred indent unit {line.indent} from line {line.index + 1}"⟩]
        | none =>
          [⟨.debug, .baseline, "No indented block found, indentation checking disabled"⟩]
    let checking : Log :=
      if report.unit = .whole 0 then []
      else if !Source.hasBlock lines then
        [⟨.debug, .analysis, "No braced block found, indentation not checked"⟩]
      else
        [⟨.debug, .analysis, s!"Checked {report.assessments.length} lines with unit {report.unit}: {report.problems.length} problems"⟩]
    scanning ++ baseline ++ checking

end Plan
end IndentLint.Check
