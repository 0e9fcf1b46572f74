import IndentLint.Check.Run

/-! Results as plain text. -/
namespace IndentLint.Render

open Check (FileResult Result Diagnostic)
open Document (shownText)
open Number (Quantity)

def unitNote (r : Report Quantity) : String :=
  if !r.enabled then "checking disabled"
  else if r.unit = .whole 0 then "no indentation unit found, not checked"
  else s!"unit {r.unit}, " ++ (if r.inferred then "inferred" else "configured")

def hasUnitNote (r : Report Quantity) : Bool := !r.enabled || r.unit.isShowable

def inFive (n : Nat) : String :=
  let ds := Text.Numeral.digits n
  String.ofList (List.replicate (5 - ds.length) ' ' ++ ds)

def violationNote (a : Report.Assessment Quantity) : String :=
  a.status.name ++ s!" (detected {a.detected}, expected {a.expected})"

def isListed (showLines : Bool) (f : FileResult) : Bool := f.report.hasProblems || showLines

def isShowable (named : Report Quantity → Bool) (r : Result) (showLines : Bool) : Bool :=
  (r.files.filter (isListed showLines)).all fun f =>
    named f.report && (!showLines || f.report.violations.all fun a => a.expected.isShowable)

def failureNote (d : Diagnostic) : String := shownText d.path ++ ": " ++ shownText d.message

namespace Plain

def head (r : Result) : List String :=
  ["Indentation Check Results", String.ofList (List.replicate 50 '='),
    s!"Files checked: {r.files.length}", s!"Files with problems: {r.withProblems.length}",
    s!"Total problems: {r.problemCount}"]
    ++ (if r.failures.isEmpty then [] else [s!"Files not checked: {r.failures.length}"]) ++ [""]

def problem (p : Report.Problem Quantity) : String :=
  s!"  line {p.index + 1}: {p.direction.label} - {p.message}"

def file (showLines : Bool) (f : FileResult) : List String :=
  if !isListed showLines f then []
  else
    let violations := if showLines && !f.report.violations.isEmpty
      then "  Violating lines:"
        :: f.report.violations.map fun a => "    " ++ inFive (a.index + 1) ++ ": " ++ violationNote a
      else []
    (shownText f.path ++ " (" ++ unitNote f.report ++ ")") :: f.report.problems.map problem ++ violations ++ [""]

def failure (d : Diagnostic) : String := "Error: " ++ failureNote d

def lines (r : Result) (showLines : Bool) : List String :=
  head r ++ r.files.flatMap (file showLines) ++ r.failures.map failure
    ++ (r.warnings.getD []).map ("Warning: " ++ ·)

def write (r : Result) (showLines : Bool) : String :=
  Text.trimEndString ("\n".intercalate (lines r showLines)) ++ "\n"

end Plain
end IndentLint.Render
