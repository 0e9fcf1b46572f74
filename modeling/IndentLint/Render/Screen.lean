import IndentLint.Render.Console
import IndentLint.Render.Html

/-! Results in the formats in which they are given out. -/
namespace IndentLint.Render

open Check (FileResult Result)
open Document (shownText)

namespace Screen

def title (f : FileResult) : String := shownText f.path ++ s!" (unit {f.report.unit})"

def table (f : FileResult) : Table :=
  { columns := ["Line", "Problem", "Detected", "Expected"]
    rows := f.report.problems.map fun p =>
      [s!"{p.index + 1}", p.direction.label, s!"{p.detected}", s!"{p.expected}"] }

def file (c : Console) (showLines : Bool) (f : FileResult) : Output :=
  if !isListed showLines f then []
  else
    let lines := if showLines
      then f.report.violations.flatMap fun a =>
        c.message .info (s!"line {a.index + 1}: " ++ violationNote a)
      else []
    c.table (title f) (table f) ++ lines

def write (c : Console) (r : Result) (showLines : Bool) : Output :=
  let verdict := if r.problemCount = 0 && r.failures.isEmpty
    then c.message .success "No indentation problems found" else []
  c.header "Indentation Check" s!"{r.files.length} files checked, {r.problemCount} problems"
    ++ r.files.flatMap (file c showLines)
    ++ r.failures.flatMap (fun d => c.message .error (failureNote d))
    ++ (r.warnings.getD []).flatMap (c.message .warning) ++ verdict

end Screen

def checkListing (named : Report Number.Quantity → Bool) (r : Result) (showLines : Bool) :
    Except Unusable Unit :=
  if !isShowable named r showLines then .error .tooLong
  else if r.warnings.isNone then .error .mistyped
  else .ok ()

def screen (c : Console) (r : Result) (showLines : Bool) : Except Unusable Output := do
  checkListing (·.unit.isShowable) r showLines
  .ok (Screen.write c r showLines)

def result (r : Result) (format : String) (showLines : Bool) : Except Unusable String := do
  if format = "json" then
    if r.record.isShowable then .ok (Document.Json.write .unicode .indented r.record)
    else .error .tooLong
  else if format = "html" then
    Html.check r
    .ok (Html.write r)
  else
    checkListing hasUnitNote r showLines
    .ok (Plain.write r showLines)

end IndentLint.Render
