import IndentLint.Document.Value
import IndentLint.Report.Basic

/-! Reports as documents. -/
namespace IndentLint.Report

open Document (Value)
open Number (Quantity)

def Problem.record (p : Problem Quantity) : Value :=
  .record
    [("direction", .text p.direction.name), ("line_index", .nat p.index),
      ("line_number", .nat (p.index + 1)), ("detected_width", .nat p.detected),
      ("expected_width", .ofQuantity p.expected), ("label", .text p.direction.label),
      ("message", .text p.message)]

namespace Assessment

def fields (a : Assessment Quantity) : List (String × Value) :=
  [("line_index", .nat a.index), ("status", .text a.status.name),
    ("detected_width", .nat a.detected), ("expected_width", .ofQuantity a.expected),
    ("highlight", .list [.nat a.start, .nat a.stop]),
    ("label", .ofText? a.label?),
    ("message", .ofText? a.message?)]

def record (a : Assessment Quantity) : Value := .record a.fields

end Assessment

def fields (r : Report Quantity) : List (String × Value) :=
  [("indent_unit", .ofQuantity r.unit), ("unit_inferred", .bool r.inferred), ("enabled", .bool r.enabled),
    ("line_count", .nat r.lineCount), ("problems", .list (r.problems.map Problem.record)),
    ("violating_lines", .list (r.violations.map Assessment.record))]

def record (r : Report Quantity) : Value := .record r.fields

end IndentLint.Report
