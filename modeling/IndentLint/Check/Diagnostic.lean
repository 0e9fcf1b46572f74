import IndentLint.Check.Failure
import IndentLint.Check.Fault
import IndentLint.Document.Json.Writer
import IndentLint.Settings.Store

/-! Records of failures, with a category, a severity and advice. -/
namespace IndentLint.Check

open Document (Value Entries shownText)
open Storage (AccessFault Path)

inductive Category where
  | configuration
  | fileAccess
  | permission
  | encoding
  | tooLarge
  | unknown
  deriving DecidableEq, Repr

inductive Severity where
  | high
  | medium
  | low
  deriving DecidableEq, Repr

namespace Severity

def all : List Severity := [.high, .medium, .low]

def name : Severity → String
  | .high => "high"
  | .medium => "medium"
  | .low => "low"

def ofName? (name : String) : Option Severity := all.find? (·.name = name)

end Severity

namespace Category

def all : List Category := [.configuration, .fileAccess, .permission, .encoding, .tooLarge, .unknown]

def name : Category → String
  | .configuration => "CONFIGURATION"
  | .fileAccess => "FILE_ACCESS"
  | .permission => "PERMISSION_ERROR"
  | .encoding => "ENCODING_ERROR"
  | .tooLarge => "FILE_TOO_LARGE"
  | .unknown => "UNKNOWN"

def ofName? (name : String) : Option Category := all.find? (·.name = name)

def severity : Category → Severity
  | .configuration | .permission => .high
  | .tooLarge => .low
  | _ => .medium

def advice : Category → List String
  | .fileAccess =>
    ["Check that the path exists and points to a regular file",
      "Use an absolute path if the working directory is unclear"]
  | .permission => ["Check read permissions on the file and its parent directories"]
  | .encoding =>
    ["Set discovery.encoding in the configuration to the file's encoding",
      "Convert the file to UTF-8"]
  | .tooLarge =>
    ["Raise discovery.max_file_size in the configuration",
      "Exclude generated files with discovery.exclude_globs"]
  | .configuration => ["Run 'indentguard config validate <file>' to locate the invalid value"]
  | .unknown => []

def holds (word : List Char) : List Char → Bool
  | [] => word.isEmpty
  | c :: rest => word.isPrefixOf (c :: rest) || holds word rest

/-- The kind of a failure decides, and where it says nothing the context, which then has to be
there. -/
def of (kind : FailureKind) (context : Option String) : Except Unusable Category :=
  match kind, context with
  | .tooLarge, _ => .ok .tooLarge
  | .permission, _ => .ok .permission
  | .notFound, _ | .isDirectory, _ | .notDirectory, _ | .system _, _ => .ok .fileAccess
  | .encoding _, _ => .ok .encoding
  | .other _, some context =>
    .ok (if holds "config".toList context.toLower.toList then .configuration else .unknown)
  | .other _, none => .error .absent

end Category

structure Diagnostic where
  category : Category
  severity : Severity
  message : Option String
  context : Option String
  path : Option String := none
  trace : Option String := none
  advice : Option (List String) := some []
  info : Option Entries := some []
  time : Option String := none

def Diagnostic.path? (d : Diagnostic) : Option String := d.path.filter (· ≠ "")

def pathInfo (host : Host) (path : String) : Except AccessFault Entries := do
  let p := Path.ofString path
  let node ← host.disk.find p.toString
  let parent ← host.disk.find p.parent.toString
  let about := match node with
    | none => [(.text "file_exists", .bool false)]
    | some n =>
      [(.text "file_exists", .bool true), (.text "is_file", .bool n.isFile),
        (.text "file_size", .nat n.size)]
  .ok (about ++ [(.text "parent_exists", .bool parent.isSome)])

def diagnose (host : Host) (failure : Failure) (context path : Option String)
    (extra : Entries) : Except Fault Diagnostic := do
  let category ← (Category.of failure.kind context).mapError .unusable
  let about ← match path.filter (· ≠ "") with
    | some p => (pathInfo host p).mapError .access
    | none => .ok []
  let info := (.text "exception_type", Value.text failure.kind.name) :: about
  .ok
    { category, severity := category.severity, message := some failure.shown, context, path
      trace := failure.trace, advice := some category.advice
      info := some (extra.foldl (fun acc e => Entries.set acc e.1 e.2) info)
      time := some host.now }

namespace Diagnostic

def logRecord (d : Diagnostic) : LogRecord :=
  ⟨.warning, .diagnostics, "Analysis error handled: " ++ d.category.name ++ " - " ++ shownText d.message⟩

def record (d : Diagnostic) : Value :=
  .record
    [("category", .text d.category.name), ("severity", .text d.severity.name),
      ("message", .ofText? d.message), ("context", .ofText? d.context),
      ("file_path", .ofText? d.path), ("stack_trace", .ofText? d.trace),
      ("suggested_fixes", d.advice.elim .null .texts), ("diagnostic_info", d.info.elim .null .mapping),
      ("timestamp", .ofText? d.time)]

def numbered (start : Nat) : List String → List String
  | [] => []
  | s :: rest => s!"{start}. {s}" :: numbered (start + 1) rest

def text (d : Diagnostic) : String :=
  let head :=
    ["ERROR: " ++ shownText d.message, "Category: " ++ d.category.name,
      "Severity: " ++ d.severity.name.toUpper, "Context: " ++ shownText d.context]
  let place := d.path?.toList.map ("Location: " ++ ·)
  let advice := match d.advice.getD [] with
    | [] => []
    | items => "\nSuggested fixes:" :: (numbered 1 items).map ("  " ++ ·)
  "\n".intercalate (head ++ place ++ advice)

def markdown (d : Diagnostic) : String :=
  let head :=
    ["## Error: " ++ shownText d.message, "**Category:** " ++ d.category.name,
      "**Severity:** " ++ d.severity.name.toUpper, "**Context:** " ++ shownText d.context]
  let place := d.path?.toList.map fun p => "**Location:** `" ++ p ++ "`"
  let advice := match d.advice.getD [] with
    | [] => []
    | items => "\n### Suggested Fixes" :: numbered 1 items
  let info := match d.info.getD [] with
    | [] => []
    | entries => ["\n### Diagnostic Information", "```json",
      Document.Json.write .unicode .indented (.mapping entries), "```"]
  "\n".intercalate (head ++ place ++ advice ++ info)

def format (d : Diagnostic) (format : String) : String :=
  if format = "json" then Document.Json.write .unicode .indented d.record
  else if format = "markdown" then d.markdown
  else d.text

end Diagnostic

structure Summary where
  total : Nat
  byCategory : List (Category × Nat)
  bySeverity : List (Severity × Nat)
  paths : List String
  deriving DecidableEq, Repr

def countOne {α : Type} [DecidableEq α] (x : α) : List (α × Nat) → List (α × Nat)
  | [] => [(x, 1)]
  | (y, n) :: rest => if y = x then (y, n + 1) :: rest else (y, n) :: countOne x rest

def addNew {α : Type} [DecidableEq α] (xs : List α) (x : α) : List α := if x ∈ xs then xs else xs ++ [x]

namespace Summary

def add (s : Summary) (d : Diagnostic) : Summary :=
  { s with
    byCategory := countOne d.category s.byCategory
    bySeverity := countOne d.severity s.bySeverity
    paths := d.path?.elim s.paths (addNew s.paths) }

def of (ds : List Diagnostic) : Summary :=
  ds.foldl add { total := ds.length, byCategory := [], bySeverity := [], paths := [] }

def record (s : Summary) : Value :=
  let total := ("total_errors", Value.nat s.total)
  if s.total = 0 then .record [total]
  else .record
    [total, ("by_category", .record (s.byCategory.map fun c => (c.1.name, .nat c.2))),
      ("by_severity", .record (s.bySeverity.map fun c => (c.1.name, .nat c.2))),
      ("files_with_errors", .texts s.paths)]

end Summary
end IndentLint.Check
