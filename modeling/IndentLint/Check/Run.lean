import IndentLint.Check.Diagnostic
import IndentLint.Check.Plan
import IndentLint.Check.Sources
import IndentLint.Report.Record

/-! Checking texts, files and whole directories. A file that cannot be read is recorded beside the
results of the others and stops nothing. -/
namespace IndentLint.Check

open Document (Value Entries)
open Number (Quantity)
open Storage (Content Disk Node Path Place)

structure FileResult where
  path : Option String
  report : Report Quantity
  deriving DecidableEq, Repr

def FileResult.record (r : FileResult) : Value :=
  .record (("file_path", .ofText? r.path) :: r.report.fields)

def checkLines (s : Settings) (path : Option String) (lines : List (List Char))
    (room : Nat := Source.usualRoom) : Except Fault FileResult := do
  .ok ⟨path, ← (← Plan.ofSettings s room).run lines⟩

def checkText (s : Settings) (path : Option String) (text : List Char)
    (room : Nat := Source.usualRoom) : Except Fault FileResult :=
  checkLines s path (Text.lines text) room

structure Result where
  success : Option Bool
  files : List FileResult := []
  failures : List Diagnostic := []
  warnings : Option (List String) := some []
  metadata : Option Entries := some []

namespace Result

def withProblems (r : Result) : List FileResult := r.files.filter (·.report.hasProblems)

def problemCount (r : Result) : Nat := (r.files.flatMap (·.report.problems)).length

def record (r : Result) : Value :=
  .record
    [("success", r.success.elim .null .bool),
      ("summary", .record
        [("files_checked", .nat r.files.length), ("files_with_problems", .nat r.withProblems.length),
          ("total_problems", .nat r.problemCount), ("errors", .nat r.failures.length)]),
      ("files", .list (r.files.map FileResult.record)),
      ("errors", .list (r.failures.map Diagnostic.record)),
      ("warnings", r.warnings.elim .null .texts), ("metadata", r.metadata.elim .null .mapping)]

end Result

def isTooLarge (size : Nat) (limit : Value) : Except Fault Bool :=
  match limit.quantity? with
  | some q => .ok (q.isBelow (.whole size))
  | none => .error (.unusable .mistyped)

def codecFor (codecs : Codecs) : Value → Except Fault (Except Encoding.NameFault Codec)
  | .scalar (.text name) => .ok (codecs.findText name)
  | .scalar .null => .ok (codecs.findText "utf-8")
  | .scalar (.unpaired points) => .ok (.error (.unpaired points))
  | _ => .error (.unusable .mistyped)

def decodeFile (codec : Codec) (trace : Option String) (path : String) (content : Content) :
    Except Failure (List Char) :=
  match content.refusal with
  | some refusal => .error (.unreadable refusal path trace)
  | none => (codec.decode content.bytes).mapError (.undecodable · trace)

/-- The lines of a file, or why it cannot be read. Whether the name of a codec can be written is seen
before the file is opened, and whether there is such a codec after it. -/
def readFile (codecs : Codecs) (s : Settings) (trace : Option String) (path : String)
    (content : Content) : Except Fault (Except Failure (List (List Char))) := do
  let limit ← (s.get .maxFileSize).mapError .unusable
  if ← isTooLarge content.bytes.length limit then
    let shown ← (shown limit).mapError .unusable
    return .error (.tooLarge path s!"{content.bytes.length}" shown trace)
  match ← codecFor codecs (← (s.get .encoding).mapError .unusable),
      content.refusal.filter (!·.opens) with
  | .error .holdsZero, _ => throw (.encoding .holdsZero)
  | .error (.unpaired points), _ => return .error (.misnamed (.unpaired points) trace)
  | _, some refusal => return .error (.unreadable refusal path trace)
  | .error fault, none => return .error (.misnamed fault trace)
  | .ok codec, none =>
    return (decodeFile codec trace path content).map fun text => Text.lines (Text.unifyNewlines text)

inductive Outcome where
  | checked (result : FileResult) (notes : Log)
  | failed (diagnostic : Diagnostic)

namespace Outcome

def file? : Outcome → Option FileResult
  | .checked r _ => some r
  | .failed _ => none

def failure? : Outcome → Option Diagnostic
  | .checked .. => none
  | .failed d => some d

def log : Outcome → Log
  | .checked r notes =>
    notes ++ [⟨.info, .check, s!"Checked {Document.shownText r.path}: {r.report.problems.length} problems"⟩]
  | .failed d => [d.logRecord]

end Outcome

def checkFile (host : Host) (s : Settings) (path : String) (content : Content) :
    Except Fault Outcome := do
  match ← readFile host.platform.codecs s (some host.trace) path content with
  | .error failure => do
    .ok (.failed (← diagnose host failure (some "file_read") (some path) []))
  | .ok lines => do
    let plan ← Plan.ofSettings s host.platform.room
    let report ← plan.run lines
    .ok (.checked ⟨some path, report⟩ (plan.notes lines report))

def workers (s : Settings) : Except Fault Quantity := do
  let v ← (s.get .maxWorkers).mapError .unusable
  match v.quantity? with
  | some q => .ok q
  | none => .error (.unusable .mistyped)

/-- Runs tasks side by side. Each leaves what came of it under its number when it ends, and this is
taken up in the order of the numbers, up to the first fault. -/
def sideBySide {α : Type} (schedule : Schedule) (tasks : List (Except Fault α)) :
    Except Fault (List α) :=
  let ended := (schedule.order tasks.length).filterMap fun i => tasks[i]?.map fun t => (i, t)
  ((List.range tasks.length).filterMap (List.lookup · ended)).mapM id

def checkFiles (host : Host) (s : Settings) (workers : Quantity) (files : List (String × Content)) :
    Except Fault (List Outcome) :=
  if !Quantity.isBelow (.whole 1) workers || files.length ≤ 1 then
    files.mapM fun f => checkFile host s f.1 f.2
  else sideBySide host.schedule (files.map fun f => checkFile host s f.1 f.2)

def metadata (host : Host) (s : Settings) (path : Path) : Except Fault Entries := do
  let unit ← (s.get .indentUnit).mapError .unusable
  let tab ← (s.get .tabWidth).mapError .unusable
  let enabled ← (s.get .enabled).mapError .unusable
  .ok [(.text "path", .text path.toString), (.text "timestamp", .text host.now),
    (.text "indent_unit", unit), (.text "tab_width", tab), (.text "enabled", enabled)]

def contents (d : Disk) (file : Place) : Content :=
  ((d.at? file).bind Node.content?).getD { bytes := [] }

def targets (host : Host) (s : Settings) (path : Path) (node : Node) :
    Except Fault (List (String × Content) × Log) :=
  match node.content? with
  | some content => .ok ([(path.toString, content)], [])
  | none => do
    let found ← sources s host.disk (host.disk.resolve path)
    .ok (found.map fun file => (Place.toString file, contents host.disk file),
      [⟨.info, .check, s!"Discovered {found.length} source files under {path.toString}"⟩])

def gather (metadata : Entries) (elapsed : Number.Binary64) (warnings : List String)
    (outcomes : List Outcome) : Result :=
  let failures := outcomes.filterMap Outcome.failure?
  { success := some failures.isEmpty
    files := outcomes.filterMap Outcome.file?
    failures
    warnings := some warnings
    metadata := some (metadata ++ [(.text "duration_seconds", .scalar (.real elapsed))]) }

def checkPath (host : Host) (s : Settings) (path : String) : Except Fault (Result × Log) := do
  let p := Path.ofString path
  let shown := p.toString
  match ← (host.disk.find shown).mapError .access with
  | none => do
    let d ← diagnose host (.missingPath shown) (some "check_path_validation") (some shown) []
    .ok ({ success := some false, failures := [d], metadata := some (← metadata host s p) },
      [d.logRecord])
  | some node => do
    let (files, log) ← targets host s p node
    let about ← metadata host s p
    let outcomes ← checkFiles host s (← workers s) files
    let warnings := if files.isEmpty then ["No source files found under " ++ shown] else []
    .ok (gather about host.elapsed warnings outcomes,
      log ++ outcomes.flatMap Outcome.log)

end IndentLint.Check
