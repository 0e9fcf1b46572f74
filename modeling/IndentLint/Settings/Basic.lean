import IndentLint.Document.Unusable
import IndentLint.Storage.Discovery

/-! The settings of a check. A setting can hold any value until it has been validated. -/
namespace IndentLint

open Document (Value)

inductive Group where
  | analysis
  | discovery
  | report
  deriving DecidableEq, Repr

inductive Setting where
  | enabled
  | indentUnit
  | tabWidth
  | includePatterns
  | excludeDirs
  | excludeGlobs
  | maxFileSize
  | encoding
  | maxWorkers
  | outputFormat
  | styledOutput
  | showLines
  deriving DecidableEq, Repr

namespace Group

def all : List Group := [.analysis, .discovery, .report]

def key : Group → String
  | .analysis => "analysis"
  | .discovery => "discovery"
  | .report => "report"

def settings : Group → List Setting
  | .analysis => [.enabled, .indentUnit, .tabWidth]
  | .discovery =>
    [.includePatterns, .excludeDirs, .excludeGlobs, .maxFileSize, .encoding, .maxWorkers]
  | .report => [.outputFormat, .styledOutput, .showLines]

end Group

namespace Setting

def key : Setting → String
  | .enabled => "enabled"
  | .indentUnit => "indent_unit"
  | .tabWidth => "tab_width"
  | .includePatterns => "include_patterns"
  | .excludeDirs => "exclude_dirs"
  | .excludeGlobs => "exclude_globs"
  | .maxFileSize => "max_file_size"
  | .encoding => "encoding"
  | .maxWorkers => "max_workers"
  | .outputFormat => "output_format"
  | .styledOutput => "use_rich"
  | .showLines => "show_lines"

def group : Setting → Group
  | .enabled | .indentUnit | .tabWidth => .analysis
  | .outputFormat | .styledOutput | .showLines => .report
  | _ => .discovery

def default : Setting → Value
  | .enabled => .bool true
  | .indentUnit => .null
  | .tabWidth => .int 4
  | .includePatterns => .texts Storage.defaultWanted
  | .excludeDirs => .texts Storage.defaultExcludedDirs
  | .excludeGlobs => .texts Storage.defaultExcludedNames
  | .maxFileSize => .int 1048576
  | .encoding => .text "utf-8"
  | .maxWorkers => .int 1
  | .outputFormat => .text "text"
  | .styledOutput => .bool true
  | .showLines => .bool false

/-- A setting without a value of its own falls back to its default, unless the default is a
list. -/
def fallsBack : Setting → Bool
  | .includePatterns | .excludeDirs | .excludeGlobs => false
  | _ => true

end Setting

def Group.setting? (g : Group) (key : String) : Option Setting := g.settings.find? (·.key = key)

structure Settings where
  value : Setting → Value := Setting.default
  missing : List Setting := []
  names : Group → List String := fun _ => []
  outline : Group → Option Value := fun _ => none

namespace Settings

def set (s : Settings) (setting : Setting) (v : Value) : Settings :=
  { s with
    value := fun other => if other = setting then v else s.value other
    missing := s.missing.filter (· ≠ setting) }

def get (s : Settings) (setting : Setting) : Except Unusable Value :=
  if s.missing.contains setting then .error .absent else .ok (s.value setting)

def groupFields (s : Settings) (g : Group) : Except Unusable (List (String × Value)) :=
  g.settings.mapM fun setting => do
    let v ← s.get setting
    if v.isEndless then .error .endless else .ok (setting.key, v)

def groupDocument (s : Settings) (g : Group) : Except Unusable Value :=
  match s.outline g with
  | none => (s.groupFields g).map .record
  | some (.mapping []) => .ok (.mapping [])
  | some _ => .error .absent

def document (s : Settings) : Except Unusable Value := do
  let groups ← Group.all.mapM fun g => do .ok (g.key, ← s.groupDocument g)
  .ok (.record groups)

end Settings

def outputFormats : List String := ["text", "json", "html"]

namespace Settings

def summaryText (s : Settings) (setting : Setting) : Except Unusable String := do
  let v ← s.get setting
  match setting, v with
  | .indentUnit, .scalar .null => .ok "inferred"
  | .includePatterns, v => return s!"{← count v} patterns"
  | .excludeDirs, v => return s!"{← count v} names"
  | .maxFileSize, v => return (← shown v) ++ " bytes"
  | _, v => shown v

def summaryLines : List (String × List (String × Setting)) :=
  [("Analysis:", [("Enabled", .enabled), ("Indent unit", .indentUnit), ("Tab width", .tabWidth)]),
    ("Discovery:",
      [("Include patterns", .includePatterns), ("Excluded directories", .excludeDirs),
        ("Max file size", .maxFileSize), ("Encoding", .encoding), ("Max workers", .maxWorkers)]),
    ("Report:",
      [("Output format", .outputFormat), ("Rich output", .styledOutput),
        ("Show violating lines", .showLines)])]

def summary (s : Settings) : Except Unusable String := do
  let groups ← summaryLines.mapM fun (heading, settings) => do
    let lines ← settings.mapM fun (name, setting) => do
      .ok ("  - " ++ name ++ ": " ++ (← s.summaryText setting) ++ "\n")
    .ok (heading ++ "\n" ++ String.join lines)
  .ok ("IndentGuard Configuration Summary:\n" ++ "\n".intercalate groups)

end Settings
end IndentLint
