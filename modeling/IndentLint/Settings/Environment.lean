import IndentLint.Log
import IndentLint.Settings.Basic

/-! Settings from environment variables. An empty variable counts as absent, and a variable that
cannot be read is passed over with a warning. -/
namespace IndentLint

open Document (Value Entries)

abbrev Variables := List (String × String)

namespace Setting

def variableName? : Setting → Option String
  | .indentUnit => some "INDENTGUARD_INDENT_UNIT"
  | .tabWidth => some "INDENTGUARD_TAB_WIDTH"
  | .enabled => some "INDENTGUARD_ENABLED"
  | .includePatterns => some "INDENTGUARD_INCLUDE_PATTERNS"
  | .excludeDirs => some "INDENTGUARD_EXCLUDE_DIRS"
  | .maxFileSize => some "INDENTGUARD_MAX_FILE_SIZE"
  | .maxWorkers => some "INDENTGUARD_MAX_WORKERS"
  | .outputFormat => some "INDENTGUARD_OUTPUT_FORMAT"
  | _ => none

def withVariable : List Setting :=
  [.indentUnit, .tabWidth, .enabled, .includePatterns, .excludeDirs, .maxFileSize, .maxWorkers,
    .outputFormat]

def isYes (s : String) : Bool :=
  ["1", "true", "yes", "on"].contains ((String.ofList (Text.trim s.toList)).toLower)

def parts (s : String) : Value :=
  .texts ((Text.splitOn ',' s.toList).map String.ofList)

def parse? (setting : Setting) (text : String) : Option Value :=
  match setting with
  | .enabled => some (.bool (isYes text))
  | .includePatterns | .excludeDirs => some (parts text)
  | .outputFormat =>
    if outputFormats.contains text.toLower then some (.text text.toLower) else none
  | _ => (Text.Numeral.read? text.toList).map .int

end Setting

namespace Variables

def text? (vars : Variables) (setting : Setting) : Option String := do
  let name ← setting.variableName?
  let text ← vars.lookup name
  if text = "" then none else some text

def value? (vars : Variables) (setting : Setting) : Option Value :=
  (vars.text? setting).bind setting.parse?

def groupEntries (vars : Variables) (g : Group) : Entries :=
  (Setting.withVariable.filter (·.group = g)).filterMap fun setting =>
    (vars.value? setting).map fun v => (.text setting.key, v)

def entries (vars : Variables) : Entries :=
  Group.all.filterMap fun g =>
    let entries := vars.groupEntries g
    if entries.isEmpty then none else some (.text g.key, .mapping entries)

def warning? (vars : Variables) (setting : Setting) : Option LogRecord := do
  let text ← vars.text? setting
  let name ← setting.variableName?
  if (setting.parse? text).isNone then
    some ⟨.warning, .settings, "Invalid " ++ name ++ " value, using default"⟩
  else none

def log (vars : Variables) : Log := Setting.withVariable.filterMap vars.warning?

end Variables
end IndentLint
