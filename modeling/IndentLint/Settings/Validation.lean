import IndentLint.Encoding
import IndentLint.Settings.Basic

/-! Which values settings may have. -/
namespace IndentLint

open Document (Value Entries)

inductive SettingFault where
  | notMapping (group : Group)
  | invalid (setting : Setting)
  | encoding (fault : Encoding.NameFault)
  | unusable (cause : Unusable)
  deriving DecidableEq, Repr

def SettingFault.message : SettingFault → String
  | .notMapping g => s!"'{g.key}' section must be a mapping"
  | .encoding (.unknown name) => "Unknown encoding: " ++ name
  | .encoding fault => fault.message
  | .unusable cause => cause.message
  | .invalid setting =>
    match setting with
    | .indentUnit => "indent_unit must be a positive integer or null"
    | .tabWidth => "tab_width must be a positive integer"
    | .maxFileSize => "max_file_size must be positive"
    | .maxWorkers => "max_workers must be positive"
    | .enabled => "enabled must be a boolean"
    | .styledOutput => "use_rich must be a boolean"
    | .showLines => "show_lines must be a boolean"
    | .includePatterns => "include_patterns must be a list of strings"
    | .excludeDirs => "exclude_dirs must be a list of strings"
    | .excludeGlobs => "exclude_globs must be a list of strings"
    | .encoding => "encoding must be a string"
    | .outputFormat => "output_format must be one of: " ++ (Value.texts outputFormats).quoted

def SettingFault.isReported : SettingFault → Bool
  | .encoding (.unknown _) => true
  | .encoding _ | .unusable _ => false
  | _ => true

namespace Setting

def isPositive (v : Value) : Bool :=
  match v with
  | .scalar (.int n) => 0 < n
  | _ => false

/-- Judges one value. The items of a list are not looked at. -/
def validate (codecs : Codecs) (setting : Setting) (v : Value) : Except SettingFault Unit :=
  let need (ok : Bool) : Except SettingFault Unit := if ok then .ok () else .error (.invalid setting)
  match setting with
  | .indentUnit => need (match v with | .scalar .null => true | v => isPositive v)
  | .tabWidth | .maxFileSize | .maxWorkers => need (isPositive v)
  | .enabled | .styledOutput | .showLines => need v.bool?.isSome
  | .includePatterns | .excludeDirs | .excludeGlobs => need v.items?.isSome
  | .outputFormat => need (v.text?.any outputFormats.contains)
  | .encoding =>
    match v with
    | .scalar (.text name) => do
      let _ ← (codecs.find name).mapError SettingFault.encoding
      .ok ()
    | .scalar (.unpaired points) => .error (.encoding (.unpaired points))
    | _ => .error (.invalid .encoding)

end Setting

def Group.validationOrder : Group → List Setting
  | .analysis => [.indentUnit, .tabWidth, .enabled]
  | .discovery =>
    [.maxFileSize, .maxWorkers, .includePatterns, .excludeDirs, .excludeGlobs, .encoding]
  | .report => [.outputFormat, .styledOutput, .showLines]

def Group.validate (codecs : Codecs) (g : Group) (entries : Entries) : Except SettingFault Unit :=
  g.validationOrder.forM fun setting =>
    match Entries.get? entries (.text setting.key) with
    | some v => setting.validate codecs v
    | none => .ok ()

def Group.entries (g : Group) (doc : Entries) : Except SettingFault Entries :=
  match Entries.get? doc (.text g.key) with
  | none => .ok []
  | some (.mapping entries) => .ok entries
  | some _ => .error (.notMapping g)

def validateDocument (doc : Entries) (codecs : Codecs := .written) : Except SettingFault Unit := do
  Group.all.forM fun g => do
    let _ ← g.entries doc
  Group.all.forM fun g => do
    g.validate codecs (← g.entries doc)

def Settings.validate (s : Settings) (codecs : Codecs := .written) : Except SettingFault Unit := do
  let doc ← s.document.mapError .unusable
  validateDocument (doc.entries?.getD []) codecs

end IndentLint
