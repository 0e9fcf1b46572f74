import IndentLint.Document.Json.Writer
import IndentLint.Document.Merge
import IndentLint.Platform
import IndentLint.Settings.Environment
import IndentLint.Settings.Reserved
import IndentLint.Settings.Validation

/-! Settings in files: finding, loading and saving them. -/
namespace IndentLint

open Document (Value Entries)
open Storage (Disk AccessFault ReadFault)

structure Host where
  disk : Disk
  environment : Variables := []
  now : String := ""
  stamp : String := ""
  elapsed : Number.Binary64 := .zero
  trace : String := ""
  platform : Platform := .usual
  schedule : Schedule := .inTurn

inductive LoadFault where
  | notFound (path : String)
  | malformed (detail : String)
  | unreadable (fault : ReadFault)
  | notMapping (kind : String)
  | setting (fault : SettingFault)
  | undecodable (fault : DecodeFault)
  | unrepresentable (fault : Document.Fault)
  | unusable (cause : Unusable)
  deriving DecidableEq, Repr

def LoadFault.message : LoadFault → String
  | .notFound path => "Configuration file not found: " ++ path
  | .malformed detail => "Invalid configuration file format: " ++ detail
  | .unreadable fault => "Error reading configuration file: " ++ fault.message
  | .notMapping kind => "Configuration file must contain a mapping, got " ++ kind
  | .setting fault => fault.message
  | .undecodable fault => fault.message
  | .unrepresentable fault => fault.message
  | .unusable cause => cause.message

def LoadFault.isReported : LoadFault → Bool
  | .notFound _ | .malformed _ | .unreadable _ | .notMapping _ => true
  | .setting fault => fault.isReported
  | .undecodable _ | .unrepresentable _ | .unusable _ => false

namespace Settings

def searchPaths (d : Disk) : List String :=
  ["indentguard.json", "indentguard.yaml", "indentguard.yml", ".indentguard.json",
    ".indentguard.yaml", ".indentguard.yml", Storage.Place.toString (d.home ++ [".indentguard.json"]),
    Storage.Place.toString (d.home ++ [".indentguard.yaml"])]

def findFile? (d : Disk) (paths : List String) : Option String :=
  (if paths.isEmpty then searchPaths d else paths).find? d.has

def isYaml (path : String) : Bool := path.endsWith ".yaml" || path.endsWith ".yml"

def parseFault : Document.Fault → LoadFault
  | .malformed detail => .malformed detail
  | .undecodable fault => .undecodable fault
  | fault => .unrepresentable fault

def parseFile (platform : Platform) (path : String) (bytes : List UInt8) :
    Except LoadFault Value := do
  if isYaml path then
    let v ← (platform.readYaml bytes).mapError parseFault
    .ok (if v.isEmpty then .mapping [] else v)
  else
    let text ← (Encoding.decodeUtf8 bytes).mapError .undecodable
    (Document.Json.read (Text.unifyNewlines text) platform.depth).mapError parseFault

def loadFile (platform : Platform) (d : Disk) (path : String) : Except LoadFault Entries := do
  if !d.has path then .error (.notFound path)
  let bytes ← (d.read path).mapError .unreadable
  let v ← parseFile platform path bytes
  match v with
  | .mapping entries => .ok entries
  | v => .error (.notMapping v.kind)

def groupEntries (doc : Entries) (g : Group) : Except LoadFault Entries :=
  match Entries.get? doc (.text g.key) with
  | none => .ok []
  | some (.mapping entries) => .ok entries
  | some v => if v.isEmpty then .ok [] else .error (.unusable .absent)

def unknownKey (key : String) : LogRecord :=
  ⟨.warning, .settings, "Ignoring unknown configuration key: " ++ key⟩

def applyEntries (g : Group) (s : Settings) : Entries → Except LoadFault (Settings × Log)
  | [] => .ok (s, [])
  | (.text key, v) :: rest =>
    match s.put? g key v with
    | some result => do applyEntries g (← result.mapError .unusable) rest
    | none => do
      let (s, log) ← applyEntries g s rest
      .ok (s, unknownKey key :: log)
  | (.unpaired points, _) :: rest => do
    let (s, log) ← applyEntries g s rest
    .ok (s, unknownKey (Document.pointsText points) :: log)
  | _ :: _ => .error (.unusable .mistyped)

def applyDocument (doc : Entries) : Except LoadFault (Settings × Log) :=
  Group.all.foldlM (fun (acc : Settings × Log) g => do
    let (s, log) ← applyEntries g acc.1 (← groupEntries doc g)
    .ok (s, acc.2 ++ log)) ({}, [])

def settle (codecs : Codecs) (doc : Entries) (check : Bool) : Except LoadFault (Settings × Log) := do
  if check then (validateDocument doc codecs).mapError .setting
  applyDocument doc

def chooseFile (d : Disk) (path : Option String) : Option String × Bool :=
  match path with
  | some p => if p = "" then (findFile? d [], true) else (some p, false)
  | none => (findFile? d [], true)

/-- Loads settings: the defaults, over them the file, over it the variables. What is logged up to
a failure is kept. -/
def load (host : Host) (path : Option String) (useVariables check : Bool) :
    Log × Except LoadFault Settings :=
  let (file?, searched) := chooseFile host.disk path
  let fromFile := match file? with
    | some file => loadFile host.platform host.disk file
    | none => .ok []
  match fromFile with
  | .error e => ([], .error e)
  | .ok entries =>
    let found := match file? with
      | some file =>
        if searched then [⟨.info, .settings, "Loaded configuration from: " ++ file⟩] else []
      | none => []
    let log := found ++ (if useVariables then host.environment.log else [])
    let doc := Document.mergeEntries (Document.mergeEntries [] entries)
      (if useVariables then host.environment.entries else [])
    match settle host.platform.codecs doc check with
    | .error e => (log, .error e)
    | .ok (s, more) => (log ++ more, .ok s)

inductive SaveFault where
  | access (fault : AccessFault)
  | unusable (cause : Unusable)
  deriving DecidableEq, Repr

namespace SaveFault

def message : SaveFault → String
  | .access fault =>
    if fault.isSystem then "Error saving configuration file: " ++ fault.message else fault.message
  | .unusable cause => cause.message

def isReported : SaveFault → Bool
  | .access fault => fault.isSystem
  | .unusable _ => false

end SaveFault

def fileText (platform : Platform) (doc : Value) (format : String) : Except Unusable String :=
  if ["yaml", "yml"].contains format.toLower then platform.writeYaml doc
  else if !doc.isShowable then .error .tooLong
  else .ok (Document.Json.write .ascii .indented doc)

/-- Saves settings. The file is opened before the format is looked at. -/
def save (s : Settings) (d : Disk) (path : String) (format : Option String)
    (platform : Platform := .usual) : Except SaveFault Disk := do
  let doc ← s.document.mapError .unusable
  let _ ← (d.write path []).mapError .access
  let some format := format | .error (.unusable .absent)
  let text ← (fileText platform doc format).mapError .unusable
  (d.write path (utf8Bytes text)).mapError .access

end Settings
end IndentLint
