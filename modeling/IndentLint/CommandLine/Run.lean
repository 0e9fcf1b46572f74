import IndentLint.CommandLine.Request
import IndentLint.Render.Screen

/-! Running the program on its arguments. -/
namespace IndentLint.CommandLine

open Document (Value)
open Render (Console Output)
open Storage (AccessFault Disk)

structure Ending where
  code : Nat
  output : Output := []
  errors : List String := []
  disk : Disk

inductive Abort where
  | load (fault : LoadFault)
  | check (fault : Check.Fault)
  | save (fault : Settings.SaveFault)
  | unusable (cause : Unusable)
  deriving DecidableEq, Repr

def Abort.message : Abort → String
  | .load fault => fault.message
  | .check fault => fault.message
  | .save fault => fault.message
  | .unusable cause => cause.message

def shown (host : Host) (verbose : Bool) (log : Log) : List String :=
  (log.filter (·.isShown verbose)).map (·.line host.stamp)

def failure (message : String) : String := "Error: " ++ message

def Stop.ending (host : Host) : Stop → Ending
  | .help page => { code := 0, output := [.text page], disk := host.disk }
  | .version =>
    { code := 0, output := Output.ofLines [About.program ++ " " ++ About.version], disk := host.disk }
  | .usage program fault =>
    { code := 2, errors := [program ++ ": error: " ++ fault.message], disk := host.disk }

def Globals.override (g : Globals) (command : Command) (s : Settings) : Settings :=
  let s := match command with
    | .settings _ => s
    | .check r =>
      let s := r.unit.value?.elim s (s.set .indentUnit)
      r.tabWidth.value?.elim s (s.set .tabWidth)
  if g.plain then s.set .styledOutput (.bool false) else s

def console (s : Settings) : Console := ⟨!(s.value .styledOutput).isEmpty⟩

namespace CheckRequest

def formatFor (r : CheckRequest) (s : Settings) : String :=
  r.format.getD (s.value .outputFormat).display

def showsLines (r : CheckRequest) (s : Settings) : Bool :=
  r.showLines || !(s.value .showLines).isEmpty

def code (r : CheckRequest) (result : Check.Result) : Nat :=
  if !result.failures.isEmpty && result.files.isEmpty then 1
  else if r.failOnProblems && result.problemCount ≠ 0 then 2
  else 0

def deliver (r : CheckRequest) (host : Host) (s : Settings) (result : Check.Result) :
    Except Check.Fault Ending := do
  let format := r.formatFor s
  let showLines := r.showsLines s
  match r.output.filter (· ≠ "") with
  | some path =>
    let text ← (Render.result result format showLines).mapError .unusable
    let disk ← (host.disk.write path (utf8Bytes text)).mapError .access
    .ok { code := r.code result, errors := ["Check results written to " ++ path], disk }
  | none =>
    let output ← (if format = "text" then Render.screen (console s) result showLines
      else (Render.result result format showLines).map fun text => .ofLines [text]).mapError .unusable
    .ok { code := r.code result, output, disk := host.disk }

def accessLines (host : Host) (verbose : Bool) (fault : AccessFault) : List String :=
  failure fault.message :: (if verbose
    then [LogRecord.line host.stamp ⟨.error, .commandLine, "Command failed"⟩, host.trace] else [])

def close (host : Host) (verbose : Bool) (before : List String) :
    Except Check.Fault Ending → Except Abort Ending
  | .ok ending => .ok { ending with errors := before ++ ending.errors }
  | .error (.access fault) =>
    if fault.isSystem then
      .ok { code := 1, errors := before ++ accessLines host verbose fault, disk := host.disk }
    else .error (.check (.access fault))
  | .error fault => .error (.check fault)

def run (r : CheckRequest) (host : Host) (verbose : Bool) (s : Settings) : Except Abort Ending :=
  match Check.checkPath host s r.path with
  | .error fault => close host verbose [] (.error fault)
  | .ok (result, log) => close host verbose (shown host verbose log) (r.deliver host s result)

end CheckRequest

namespace SettingsRequest

def isIndependent : SettingsRequest → Bool
  | .create .. | .judge _ => true
  | _ => false

def createFile (host : Host) (path : String) (format : Option String) : Except Abort Ending :=
  match Settings.save {} host.disk path format host.platform with
  | .error fault =>
    if fault.isReported then
      .ok { code := 1, errors := [failure ("Failed to create configuration: " ++ fault.message)]
            disk := host.disk }
    else .error (.save fault)
  | .ok disk =>
    .ok { code := 0
          output := Output.ofLines ["Default configuration file created at " ++ path,
            "Edit the file to customize your IndentGuard settings."]
          disk }

def judgeFile (host : Host) (verbose : Bool) (path : String) : Except Abort Ending :=
  let (log, loaded) := Settings.load host (some path) false true
  let lines := shown host verbose log
  match loaded with
  | .ok _ =>
    .ok { code := 0, output := Output.ofLines ["Configuration file " ++ path ++ " is valid"]
          errors := lines, disk := host.disk }
  | .error fault =>
    if fault.isReported then
      .ok { code := 1
            errors := lines ++ [failure ("Configuration file is invalid: " ++ fault.message)]
            disk := host.disk }
    else .error (.load fault)

def summarize (host : Host) (s : Settings) (format : String) : Except Unusable Ending := do
  let output ← if format = "json" then (console s).document (← s.document) ""
    else .ok (Output.ofLines ["Current IndentGuard Configuration:", ← s.summary])
  .ok { code := 0, output, disk := host.disk }

/-- Making and judging a file work even where the usual settings are at fault. -/
def run (r : SettingsRequest) (host : Host) (verbose : Bool) (s : Settings) : Except Abort Ending :=
  match r with
  | .create none _ => .error (.unusable .mistyped)
  | .create (some path) format => createFile host path format
  | .judge path => judgeFile host verbose path
  | .summary format => (summarize host s format).mapError .unusable
  | .unnamed =>
    .ok { code := 1, errors := [failure "Missing config action (show, init, validate)"]
          disk := host.disk }

end SettingsRequest

namespace Command

def needsSettings : Command → Bool
  | .check _ => true
  | .settings r => !r.isIndependent

def run (c : Command) (host : Host) (verbose : Bool) (s : Settings) : Except Abort Ending :=
  match c with
  | .check r => r.run host verbose s
  | .settings r => r.run host verbose s

end Command

def Globals.run (g : Globals) (host : Host) (command : Command) : Except Abort Ending :=
  if command.needsSettings then
    let (log, loaded) := Settings.load host g.settingsPath true true
    let lines := shown host g.verbose log
    match loaded with
    | .error fault =>
      if fault.isReported then
        .ok { code := 1, errors := lines ++ [failure fault.message], disk := host.disk }
      else .error (.load fault)
    | .ok s =>
      (command.run host g.verbose (g.override command s)).map fun ending =>
        { ending with errors := lines ++ ending.errors }
  else command.run host g.verbose {}

def run (host : Host) (arguments : List String) : Except Abort Ending :=
  match Request.read arguments with
  | .error stop => .ok (stop.ending host)
  | .ok request =>
    match request.command with
    | none => .ok { code := 1, output := [.text Help.program], disk := host.disk }
    | some command => request.globals.run host command

end IndentLint.CommandLine
