import IndentLint.About
import IndentLint.CommandLine.Grammar
import IndentLint.CommandLine.Help
import IndentLint.Settings.Basic

/-! What a user can ask for, and the grammars in which it is written. -/
namespace IndentLint.CommandLine

inductive Said where
  | nothing
  | empty
  | number (n : Int)
  deriving DecidableEq, Repr

def Said.value? : Said → Option Document.Value
  | .nothing => none
  | .empty => some (.list [])
  | .number n => some (.int n)

structure CheckRequest where
  path : String := ""
  unit : Said := .nothing
  tabWidth : Said := .nothing
  format : Option String := none
  output : Option String := none
  showLines : Bool := false
  failOnProblems : Bool := false
  deriving DecidableEq, Repr

inductive SettingsRequest where
  | summary (format : String)
  | create (path format : Option String)
  | judge (path : String)
  | unnamed
  deriving DecidableEq, Repr

inductive Command where
  | check (request : CheckRequest)
  | settings (request : SettingsRequest)
  deriving DecidableEq, Repr

structure Globals where
  settingsPath : Option String := none
  verbose : Bool := false
  plain : Bool := false
  deriving DecidableEq, Repr

structure Request where
  globals : Globals
  command : Option Command
  deriving DecidableEq, Repr

def positive (value : String) : Except ValueFault Int :=
  match Text.Numeral.read? value.toList with
  | none => .error (.notInteger value)
  | some n => if n ≤ 0 then .error (.notPositive n) else .ok n

def choice (choices : List String) (value : String) : Except ValueFault String :=
  if choices.contains value then .ok value else .error (.notChoice value choices)

namespace Opt

variable {α β : Type}

def help : Opt α := ⟨["-h", "--help"], .help⟩

def flag (names : List String) (set : α → α) : Opt α := ⟨names, .flag set⟩

def read (read : String → Except ValueFault β) (names : List String)
    (set : Option β → α → α) : Opt α :=
  ⟨names, .value fun value a => do .ok (set (← value.mapM read) a)⟩

def text (names : List String) (set : Option String → α → α) : Opt α := read .ok names set

def positive (names : List String) (set : Said → α → α) : Opt α :=
  read CommandLine.positive names fun n => set (n.elim .empty .number)

def choice (names choices : List String) (set : Option String → α → α) : Opt α :=
  read (CommandLine.choice choices) names set

end Opt

def program : Grammar Globals :=
  { program := About.program
    help := Help.program
    options :=
      [Opt.help, Opt.text ["--config", "-c"] fun path g => { g with settingsPath := path },
        Opt.flag ["--verbose", "-v"] fun g => { g with verbose := true },
        Opt.flag ["--no-rich"] fun g => { g with plain := true }, ⟨["--version"], .version⟩]
    operand := .command "command" ["check", "config"] }

def check : Grammar CheckRequest :=
  { program := "indentguard check"
    help := Help.check
    options :=
      [Opt.help, Opt.positive ["--indent-unit"] fun said r => { r with unit := said },
        Opt.positive ["--tab-width"] fun said r => { r with tabWidth := said },
        Opt.choice ["--format"] outputFormats fun format r => { r with format },
        Opt.text ["--output", "-o"] fun output r => { r with output },
        Opt.flag ["--show-lines"] fun r => { r with showLines := true },
        Opt.flag ["--fail-on-problems"] fun r => { r with failOnProblems := true }]
    operand := .required "path" fun path r => { r with path } }

def settings : Grammar Unit :=
  { program := "indentguard config"
    help := Help.config
    options := [Opt.help]
    operand := .command "config_action" ["show", "init", "validate"] }

def settingsShow : Grammar String :=
  { program := "indentguard config show"
    help := Help.configShow
    options := [Opt.help, Opt.choice ["--format"] ["text", "json"] fun format _ => format.getD "text"]
    operand := .none }

def settingsInit : Grammar (Option String × Option String) :=
  { program := "indentguard config init"
    help := Help.configInit
    options :=
      [Opt.help, Opt.text ["--path"] fun path r => (path, r.2),
        Opt.choice ["--format"] ["json", "yaml"] fun format r => (r.1, format)]
    operand := .none }

def settingsValidate : Grammar String :=
  { program := "indentguard config validate"
    help := Help.configValidate
    options := [Opt.help]
    operand := .required "config_file" fun path _ => path }

def readSettings (arguments : List String) : Except Stop (SettingsRequest × List String) := do
  let outer ← settings.read arguments ()
  match outer.command with
  | none => .ok (.unnamed, outer.extras)
  | some (action, rest) =>
    if action = "show" then
      let r ← settingsShow.read rest "text"
      .ok (.summary r.value, outer.extras ++ r.extras)
    else if action = "init" then
      let r ← settingsInit.read rest (some "indentguard.json", some "json")
      .ok (.create r.value.1 r.value.2, outer.extras ++ r.extras)
    else
      let r ← settingsValidate.read rest ""
      .ok (.judge r.value, outer.extras ++ r.extras)

def readCommand (name : String) (arguments : List String) :
    Except Stop (Command × List String) := do
  if name = "check" then
    let r ← check.read arguments {}
    .ok (.check r.value, r.extras)
  else
    let (request, extras) ← readSettings arguments
    .ok (.settings request, extras)

def Request.read (arguments : List String) : Except Stop Request := do
  let outer ← program.read arguments {}
  let (command, more) ← match outer.command with
    | none => .ok (none, [])
    | some (name, rest) => do
      let (command, extras) ← readCommand name rest
      .ok (some command, extras)
  let extras := outer.extras ++ more
  if extras.isEmpty then .ok ⟨outer.value, command⟩
  else .error (program.usage (.unrecognized extras))

def Request.paths (r : Request) : List String :=
  let own := match r.command with
    | some (.check c) => c.path :: c.output.toList
    | some (.settings (.create path _)) => path.toList
    | some (.settings (.judge path)) => [path]
    | _ => []
  r.globals.settingsPath.toList ++ own

end IndentLint.CommandLine
