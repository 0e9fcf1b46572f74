/-! Log records. -/
namespace IndentLint

inductive Level where
  | debug
  | info
  | warning
  | error
  deriving DecidableEq, Repr

def Level.name : Level → String
  | .debug => "DEBUG"
  | .info => "INFO"
  | .warning => "WARNING"
  | .error => "ERROR"

inductive Origin where
  | scanning
  | baseline
  | analysis
  | diagnostics
  | check
  | settings
  | commandLine
  deriving DecidableEq, Repr

def Origin.name : Origin → String
  | .scanning => "indentguard.analysis.preprocessor"
  | .baseline => "indentguard.analysis.baseline"
  | .analysis => "indentguard.analysis.indentation_analyzer"
  | .diagnostics => "indentguard.analysis.diagnostics.error_handler"
  | .check => "indentguard.api"
  | .settings => "indentguard.config"
  | .commandLine => "indentguard.cli_entry"

structure LogRecord where
  level : Level
  origin : Origin
  message : String
  deriving DecidableEq, Repr

abbrev Log := List LogRecord

namespace LogRecord

def brief (r : LogRecord) : String := r.level.name ++ " " ++ r.message

def line (stamp : String) (r : LogRecord) : String :=
  " - ".intercalate [stamp, r.origin.name, r.level.name, r.message]

def isShown (verbose : Bool) (r : LogRecord) : Bool := verbose || r.level ≠ .debug

end LogRecord
end IndentLint
