import IndentLint.Document.Value

/-! What the program says about itself. -/
namespace IndentLint.About

open Document (Value)

def program : String := "indentguard"

def version : String := "0.1.0"

def author : String := "IndentGuard Team"

def description : String :=
  "\n".intercalate
    ["", "IndentGuard - Heuristic Indentation Checker", "",
      "A lexical checker for brace-delimited languages (Java, C, JavaScript, ...)",
      "that infers the indentation unit a file uses and reports lines deviating from",
      "it as coalesced over-indent and under-indent problems, without parsing the", "language.", ""]

def components : List String :=
  ["IndentGuard", "CheckResult", "FileCheckResult", "IndentGuardConfig", "IndentationAnalyzer",
    "IndentationReport", "Problem", "Direction"]

def publicNames : List String := "__version__" :: "__author__" :: components

def sections : List String := ["analysis", "api", "cli", "cli_entry", "config", "main"]

def operations : List String :=
  ["__delattr__", "__dir__", "__eq__", "__format__", "__ge__", "__getattr__", "__getattribute__",
    "__getstate__", "__gt__", "__hash__", "__init__", "__init_subclass__", "__le__", "__lt__",
    "__ne__", "__new__", "__reduce__", "__reduce_ex__", "__repr__", "__setattr__", "__sizeof__",
    "__str__", "__subclasshook__"]

def nameless : List String :=
  ["__annotations__", "__builtins__", "__dict__", "__loader__", "__spec__"]

def facts : List (String × Value) :=
  [("__version__", .text version), ("__author__", .text author), ("__all__", .texts publicNames),
    ("__name__", .text program), ("__package__", .text program), ("__doc__", .text description),
    ("__class__", .text "module")]

inductive LookupFault where
  | unknown (name : String)
  | nameless
  deriving DecidableEq, Repr

def LookupFault.message : LookupFault → String
  | .unknown name => s!"module '{program}' has no attribute '{name}'"
  | .nameless => "nothing to show"

def find (name : String) : Except LookupFault Value :=
  match facts.lookup name with
  | some v => .ok v
  | none =>
    if components.contains name || operations.contains name then .ok (.text name)
    else if sections.contains name then .ok (.text (program ++ "." ++ name))
    else if nameless.contains name then .error .nameless
    else .error (.unknown name)

end IndentLint.About
