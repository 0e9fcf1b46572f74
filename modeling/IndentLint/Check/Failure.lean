import IndentLint.Check.Detail
import IndentLint.Encoding
import IndentLint.Storage.Disk

/-! Failures of reading files, and whatever else is reported beside them. -/
namespace IndentLint.Check

open Document (Value)

inductive FailureKind where
  | tooLarge
  | permission
  | notFound
  | isDirectory
  | notDirectory
  | system (name : String)
  | encoding (name : String)
  | other (name : String)
  deriving DecidableEq, Repr

namespace FailureKind

def name : FailureKind → String
  | .tooLarge => "FileTooLargeError"
  | .permission => "PermissionError"
  | .notFound => "FileNotFoundError"
  | .isDirectory => "IsADirectoryError"
  | .notDirectory => "NotADirectoryError"
  | .system name => name
  | .encoding name => name
  | .other name => name

def systemNames : List String :=
  ["OSError", "FileExistsError", "TimeoutError", "ConnectionError", "BlockingIOError",
    "BrokenPipeError", "ChildProcessError", "ConnectionAbortedError", "ConnectionRefusedError",
    "ConnectionResetError", "InterruptedError", "ProcessLookupError"]

def encodingNames : List String :=
  ["UnicodeError", "UnicodeDecodeError", "UnicodeEncodeError", "UnicodeTranslateError",
    "LookupError", "KeyError", "IndexError"]

def aliases : List (String × String) := [("IOError", "OSError"), ("EnvironmentError", "OSError")]

def ofName (name : String) : FailureKind :=
  let name := (aliases.lookup name).getD name
  match [tooLarge, permission, notFound, isDirectory, notDirectory].find? (·.name = name) with
  | some kind => kind
  | none =>
    if systemNames.contains name then .system name
    else if encodingNames.contains name then .encoding name
    else .other name

def numbered : List (Int × String) :=
  [(1, "PermissionError"), (2, "FileNotFoundError"), (3, "ProcessLookupError"),
    (4, "InterruptedError"), (10, "ChildProcessError"), (11, "BlockingIOError"),
    (13, "PermissionError"), (17, "FileExistsError"), (20, "NotADirectoryError"),
    (21, "IsADirectoryError"), (32, "BrokenPipeError"), (103, "ConnectionAbortedError"),
    (104, "ConnectionResetError"), (108, "BrokenPipeError"), (110, "TimeoutError"),
    (111, "ConnectionRefusedError"), (114, "BlockingIOError"), (115, "BlockingIOError")]

def isSystem : FailureKind → Bool
  | .permission | .notFound | .isDirectory | .notDirectory | .system _ => true
  | _ => false

def isNumbered (kind : FailureKind) (details : List Value) : Bool :=
  kind.isSystem && 2 ≤ details.length && details.length ≤ 5

def refine (kind : FailureKind) (details : List Value) : FailureKind :=
  let number := match details with
    | .scalar (.int n) :: _ => if kind.isNumbered details then some n else none
    | .scalar (.bool true) :: _ => if kind.isNumbered details then some 1 else none
    | _ => none
  match number.bind fun n => numbered.lookup n with
  | some name => if kind = .system "OSError" then ofName name else kind
  | none => kind

def ofRefusal (r : Storage.Refusal) : FailureKind :=
  (system "OSError").refine [.int r.number, .text r.reason]

end FailureKind

structure Failure where
  kind : FailureKind
  message : String
  trace : Option String := none
  deriving DecidableEq, Repr

namespace Failure

def listed (details : List Value) : String :=
  "(" ++ ", ".intercalate (details.map Value.quoted) ++ ")"

def isCount (kind : FailureKind) (third : Value) : Bool :=
  kind = .system "BlockingIOError" && third.quantity?.isSome

def namesFile (kind : FailureKind) (third : Value) : Bool :=
  !(third matches .scalar .null) && !isCount kind third

def files (kind : FailureKind) : List Value → List Value
  | [] => []
  | file :: rest =>
    if !namesFile kind file then []
    else match rest with
      | [_, second] => if second matches .scalar .null then [file] else [file, second]
      | _ => [file]

def describe (kind : FailureKind) (details : List Value) : String :=
  match details with
  | [] => ""
  | [v] => if kind = .encoding "KeyError" then v.quoted else v.display
  | number :: text :: rest =>
    if kind.isNumbered details then
      let base := "[Errno " ++ number.display ++ "] " ++ text.display
      match files kind rest with
      | [] => base
      | named => base ++ ": " ++ " -> ".intercalate (named.map Value.quoted)
    else listed details

def checkCount (kind : FailureKind) (details : List Value) : Except DetailFault Unit :=
  match details with
  | _ :: _ :: third :: _ =>
    if !kind.isNumbered details || !isCount kind third then .ok ()
    else match third.quantity?.bind Number.Quantity.whole? with
      | none => .error .mistyped
      | some n => if Detail.isCountable n then .ok () else .error .beyondCount
  | _ => .ok ()

def ofDetails (name : String) (details : List Value) (trace : Option String) :
    Except DetailFault Failure := do
  match Detail.particular? name with
  | some describe => .ok { kind := .ofName name, message := ← describe details, trace }
  | none => do
    let kind := (FailureKind.ofName name).refine details
    checkCount kind details
    .ok { kind, message := describe kind details, trace }

def tooLarge (path size limit : String) (trace : Option String) : Failure :=
  { kind := .tooLarge, message := s!"File too large ({size} bytes, limit {limit}): {path}", trace }

def undecodable (fault : DecodeFault) (trace : Option String) : Failure :=
  let name := match fault with
    | .bytes .. => "UnicodeDecodeError"
    | .other _ => "UnicodeError"
  { kind := .encoding name, message := fault.message, trace }

def byteAt? (bytes : List UInt8) (place : Int) : Option UInt8 :=
  if 0 ≤ place then bytes[place.toNat]? else some (if bytes.isEmpty then 0 else 255)

def ofBytes (codec : Value) (bytes : List UInt8) (start stop reason : Value)
    (trace : Option String) : Except DetailFault Failure := do
  let codec ← Detail.text codec
  let start ← Detail.place start
  let stop ← Detail.place stop
  .ok (undecodable (.bytes codec (byteAt? bytes start) start stop (← Detail.text reason)) trace)

def misnamed (fault : Encoding.NameFault) (trace : Option String) : Failure :=
  let kind := match fault with
    | .unknown _ | .notText _ => .encoding "LookupError"
    | .unpaired _ => .encoding "UnicodeEncodeError"
    | .holdsZero => .other "ValueError"
  { kind, message := fault.message, trace }

def unreadable (refusal : Storage.Refusal) (path : String) (trace : Option String) : Failure :=
  { kind := .ofRefusal refusal, message := refusal.message path, trace }

def missingPath (path : String) : Failure :=
  { kind := .notFound, message := "Path does not exist: " ++ path }

def shown (f : Failure) : String := if f.message = "" then f.kind.name else f.message

end Failure
end IndentLint.Check
