import IndentLint.Document.Display

/-! Failures that ask for details of certain kinds, and what they say of them. -/
namespace IndentLint.Check

open Document (Value)

inductive DetailFault where
  | mistyped
  | beyondCount
  | beyondPlace
  | noMembers
  | notFailure
  deriving DecidableEq, Repr

def DetailFault.message : DetailFault → String
  | .mistyped => "a detail of the wrong kind"
  | .beyondCount => "cannot fit 'int' into an index-sized integer"
  | .beyondPlace => "a place that cannot be counted"
  | .noMembers => "second argument (exceptions) must be a non-empty sequence"
  | .notFailure => "Item 0 of second argument (exceptions) is not an exception"

namespace Detail

def isCountable (n : Int) : Bool := -9223372036854775808 ≤ n && n ≤ 9223372036854775807

def text (v : Value) : Except DetailFault String := v.text?.elim (.error .mistyped) .ok

def place (v : Value) : Except DetailFault Int :=
  match v with
  | .scalar (.int n) => if isCountable n then .ok n else .error .beyondPlace
  | .scalar (.bool b) => .ok (if b then 1 else 0)
  | _ => .error .mistyped

def numbered (c : Char) : String :=
  let n := c.toNat
  let hex (width : Nat) : String := String.ofList (Text.Quoted.hex width n)
  if n ≤ 0xff then "\\x" ++ hex 2 else if n ≤ 0xffff then "\\u" ++ hex 4 else "\\U" ++ hex 8

def characters (verb object : String) (start stop : Int) (reason : String) : String :=
  let one := if stop = start + 1 && 0 ≤ start then object.toList[start.toNat]? else none
  let found := match one with
    | some c => s!"character '{numbered c}' in position {start}"
    | none => s!"characters in position {start}-{stop - 1}"
  "can't " ++ verb ++ " " ++ found ++ ": " ++ reason

def unencodable : List Value → Except DetailFault String
  | [codec, object, start, stop, reason] => do
    let codec ← text codec
    let object ← text object
    let start ← place start
    let stop ← place stop
    .ok ("'" ++ codec ++ "' codec " ++ characters "encode" object start stop (← text reason))
  | _ => .error .mistyped

def untranslatable : List Value → Except DetailFault String
  | [object, start, stop, reason] => do
    let object ← text object
    let start ← place start
    let stop ← place stop
    .ok (characters "translate" object start stop (← text reason))
  | _ => .error .mistyped

def baseName (path : String) : String := (path.splitOn "/").getLast?.getD path

def placeParts : Value → Except DetailFault (List Value)
  | .list items => .ok items
  | .mapping entries => .ok (entries.map fun e => .scalar e.1)
  | .scalar (.text s) => .ok (s.toList.map fun c => .text (String.singleton c))
  | _ => .error .mistyped

def mistakePlace (file line : Value) : String :=
  let file? := file.text?.map baseName
  let line? := match line with
    | .scalar (.int n) => some ("line " ++ toString (if isCountable n then n else -1))
    | _ => none
  match file?.toList ++ line?.toList with
  | [] => ""
  | parts => " (" ++ ", ".intercalate parts ++ ")"

def mistake : List Value → Except DetailFault String
  | [] => .ok (Value.display .null)
  | [what, place] => do
    match ← placeParts place with
    | [file, line, _, _] | [file, line, _, _, _, _] => .ok (what.display ++ mistakePlace file line)
    | _ => .error .mistyped
  | what :: _ => .ok what.display

def group : List Value → Except DetailFault String
  | [name, members] => do
    let _ ← text name
    match members with
    | .list [] | .scalar (.text "") => .error .noMembers
    | .list _ | .scalar (.text _) => .error .notFailure
    | _ => .error .mistyped
  | _ => .error .mistyped

def particular? (name : String) : Option (List Value → Except DetailFault String) :=
  if ["SyntaxError", "IndentationError", "TabError"].contains name then some mistake
  else if name = "UnicodeEncodeError" then some unencodable
  else if name = "UnicodeTranslateError" then some untranslatable
  else if ["ExceptionGroup", "BaseExceptionGroup"].contains name then some group
  else none

end Detail
end IndentLint.Check
