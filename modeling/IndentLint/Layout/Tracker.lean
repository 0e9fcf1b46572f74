import IndentLint.Layout.Width
import IndentLint.Text.Blank
import IndentLint.Text.Word

/-! Expected indentation. The tracker follows braced blocks, control statements whose body is one
statement without braces, and statements wrapped over several lines. A line is first entered,
which tells the width expected of it, and then left, which makes it count for the next one. -/
namespace IndentLint.Layout

structure Tracker (α : Type) where
  frames : List Int := []
  pending : Int := 0
  awaiting : Bool := false
  expected : α
  continuation : α
  unit : α
  unitFixed : Bool := false
  deriving DecidableEq, Repr

structure Target (α : Type) where
  width : α
  atLeast : Bool
  deriving DecidableEq, Repr

def controlWords : List (List Char) :=
  ["if", "for", "while", "do", "else"].map String.toList

def accessWords : List (List Char) :=
  ["private", "public", "protected"].map String.toList

def hasControlWord (text : List Char) : Bool := Text.hasWord controlWords text

def startsWithAccess (text : List Char) : Bool := Text.startsWithWord accessWords text

def parensBalanced (text : List Char) : Bool := text.count '(' = text.count ')'

namespace Tracker

variable {α : Type}

def start [Width α] (unit : α) (unitFixed : Bool) : Tracker α :=
  { expected := Width.zero, continuation := Width.zero, unit, unitFixed }

def fixUnit? (t : Tracker α) (unit : α) : Option (Tracker α) :=
  if t.unitFixed then none else some { t with unit, unitFixed := true }

def push (t : Tracker α) : Tracker α :=
  { t with frames := t.pending :: t.frames, pending := 0 }

def pop (t : Tracker α) : Tracker α :=
  match t.frames with
  | [] => { t with pending := 0 }
  | frame :: frames => { t with frames, pending := frame }

def shift [Width α] (t : Tracker α) (levels : Int) : Tracker α :=
  { t with expected := Width.shift t.expected levels t.unit }

def openContinuation (t : Tracker α) : Tracker α :=
  let t := { t with awaiting := true }.push
  { t with continuation := t.expected }

def releasePending [Width α] (t : Tracker α) : Tracker α :=
  if 0 < t.pending then { t.shift (-t.pending) with pending := 0 } else t

def target (t : Tracker α) : Target α :=
  if t.awaiting then ⟨t.continuation, true⟩ else ⟨t.expected, false⟩

/-- A closing brace at the start of a line lines up with its opener, an opening brace may stand
below its header, and the body of a header without braces is one level deeper. -/
def enter [Width α] (t : Tracker α) (text : List Char) : Tracker α :=
  let first := (Text.trim text).head?
  let t := if first = some '}' then t.shift (-1) else t
  if t.awaiting && first = some '{' then
    let t := { t with awaiting := false }
    if 0 < t.pending then { t with pending := t.pending - 1 } else t.pop
  else if 0 < t.pending then
    { t.shift 1 with awaiting := false }
  else t

def brace (t : Tracker α) (c : Char) : Tracker α :=
  if c = '{' then t.push else if c = '}' then t.pop else t

def isEnd (last : Option Char) : Bool := last = some ';' || last = some '{' || last = some '}'

def settle [Width α] (t : Tracker α) (text : List Char) : Tracker α :=
  let trimmed := Text.trim text
  let last := trimmed.getLast?
  let opens := text.count '{'
  let closes := text.count '}'
  if !t.awaiting && hasControlWord text && !(last = some '{' || last = some ';') then
    if parensBalanced text then
      if 0 < opens && opens = closes then t
      else { t with awaiting := true, pending := t.pending + 1 }
    else t.openContinuation
  else if !t.awaiting && !isEnd last then
    if startsWithAccess trimmed && last = some ')' then t else t.openContinuation
  else if t.awaiting && isEnd last then
    let t := if t.pending = 0 then { t with awaiting := false } else t
    t.pop.releasePending
  else t.releasePending

def leave [Width α] (t : Tracker α) (text : List Char) : Tracker α :=
  let t := if t.awaiting then { t with continuation := Width.wider t.continuation t.expected } else t
  let leading : Int := if (Text.trim text).head? = some '}' then 1 else 0
  let t := t.shift ((text.count '{' : Int) - text.count '}' + leading)
  (text.foldl brace t).settle text

end Tracker
end IndentLint.Layout
