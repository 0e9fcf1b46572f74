import IndentLint.Number.Quantity
import IndentLint.Source.Line

/-! Tab widths that no text allows. A tab that is expanded has a whole number of columns, and not
more than a text can hold. A tab that is not scanned matters to nobody: one behind a line comment is
never expanded. -/
namespace IndentLint.Source

open Number (Quantity)

inductive TabFault where
  | fractional
  | uncountable
  | outOfMemory
  deriving DecidableEq, Repr

def TabFault.message : TabFault → String
  | .fractional => "a tab of no whole number of columns"
  | .uncountable => "a tab of uncountably many columns"
  | .outOfMemory => "a tab too wide to be stored"

def maxCount : Nat := 9223372036854775807

def usualRoom : Nat := 68719476736

def tabFault? (tab : Quantity) (room : Nat) : Option TabFault :=
  match tab.whole? with
  | none => some .fractional
  | some n =>
    if maxCount < n then some .uncountable
    else if room < n then some .outOfMemory
    else none

def expandsTab (inside : Bool) : List (List Char) → Bool
  | [] => false
  | text :: rest =>
    let raw := Text.dropEndWhile isTerminator text
    let (narrow, after) := scan 1 (.ofComment inside) raw
    let (wide, _) := scan 2 (.ofComment inside) raw
    narrow.length != wide.length || expandsTab after rest

def checkTabs (tab : Quantity) (inside : Bool) (texts : List (List Char))
    (room : Nat := usualRoom) : Except TabFault Unit :=
  match tabFault? tab room with
  | some fault => if expandsTab inside texts then .error fault else .ok ()
  | none => .ok ()

/-- The columns to read with; any will do where no tab is expanded. -/
def columns (tab : Quantity) : Nat := (tab.whole?.map Int.toNat).getD 1

end IndentLint.Source
