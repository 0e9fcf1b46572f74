import IndentLint.Source.Scan

/-! Lines of source code beside their visible text. -/
namespace IndentLint.Source

structure Line where
  index : Nat
  raw : List Char
  visible : List Char
  tabWidth : Nat
  deriving DecidableEq, Repr

/-- The least offset into a text before which at least `column` columns lie, or the length of
the text when it has fewer columns. -/
def offsetOf (tab : Nat) : Int → List Char → Nat
  | _, [] => 0
  | column, c :: rest =>
    if column ≤ 0 then 0 else 1 + offsetOf tab (column - charWidth tab c) rest

def isTerminator (c : Char) : Bool := c = '\r' || c = '\n'

namespace Line

def trimmed (l : Line) : List Char := Text.trim l.visible

def indent (l : Line) : Nat := (l.visible.takeWhile (· = ' ')).length

def isBlank (l : Line) : Bool := l.trimmed.isEmpty

def isAnnotation (l : Line) : Bool := l.trimmed.head? = some '@'

def isCheckable (l : Line) : Bool := !(l.isBlank || l.isAnnotation)

def opensBlock (l : Line) : Bool := l.visible.contains '{'

def offset (l : Line) (column : Int) : Nat := offsetOf l.tabWidth column l.raw

def read (tab : Nat) (inside : Bool) (index : Nat) (text : List Char) : Line × Bool :=
  let raw := Text.dropEndWhile isTerminator text
  let (visible, inside) := strip tab inside raw
  ({ index, raw, visible, tabWidth := tab }, inside)

def readFrom (tab : Nat) (inside : Bool) (index : Nat) : List (List Char) → List Line × Bool
  | [] => ([], inside)
  | text :: rest =>
    let (line, inside) := read tab inside index text
    let (lines, inside) := readFrom tab inside (index + 1) rest
    (line :: lines, inside)

end Line

def readLines (tab : Nat) (inside : Bool) (texts : List (List Char)) : List Line × Bool :=
  Line.readFrom tab inside 0 texts

end IndentLint.Source
