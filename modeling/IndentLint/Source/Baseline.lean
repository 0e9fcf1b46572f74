import IndentLint.Source.Line

/-! The indentation unit a file uses, taken from its first indented block. -/
namespace IndentLint.Source

def hasBlock (lines : List Line) : Bool := lines.any Line.opensBlock

def firstBodyLine? (lines : List Line) : Option Line :=
  ((lines.dropWhile fun l => !l.opensBlock).drop 1).find? fun l => !l.isBlank

def inferUnit (lines : List Line) : Nat :=
  match firstBodyLine? lines with
  | some line => line.indent
  | none => 0

end IndentLint.Source
