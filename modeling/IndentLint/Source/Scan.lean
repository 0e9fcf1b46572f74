import IndentLint.Text.Blank

/-! Scanning one line of source. Comments and the contents of literals are blanked out column by
column and tabs are expanded, so that every visible character keeps its column. -/
namespace IndentLint.Source

inductive Mode where
  | code
  | literal (quote : Char)
  | comment
  deriving DecidableEq, Repr

def charWidth (tab : Nat) (c : Char) : Nat := if c = '\t' then tab else 1

def width (tab : Nat) : List Char → Nat
  | [] => 0
  | c :: rest => charWidth tab c + width tab rest

def pad : Nat → List Char → List Char
  | 0, s => s
  | n + 1, s => pad n (' ' :: s)

def isQuote (c : Char) : Bool := c = '"' || c = '\''

/-- Blanks out a line from the given mode on; the flag says whether a block comment is open at
the end. A literal ends with its line. -/
def scan (tab : Nat) : Mode → List Char → List Char × Bool
  | .comment, [] => ([], true)
  | .comment, '*' :: '/' :: rest =>
    let (out, inside) := scan tab .code rest
    (pad 2 out, inside)
  | .comment, c :: rest =>
    let (out, inside) := scan tab .comment rest
    (pad (charWidth tab c) out, inside)
  | .literal _, [] => ([], false)
  | .literal quote, '\\' :: c :: rest =>
    let (out, inside) := scan tab (.literal quote) rest
    (pad (1 + charWidth tab c) out, inside)
  | .literal quote, c :: rest =>
    if c = quote then
      let (out, inside) := scan tab .code rest
      (c :: out, inside)
    else
      let (out, inside) := scan tab (.literal quote) rest
      (pad (charWidth tab c) out, inside)
  | .code, [] => ([], false)
  | .code, '/' :: '/' :: _ => ([], false)
  | .code, '/' :: '*' :: rest =>
    let (out, inside) := scan tab .comment rest
    (pad 2 out, inside)
  | .code, c :: rest =>
    if isQuote c then
      let (out, inside) := scan tab (.literal c) rest
      (c :: out, inside)
    else
      let (out, inside) := scan tab .code rest
      (if c = '\t' then pad tab out else c :: out, inside)

def beginsComment : Mode → List Char → Bool
  | .comment, _ => true
  | .literal _, [] => false
  | .literal quote, '\\' :: _ :: rest => beginsComment (.literal quote) rest
  | .literal quote, c :: rest =>
    if c = quote then beginsComment .code rest else beginsComment (.literal quote) rest
  | .code, [] => false
  | .code, '/' :: '/' :: _ => false
  | .code, '/' :: '*' :: _ => true
  | .code, c :: rest => if isQuote c then beginsComment (.literal c) rest else beginsComment .code rest

def Mode.ofComment (inside : Bool) : Mode := if inside then .comment else .code

def strip (tab : Nat) (inside : Bool) (raw : List Char) : List Char × Bool :=
  let (out, inside) := scan tab (.ofComment inside) raw
  (Text.trimEnd out, inside)

end IndentLint.Source
