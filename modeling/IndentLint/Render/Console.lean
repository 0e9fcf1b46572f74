import IndentLint.Document.Json.Writer
import IndentLint.Document.Unusable

/-! What is sent to a terminal. A styled console is given panels, tables and marked-up text to lay
out; a plain one is given finished lines. -/
namespace IndentLint.Render

open Document (Value)

structure Table where
  columns : List String
  rows : List (List String) := []
  deriving DecidableEq, Repr

namespace Table

def addRow (t : Table) (row : List String) : Table := { t with rows := t.rows ++ [row] }

/-- Every row with the same number of cells: short rows are filled up, and long ones add columns
without a heading. A table without columns has no rows. -/
def squared (t : Table) : Table :=
  let width := t.rows.foldl (fun n row => max n row.length) t.columns.length
  let fill (cells : List String) := cells ++ List.replicate (width - cells.length) ""
  { t with columns := fill t.columns, rows := if width = 0 then [] else t.rows.map fill }

def ruler (width : Nat) : String := String.ofList (List.replicate width '-')

def lines (t : Table) (title : String) (width : Nat) : List String :=
  let heading := " | ".intercalate t.columns
  ["", title, ruler width, heading, ruler heading.length]
    ++ t.rows.map (" | ".intercalate ·) ++ [""]

end Table

inductive Chunk where
  | text (s : String)
  | markup (s : String)
  | panel (body border : String) (vertical horizontal : Nat)
  | table (title : Value) (t : Table)
  | code (s : String) (lineNumbers : Bool)
  | rule (title style : String)
  deriving BEq, Repr

def Chunk.plain : Chunk → String
  | .text s => s
  | .markup s => s ++ "\n"
  | .panel body .. => body ++ "\n"
  | .table title t =>
    String.join ((t.lines title.display title.display.length).map (· ++ "\n"))
  | .code s _ => s ++ "\n"
  | .rule title _ => title ++ "\n"

abbrev Output := List Chunk

def Output.joined : Output → Output
  | .text a :: rest =>
    match joined rest with
    | .text b :: more => .text (a ++ b) :: more
    | more => .text a :: more
  | chunk :: rest => chunk :: joined rest
  | [] => []

def Output.ofLines (lines : List String) : Output :=
  [.text (String.join (lines.map (· ++ "\n")))]

inductive Mark where
  | success
  | warning
  | error
  | info
  deriving DecidableEq, Repr

namespace Mark

def sign : Mark → String
  | .success => "✓"
  | .warning => "⚠"
  | .error => "✗"
  | .info => "ℹ"

def colour : Mark → String
  | .success => "green"
  | .warning => "yellow"
  | .error => "red"
  | .info => "blue"

end Mark

structure Console where
  styled : Bool := true
  deriving DecidableEq, Repr

namespace Console

def header (c : Console) (title subtitle : String) : Output :=
  if c.styled then
    let body := "[bold blue]" ++ title ++ "[/bold blue]"
    let more := if subtitle = "" then "" else "\n[dim]" ++ subtitle ++ "[/dim]"
    [.panel (body ++ more) "blue" 1 2]
  else
    .ofLines (["", "=== " ++ title ++ " ==="]
      ++ (if subtitle = "" then [] else [subtitle]) ++ [""])

def heading (c : Console) (title : String) : Output :=
  if c.styled then [.rule ("[bold]" ++ title ++ "[/bold]") "blue"]
  else .ofLines ["", "--- " ++ title ++ " ---"]

def message (c : Console) (mark : Mark) (s : String) : Output :=
  if c.styled then
    [.markup ("[" ++ mark.colour ++ "]" ++ mark.sign ++ "[/" ++ mark.colour ++ "] " ++ s)]
  else .ofLines [mark.sign ++ " " ++ s]

def table (c : Console) (title : String) (t : Table) : Output :=
  if c.styled then [.table (.text title) t.squared] else .ofLines (t.lines title title.length)

def tableBelow (c : Console) (title : Value) (t : Table) : Except Unusable Output := do
  if c.styled then .ok [.table title t.squared]
  else .ok (.ofLines (t.lines title.display (← count title)))

def document (c : Console) (v : Value) (title : String) : Except Unusable Output := do
  Document.Json.check v
  let shown := Document.Json.write .ascii .indented v
  .ok ((if title = "" then [] else c.heading title)
    ++ (if c.styled then [.code shown true] else Output.ofLines [shown]))

end Console
end IndentLint.Render
