import IndentLint.Layout.Tracker
import IndentLint.Source.Scan

/-! Programs that are laid out well, as trees. A part of a program is an item, a body (items in
turn) or what closes a block, and it becomes rows: texts with the columns before them. -/
namespace IndentLint.Program
open Layout (hasControlWord startsWithAccess)

def reserved : List Char := ['{', '}', '"', '\'', '/', '@', '\t', '\r', '\n']

structure Phrase where
  chars : List Char
  nonempty : chars ≠ []
  clean : ∀ c ∈ chars, c ∉ reserved
  starts : ∀ c ∈ chars.head?, Text.isBlank c = false
  stops : ∀ c ∈ chars.getLast?, Text.isBlank c = false

structure Statement extends Phrase where
  ended : chars.getLast? = some ';'

structure Unended extends Phrase where
  unended : chars.getLast? ≠ some ';'

structure Header extends Unended where
  control : hasControlWord chars = true
  balanced : chars.count '(' = chars.count ')'

structure Opening extends Unended where
  noHeader : hasControlWord chars = false ∨ chars.count '(' ≠ chars.count ')'
  noList : ¬ (startsWithAccess chars = true ∧ chars.getLast? = some ')')

inductive Part where
  | item
  | body
  | closing
  deriving DecidableEq, Repr

inductive Code : Part → Type where
  | statement (text : Statement) : Code .item
  | block (head : Phrase) (body : Code .body) (rest : Code .closing) : Code .item
  | allman (head : Header) (body : Code .body) : Code .item
  | unbraced (head : Header) (body : Code .item) : Code .item
  /- The lines after the first may have more columns before them. -/
  | wrapped (first : Opening) (middle : List (Nat × Unended)) (more : Nat) (last : Statement) :
      Code .item
  | empty : Code .body
  | items (first : Code .item) (rest : Code .body) : Code .body
  | close : Code .closing
  | closeWith (text : Statement) : Code .closing
  | reopen (middle : Phrase) (body : Code .body) (rest : Code .closing) : Code .closing

structure Row where
  columns : Nat
  text : List Char
  deriving DecidableEq, Repr

def Row.chars (row : Row) : List Char := Source.pad row.columns row.text

def opener (head : Phrase) : List Char := head.chars ++ [' ', '{']

namespace Code

def rows (unit : Nat) : {part : Part} → Code part → (depth : Nat) → List Row
  | _, .statement text, depth => [⟨depth * unit, text.chars⟩]
  | _, .block head body rest, depth =>
    ⟨depth * unit, opener head⟩ :: (body.rows unit (depth + 1) ++ rest.rows unit depth)
  | _, .allman head body, depth =>
    ⟨depth * unit, head.chars⟩ :: ⟨depth * unit, ['{']⟩ ::
      (body.rows unit (depth + 1) ++ [⟨depth * unit, ['}']⟩])
  | _, .unbraced head body, depth => ⟨depth * unit, head.chars⟩ :: body.rows unit (depth + 1)
  | _, .wrapped first middle more last, depth =>
    ⟨depth * unit, first.chars⟩ ::
      (middle.map (fun line => ⟨depth * unit + line.1, line.2.chars⟩) ++
        [⟨depth * unit + more, last.chars⟩])
  | _, .empty, _ => []
  | _, .items first rest, depth => first.rows unit depth ++ rest.rows unit depth
  | _, .close, depth => [⟨depth * unit, ['}']⟩]
  | _, .closeWith text, depth => [⟨depth * unit, '}' :: ' ' :: text.chars⟩]
  | _, .reopen middle body rest, depth =>
    ⟨depth * unit, '}' :: ' ' :: opener middle⟩ ::
      (body.rows unit (depth + 1) ++ rest.rows unit depth)
termination_by structural _ code => code

def texts (program : Code .body) (unit : Nat) : List (List Char) :=
  (program.rows unit 0).map Row.chars

end Code
end IndentLint.Program
