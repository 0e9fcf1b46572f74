import IndentLint.Document.Fault

/-! Positions in a YAML text. -/
namespace IndentLint.Document.Yaml

structure Cursor where
  rest : List Char
  index : Nat := 0
  line : Nat := 0
  column : Nat := 0
  ending : Option Fault := none

def fail {α : Type} (detail : String) : Except Fault α := .error (.malformed detail)

def isBreak (c : Char) : Bool :=
  c = '\n' || c = '\r' || c.toNat = 0x85 || c.toNat = 0x2028 || c.toNat = 0x2029

def isBlank (c : Char) : Bool := c = ' ' || c = '\t'

def isSeparator (c : Char) : Bool := isBlank c || isBreak c

def separated (s : List Char) : Bool := s.head?.all isSeparator

def spaced (s : List Char) : Bool := s.head?.all fun c => c = ' ' || isBreak c

def isAllowed (c : Char) : Bool :=
  let n := c.toNat
  n = 9 || n = 10 || n = 13 || (0x20 ≤ n && n ≤ 0x7e) || n = 0x85 || (0xa0 ≤ n && n ≤ 0xfffd)
    || 0x10000 ≤ n

def isFlowMark (c : Char) : Bool := c = ',' || c = '[' || c = ']' || c = '{' || c = '}'

def isOrderMark (c : Char) : Bool := c.toNat = 0xfeff

def breakChar (c : Char) : Char := if c.toNat = 0x2028 || c.toNat = 0x2029 then c else '\n'

namespace Cursor

def next (c : Cursor) : Cursor :=
  match c.rest with
  | [] => c
  | ch :: rest =>
    let c := { c with rest, index := c.index + 1 }
    if isBreak ch then { c with line := c.line + 1, column := 0 }
    else { c with column := if isOrderMark ch then c.column else c.column + 1 }

def advance (c : Cursor) : Nat → Cursor
  | 0 => c
  | n + 1 => c.next.advance n

def skipWhile (p : Char → Bool) (c : Cursor) : Cursor := c.advance (c.rest.takeWhile p).length

def skipSpaces (c : Cursor) : Cursor := c.skipWhile (· = ' ')

def atBreak (c : Cursor) : Bool := c.rest.head?.any isBreak

def isMarker (mark : Char) (c : Cursor) : Bool :=
  c.column = 0 && c.rest.take 3 = [mark, mark, mark] && separated (c.rest.drop 3)

def atMarker (c : Cursor) : Bool := c.isMarker '-' || c.isMarker '.'

def missing? (c : Cursor) : Option Fault := if c.rest.isEmpty then c.ending else none

def refuse {α : Type} (c : Cursor) (fault : Fault) : Except Fault α :=
  .error (c.missing?.getD fault)

def expected {α : Type} (c : Cursor) (detail : String) : Except Fault α :=
  c.refuse (.malformed detail)

def skipComment (c : Cursor) : Cursor :=
  if c.rest.head? = some '#' then c.skipWhile (!isBreak ·) else c

def skipFrom : Nat → Cursor → Cursor × Bool
  | 0, c => (c, false)
  | fuel + 1, c =>
    let c := c.skipSpaces.skipComment
    if c.atBreak then ((skipFrom fuel c.next).1, true) else (c, false)

def skip (c : Cursor) : Cursor × Bool := skipFrom (c.rest.length + 1) c

def endLine (c : Cursor) : Except Fault Cursor :=
  let c := c.skipSpaces.skipComment
  if c.atBreak then .ok c.next else if c.rest.isEmpty then .ok c else fail "the end of a line"

end Cursor
end IndentLint.Document.Yaml
