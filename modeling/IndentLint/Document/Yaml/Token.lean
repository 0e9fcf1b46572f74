import IndentLint.Document.Yaml.Lexeme
import IndentLint.Document.Yaml.Property
import IndentLint.Document.Yaml.Supply

/-! The tokens of a YAML text. Indentation becomes tokens of its own, and the mark of a key is put
before what turns out, at a colon, to be one. -/
namespace IndentLint.Document.Yaml

inductive Token where
  | directive (d : Directive)
  | documentStart
  | documentEnd
  | blockSequence
  | blockMapping
  | blockEnd
  | openList
  | closeList
  | openMapping
  | closeMapping
  | comma
  | dash
  | key
  | value
  | mention (name : List Char)
  | anchor (name : List Char)
  | tag (text : TagText)
  | scalar (codes : List Nat) (isPlain : Bool)
  | endOfText
  deriving DecidableEq, Repr

structure Candidate where
  token : Nat
  required : Bool
  index : Nat
  line : Nat
  column : Nat
  deriving DecidableEq, Repr

def maxKey : Nat := 1024

structure Lexer where
  cursor : Cursor
  tokens : Array Token := #[]
  depth : Nat := 0
  indent : Int := -1
  outer : List Int := []
  keyAllowed : Bool := true
  candidates : List (Nat × Candidate) := []

namespace Lexer

def add (x : Lexer) (t : Token) : Lexer := { x with tokens := x.tokens.push t }

def isStale (x : Lexer) (k : Candidate) : Bool :=
  k.line ≠ x.cursor.line || maxKey < x.cursor.index - k.index

def forget (x : Lexer) : Lexer :=
  { x with candidates := x.candidates.filter fun k => !x.isStale k.2 || k.2.required }

def checkStale (x : Lexer) : Except Fault Lexer :=
  let x := x.forget
  if x.candidates.any fun k => x.isStale k.2 then fail "a colon after a key" else .ok x

def dropCandidate (x : Lexer) : Except Fault Lexer :=
  match x.candidates.lookup x.depth with
  | some k =>
    if k.required then fail "a colon after a key"
    else .ok { x with candidates := x.candidates.filter (·.1 ≠ x.depth) }
  | none => .ok x

def addCandidate (x : Lexer) : Except Fault Lexer := do
  if x.keyAllowed then
    let x ← x.dropCandidate
    let k : Candidate :=
      { token := x.tokens.size, required := x.depth = 0 && x.indent = x.cursor.column
        index := x.cursor.index, line := x.cursor.line, column := x.cursor.column }
    .ok { x with candidates := (x.depth, k) :: x.candidates }
  else .ok x

def unwindFrom (column : Int) : List Int → Lexer → Lexer
  | [], x => x
  | before :: outer, x =>
    if column < x.indent then unwindFrom column outer { x.add .blockEnd with indent := before, outer }
    else x

def unwind (column : Int) (x : Lexer) : Lexer :=
  if x.depth = 0 then unwindFrom column x.outer x else x

def indentTo (column : Nat) (start : Token) (place : Nat) (x : Lexer) : Lexer :=
  if x.indent < column then
    { x with indent := column, outer := x.indent :: x.outer
             tokens := x.tokens.insertIdxIfInBounds place start }
  else x

def mark (n : Nat) (t : Token) (x : Lexer) : Lexer :=
  { x.add t with cursor := x.cursor.advance n }

def top (x : Lexer) : Except Fault Lexer := do
  let x ← (x.unwind (-1)).dropCandidate
  .ok { x with keyAllowed := false }

def openFlow (t : Token) (x : Lexer) : Except Fault Lexer := do
  let x ← x.addCandidate
  .ok { x.mark 1 t with depth := x.depth + 1, keyAllowed := true }

def closeFlow (t : Token) (x : Lexer) : Except Fault Lexer := do
  let x ← x.dropCandidate
  if x.depth = 0 then fail "an open collection"
  .ok { x.mark 1 t with depth := x.depth - 1, keyAllowed := false }

def entry (start t : Token) (allowed : Bool) (x : Lexer) : Except Fault Lexer := do
  if x.depth = 0 && !x.keyAllowed then fail "an entry in its place"
  let x := if x.depth = 0 then x.indentTo x.cursor.column start x.tokens.size else x
  let x ← { x with keyAllowed := allowed }.dropCandidate
  .ok (x.mark 1 t)

def colon (x : Lexer) : Except Fault Lexer :=
  match x.candidates.lookup x.depth with
  | some k =>
    let x := { x with
      tokens := x.tokens.insertIdxIfInBounds k.token .key
      candidates := x.candidates.filter (·.1 ≠ x.depth)
      keyAllowed := false }
    let x := if x.depth = 0 then x.indentTo k.column .blockMapping k.token else x
    .ok (x.mark 1 .value)
  | none => entry .blockMapping .value (x.depth = 0) x

def simple (lex : Cursor → Except Fault (Token × Cursor)) (x : Lexer) : Except Fault Lexer := do
  let x ← x.addCandidate
  let (t, cursor) ← lex x.cursor
  .ok { x.add t with cursor, keyAllowed := false }

def plainScalar (x : Lexer) : Except Fault Lexer := do
  let x ← x.addCandidate
  let (text, cursor, broken) :=
    plain (x.depth ≠ 0) (x.indent + 1).toNat (x.cursor.rest.length + 1) x.cursor
  .ok { x.add (.scalar (text.map Char.toNat) true) with cursor, keyAllowed := broken }

def blockScalar (x : Lexer) : Except Fault Lexer := do
  let x ← { x with keyAllowed := true }.dropCandidate
  let (text, cursor) ← block x.indent x.cursor
  .ok { x.add (.scalar (text.map Char.toNat) false) with cursor }

def finish (x : Lexer) : Except Fault Lexer := do
  let x ← x.top
  .ok { x.add .endOfText with candidates := [] }

def approach (x : Lexer) : Except Fault Lexer := do
  let start := if x.cursor.index = 0 && x.cursor.rest.head?.any isOrderMark
    then x.cursor.next else x.cursor
  let (cursor, broken) := start.skip
  if let some fault := cursor.missing? then .error fault
  let x ← { x with cursor, keyAllowed := x.keyAllowed || (broken && x.depth = 0) }.checkStale
  .ok (x.unwind cursor.column)

def step (x : Lexer) : Except Fault Lexer := do
  let x ← x.approach
  let flow := x.depth ≠ 0
  match x.cursor.rest with
  | [] => x.finish
  | c :: rest =>
    if c = '%' && x.cursor.column = 0 then
      let x ← x.top
      let (d, cursor) ← directive x.cursor
      .ok { x.add (.directive d) with cursor }
    else if x.cursor.isMarker '-' then return (← x.top).mark 3 .documentStart
    else if x.cursor.isMarker '.' then return (← x.top).mark 3 .documentEnd
    else if c = '[' then x.openFlow .openList
    else if c = '{' then x.openFlow .openMapping
    else if c = ']' then x.closeFlow .closeList
    else if c = '}' then x.closeFlow .closeMapping
    else if c = ',' then return (← { x with keyAllowed := true }.dropCandidate).mark 1 .comma
    else if c = '-' && separated rest then x.entry .blockSequence .dash true
    else if c = '?' && (flow || separated rest) then x.entry .blockMapping .key (!flow)
    else if c = ':' && (flow || separated rest) then x.colon
    else if c = '*' then
      x.simple fun k => (anchorName k).map fun (name, next) => (.mention name, next)
    else if c = '&' then
      x.simple fun k => (anchorName k).map fun (name, next) => (.anchor name, next)
    else if c = '!' then x.simple fun k => (tag k).map fun (t, next) => (.tag t, next)
    else if (c = '|' || c = '>') && !flow then x.blockScalar
    else if c = '\'' || c = '"' then
      x.simple fun k => (quoted k).map fun (codes, next) => (.scalar codes false, next)
    else if startsPlain flow (c :: rest) then x.plainScalar
    else x.cursor.next.expected "a token"

def settled (x : Lexer) : List Token :=
  x.tokens.toList.take (x.candidates.foldl (fun n k => min n k.2.token) x.tokens.size)

end Lexer

structure Tokens where
  tokens : List Token
  fault : Option Fault

def Lexer.run : Nat → Lexer → Tokens
  | 0, x => ⟨x.tokens.toList, some (.malformed "the end of the text")⟩
  | fuel + 1, x =>
    let x := x.forget
    match x.checkStale >>= step with
    | .error fault => ⟨x.settled, some fault⟩
    | .ok next =>
      match next.cursor.missing? with
      | some fault => ⟨x.settled, some fault⟩
      | none =>
        if next.tokens.back? = some .endOfText then ⟨next.tokens.toList, none⟩ else run fuel next

def Tokens.ofSupply (s : Supply) : Tokens := Lexer.run (s.text.length + 2) { cursor := s.cursor }

end IndentLint.Document.Yaml
