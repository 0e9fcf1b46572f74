import IndentLint.Document.Yaml.Cursor
import IndentLint.Text.Numeral

/-! Scalars as they stand in a YAML text: plain, in quotes, or as a block of lines. -/
namespace IndentLint.Document.Yaml

/-- What a line break and the further breaks after it come to: one break is a space, and of several
the first is dropped. A separator of Unicode is always kept. -/
def folded (first : Char) (more : List Char) : List Char :=
  if breakChar first ≠ '\n' then breakChar first :: more
  else if more.isEmpty then [' '] else more

/-! ### Plain scalars -/

def endsPlain (flow : Bool) (c : Char) (next : Option Char) : Bool :=
  isSeparator c
    || (c = ':' && (next.all isSeparator || (flow && next.any isFlowMark)))
    || (flow && (isFlowMark c || c = '?'))

def plainChunk (flow : Bool) : List Char → List Char
  | [] => []
  | c :: rest => if endsPlain flow c rest.head? then [] else c :: plainChunk flow rest

def startsPlain (flow : Bool) (s : List Char) : Bool :=
  match s with
  | [] => false
  | c :: rest =>
    if isSeparator c then false
    else if "-?:,[]\x7b\x7d#&*!|>'\"%@\x60".contains c then
      !separated rest && (c = '-' || (!flow && (c = '?' || c = ':')))
    else true

def plainBreaks : Nat → Cursor → Option (List Char) × Cursor
  | 0, c => (none, c)
  | fuel + 1, c =>
    if c.atMarker then (none, c)
    else
      let c := c.skipSpaces
      match c.rest with
      | b :: _ =>
        if isBreak b then
          let (more, last) := plainBreaks fuel c.next
          (more.map (breakChar b :: ·), last)
        else (some [], c)
      | [] => (some [], c)

structure Gap where
  text : Option (List Char)
  next : Cursor
  broken : Bool

def plainGap (c : Cursor) : Gap :=
  let spaces := c.rest.takeWhile (· = ' ')
  let after := c.advance spaces.length
  match after.rest with
  | b :: _ =>
    if isBreak b then
      let (more, last) := plainBreaks after.rest.length after.next
      ⟨more.map (folded b), last, true⟩
    else ⟨if spaces.isEmpty then none else some spaces, after, false⟩
  | [] => ⟨none, after, false⟩

def plain (flow : Bool) (least : Nat) : Nat → Cursor → List Char × Cursor × Bool
  | 0, c => ([], c, false)
  | fuel + 1, c =>
    let chunk := plainChunk flow c.rest
    let gap := plainGap (c.advance chunk.length)
    match gap.text with
    | none => (chunk, gap.next, gap.broken)
    | some spaces =>
      let stops := gap.next.rest.head? = some '#' || (!flow && gap.next.column < least)
        || (plainChunk flow gap.next.rest).isEmpty
      if stops then (chunk, gap.next, gap.broken)
      else
        let (more, last, broken) := plain flow least fuel gap.next
        (chunk ++ spaces ++ more, last, broken)

/-! ### Scalars in quotes -/

def quotedBreaks : Nat → Cursor → Except Fault (List Char × Cursor)
  | 0, _ => fail "the end of a quoted scalar"
  | fuel + 1, c =>
    if c.atMarker then fail "a document marker inside quotes"
    else
      let c := c.skipWhile isBlank
      match c.rest with
      | b :: _ =>
        if isBreak b then do
          let (more, last) ← quotedBreaks fuel c.next
          .ok (breakChar b :: more, last)
        else .ok ([], c)
      | [] => .ok ([], c)

def quotedGap (c : Cursor) : Except Fault (List Char × Cursor) :=
  let blanks := c.rest.takeWhile isBlank
  let after := c.advance blanks.length
  match after.rest with
  | [] => after.expected "the end of a quoted scalar"
  | b :: _ =>
    if isBreak b then do
      let (more, next) ← quotedBreaks (after.rest.length + 1) after.next
      .ok (folded b more, next)
    else .ok (blanks, after)

def shortEscapes : List (Char × Nat) :=
  [('0', 0), ('a', 7), ('b', 8), ('t', 9), ('\t', 9), ('n', 10), ('v', 11), ('f', 12), ('r', 13),
    ('e', 27), (' ', 32), ('"', 34), ('\\', 92), ('/', 47), ('N', 0x85), ('_', 0xa0), ('L', 0x2028),
    ('P', 0x2029)]

def hexWidths : List (Char × Nat) := [('x', 2), ('u', 4), ('U', 8)]

def hexNumber? (width : Nat) (s : List Char) : Option Nat := do
  let digits ← (s.take width).mapM Text.Numeral.hexDigit?
  if digits.length = width then some (digits.foldl (fun n d => n * 16 + d) 0) else none

def escape (c : Cursor) : Except Fault (List Nat × Cursor) :=
  match c.rest with
  | [] => c.expected "an escape"
  | d :: rest =>
    match shortEscapes.lookup d, hexWidths.lookup d with
    | some n, _ => .ok ([n], c.next)
    | none, some width =>
      match hexNumber? width rest with
      | none => (c.next.skipWhile Text.Numeral.isHex).expected "hexadecimal digits"
      | some n =>
        if 0x7fffffff < n then .error .hugeCode
        else if 0x110000 ≤ n then .error .beyondUnicode
        else .ok ([n], c.advance (1 + width))
    | none, none =>
      if isBreak d then do
        let (breaks, next) ← quotedBreaks (c.rest.length + 1) c.next
        .ok (breaks.map Char.toNat, next)
      else fail "a known escape"

def quotedCodes (double : Bool) : Nat → Cursor → Except Fault (List Nat × Cursor)
  | 0, _ => fail "the end of a quoted scalar"
  | fuel + 1, c => do
    let follow (codes : List Nat) (next : Cursor) : Except Fault (List Nat × Cursor) := do
      let (more, last) ← quotedCodes double fuel next
      .ok (codes ++ more, last)
    match c.rest with
    | [] => c.expected "the end of a quoted scalar"
    | d :: rest =>
      if isSeparator d then
        let (gap, next) ← quotedGap c
        follow (gap.map Char.toNat) next
      else if double && d = '"' then .ok ([], c.next)
      else if double && d = '\\' then
        let (codes, next) ← escape c.next
        follow codes next
      else if !double && d = '\'' then
        if rest.head? = some '\'' then follow [d.toNat] (c.advance 2) else .ok ([], c.next)
      else follow [d.toNat] c.next

def quoted (c : Cursor) : Except Fault (List Nat × Cursor) :=
  quotedCodes (c.rest.head? = some '"') (c.rest.length + 1) c.next

/-! ### Scalars as blocks of lines -/

inductive Chomping where
  | clip
  | strip
  | keep
  deriving DecidableEq, Repr

structure BlockHeader where
  chomping : Chomping := .clip
  increment : Option Nat := none

def chomping? (c : Cursor) : Option Chomping :=
  match c.rest.head? with
  | some '+' => some .keep
  | some '-' => some .strip
  | _ => none

def increment (c : Cursor) : Except Fault (Option Nat × Cursor) :=
  match c.rest.head? with
  | some d =>
    if !d.isDigit then .ok (none, c)
    else if d = '0' then fail "an indentation from 1 to 9"
    else .ok (some (d.toNat - 48), c.next)
  | none => .ok (none, c)

def blockHeader (c : Cursor) : Except Fault (BlockHeader × Cursor) := do
  let (header, next) ← match chomping? c with
    | some chomping => do
      let (n, next) ← increment c.next
      pure ((⟨chomping, n⟩ : BlockHeader), next)
    | none => do
      let (n, next) ← increment c
      match n, chomping? next with
      | some _, some chomping => pure (⟨chomping, n⟩, next.next)
      | _, _ => pure (⟨.clip, n⟩, next)
  if spaced next.rest then .ok (header, ← next.endLine) else fail "the end of a line"

def Cursor.indentTo (column : Nat) (c : Cursor) : Cursor :=
  c.advance (min (c.rest.takeWhile (· = ' ')).length (column - c.column))

def blockBreaks (indent : Nat) : Nat → Cursor → List Char × Cursor
  | 0, c => ([], c)
  | fuel + 1, c =>
    let c := c.indentTo indent
    match c.rest with
    | b :: _ =>
      if isBreak b then
        let (more, last) := blockBreaks indent fuel c.next
        (breakChar b :: more, last)
      else ([], c)
    | [] => ([], c)

def blockMargin : Nat → Nat → Cursor → List Char × Nat × Cursor
  | 0, widest, c => ([], widest, c)
  | fuel + 1, widest, c =>
    let c := c.skipSpaces
    let widest := max widest c.column
    match c.rest with
    | b :: _ =>
      if isBreak b then
        let (more, widest, last) := blockMargin fuel widest c.next
        (breakChar b :: more, widest, last)
      else ([], widest, c)
    | [] => ([], widest, c)

structure BlockBody where
  text : List Char
  last : List Char
  breaks : List Char
  next : Cursor

def blockBody (isFolded : Bool) (indent : Nat) : Nat → List Char → Cursor → BlockBody
  | 0, breaks, c => ⟨[], [], breaks, c⟩
  | fuel + 1, breaks, c =>
    let inside (c : Cursor) : Bool := c.column = indent && !c.rest.isEmpty
    let isText (c : Cursor) : Bool := !c.rest.head?.any isBlank
    if inside c then
      let line := c.rest.takeWhile (!isBreak ·)
      let after := c.advance line.length
      let last := (after.rest.head?.map breakChar).toList
      let (more, next) := blockBreaks indent (after.rest.length + 1) after.next
      if inside next then
        let glue := if isFolded && last = ['\n'] && isText c && isText next
          then (if more.isEmpty then [' '] else []) else last
        let body := blockBody isFolded indent fuel more next
        { body with text := breaks ++ line ++ glue ++ body.text }
      else ⟨breaks ++ line, last, more, next⟩
    else ⟨[], [], breaks, c⟩

def block (outer : Int) (c : Cursor) : Except Fault (List Char × Cursor) := do
  let (header, start) ← blockHeader c.next
  let least := max 1 (outer + 1).toNat
  let fuel := start.rest.length + 1
  let (indent, breaks, first) := match header.increment with
    | some n =>
      let indent := least + n - 1
      let (breaks, first) := blockBreaks indent fuel start
      (indent, breaks, first)
    | none =>
      let (breaks, widest, first) := blockMargin fuel 0 start
      (max least widest, breaks, first)
  let body := blockBody (c.rest.head? = some '>') indent fuel breaks first
  let ending := match header.chomping with
    | .strip => []
    | .clip => body.last
    | .keep => body.last ++ body.breaks
  .ok (body.text ++ ending, body.next)

end IndentLint.Document.Yaml
