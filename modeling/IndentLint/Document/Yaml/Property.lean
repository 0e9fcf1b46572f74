import IndentLint.Document.Yaml.Cursor
import IndentLint.Encoding
import IndentLint.Text.Numeral

/-! Anchors, tags and directives as they stand in a YAML text. -/
namespace IndentLint.Document.Yaml

def isNameChar (c : Char) : Bool := c.isAlphanum || c = '-' || c = '_'

def anchorName (c : Cursor) : Except Fault (List Char × Cursor) :=
  let name := c.next.rest.takeWhile isNameChar
  let next := c.next.advance name.length
  let ends := next.rest.head?.all fun d => isSeparator d || "?:,]\x7d%@\x60".contains d
  if name.isEmpty || !ends then next.expected "the name of an anchor" else .ok (name, next)

structure TagText where
  handle : Option (List Char)
  suffix : List Char
  deriving DecidableEq, Repr

def isTagChar (c : Char) : Bool := c.isAlphanum || "-;/?:@&=+$,_.!~*'()[]".contains c

def hexPair? : List Char → Option Nat
  | a :: b :: _ => do some ((← Text.Numeral.hexDigit? a) * 16 + (← Text.Numeral.hexDigit? b))
  | _ => none

def tagBytes : Nat → Cursor → Except Fault (List UInt8 × Cursor)
  | 0, c => .ok ([], c)
  | fuel + 1, c =>
    if c.rest.head? = some '%' then
      match hexPair? c.next.rest with
      | none => (c.next.skipWhile Text.Numeral.isHex).expected "two hexadecimal digits"
      | some n => do
        let (more, last) ← tagBytes fuel (c.advance 3)
        .ok (n.toUInt8 :: more, last)
    else .ok ([], c)

def tagChars : Nat → Cursor → Except Fault (List Char × Cursor)
  | 0, c => .ok ([], c)
  | fuel + 1, c =>
    let chars := c.rest.takeWhile isTagChar
    let after := c.advance chars.length
    if after.rest.head? = some '%' then do
      let (bytes, next) ← tagBytes (after.rest.length + 1) after
      match Encoding.decodeUtf8 bytes with
      | .error _ => next.expected "bytes of a text"
      | .ok decoded => do
        let (more, last) ← tagChars fuel next
        .ok (chars ++ decoded ++ more, last)
    else .ok (chars, after)

def tagPart (c : Cursor) : Except Fault (List Char × Cursor) := do
  let (chars, next) ← tagChars (c.rest.length + 1) c
  if chars.isEmpty then next.expected "a tag" else .ok (chars, next)

def tagHandle (c : Cursor) : Except Fault (List Char × Cursor) :=
  match c.rest with
  | '!' :: ' ' :: _ => .ok (['!'], c.next)
  | '!' :: rest =>
    let name := rest.takeWhile isNameChar
    if (rest.drop name.length).head? = some '!' then
      .ok ('!' :: name ++ ['!'], c.advance (name.length + 2))
    else (c.advance (name.length + 1)).expected "a second exclamation mark"
  | _ => c.expected "an exclamation mark"

def tag (c : Cursor) : Except Fault (TagText × Cursor) := do
  let after := c.next
  let (text, next) ←
    if after.rest.head? = some '<' then do
      let (suffix, next) ← tagPart after.next
      if next.rest.head? = some '>' then pure (⟨none, suffix⟩, next.next)
      else next.expected "an angle bracket"
    else if separated after.rest then pure ((⟨none, ['!']⟩ : TagText), after)
    else do
      let hasHandle := (after.rest.takeWhile fun d => !(d = ' ' || isBreak d)).contains '!'
      let (handle, start) ← if hasHandle then tagHandle c else pure (['!'], after)
      let (suffix, next) ← tagPart start
      pure (⟨some handle, suffix⟩, next)
  if spaced next.rest then .ok (text, next) else fail "the end of a tag"

inductive Directive where
  | version (major : Nat)
  | tag (handle expansion : List Char)
  | other
  deriving DecidableEq, Repr

def versionNumber (c : Cursor) : Except Fault (Nat × Cursor) :=
  let digits := c.rest.takeWhile Char.isDigit
  let next := c.advance digits.length
  if digits.isEmpty then c.expected "a version"
  else if Text.Numeral.maxDigits < digits.length then next.refuse (.longNumeral digits.length)
  else .ok (digits.foldl (fun n d => n * 10 + (d.toNat - 48)) 0, next)

def directiveValue (name : String) (c : Cursor) : Except Fault (Directive × Cursor) := do
  if name = "YAML" then
    let (major, next) ← versionNumber c.skipSpaces
    if next.rest.head? ≠ some '.' then next.expected "a point"
    let (_, next) ← versionNumber next.next
    if spaced next.rest then .ok (.version major, next) else fail "the end of a version"
  else if name = "TAG" then
    let (handle, next) ← tagHandle c.skipSpaces
    if next.rest.head? ≠ some ' ' then next.expected "a space"
    let (expansion, next) ← tagPart next.skipSpaces
    if spaced next.rest then .ok (.tag handle expansion, next) else fail "the end of a tag"
  else .ok (.other, c.skipWhile (!isBreak ·))

def directive (c : Cursor) : Except Fault (Directive × Cursor) := do
  let name := c.next.rest.takeWhile isNameChar
  let after := c.next.advance name.length
  if name.isEmpty || !spaced after.rest then after.expected "the name of a directive"
  let (d, next) ← directiveValue (String.ofList name) after
  .ok (d, ← next.endLine)

end IndentLint.Document.Yaml
