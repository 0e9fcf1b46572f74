import IndentLint.Text.Printable

/-! Texts in quotes, as messages show them. The quote is `'` unless the text has a `'` and no
`"`; characters without a visible form are written by their code point. -/
namespace IndentLint.Text.Quoted

def hexDigit (n : Nat) : Char :=
  if n % 16 < 10 then Char.ofNat (48 + n % 16) else Char.ofNat (87 + n % 16)

def hex (width n : Nat) : List Char :=
  match width with
  | 0 => []
  | w + 1 => hex w (n / 16) ++ [hexDigit n]

def delimiter (s : List Char) : Char :=
  if s.contains '\'' && !s.contains '"' then '"' else '\''

def escape (quote c : Char) : List Char :=
  if c = quote || c = '\\' then ['\\', c]
  else if c = '\t' then ['\\', 't']
  else if c = '\n' then ['\\', 'n']
  else if c = '\r' then ['\\', 'r']
  else if isPrintable c then [c]
  else if c.toNat < 0x100 then '\\' :: 'x' :: hex 2 c.toNat
  else if c.toNat < 0x10000 then '\\' :: 'u' :: hex 4 c.toNat
  else '\\' :: 'U' :: hex 8 c.toNat

def encode (s : List Char) : List Char :=
  let quote := delimiter s
  quote :: s.flatMap (escape quote) ++ [quote]

end IndentLint.Text.Quoted

namespace IndentLint.Text

def quoted (s : String) : String := String.ofList (Quoted.encode s.toList)

end IndentLint.Text
