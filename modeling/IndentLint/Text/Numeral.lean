import IndentLint.Text.Blank

/-! Whole numbers in decimal. Writing uses the ASCII digits; reading takes the decimal digits of
every script, a sign, single underscores between digits and blanks around the number. -/
namespace IndentLint.Text.Numeral

def digitChar (n : Nat) : Char := Char.ofNat (48 + n % 10)

def digits (n : Nat) : List Char :=
  if n < 10 then [digitChar n] else digits (n / 10) ++ [digitChar n]
termination_by n
decreasing_by omega

def write : Int → List Char
  | .ofNat n => digits n
  | .negSucc n => '-' :: digits (n + 1)

def zeros : List Nat :=
  [
    0x660, 0x6f0, 0x7c0, 0x966, 0x9e6, 0xa66, 0xae6, 0xb66, 0xbe6, 0xc66,
    0xce6, 0xd66, 0xde6, 0xe50, 0xed0, 0xf20, 0x1040, 0x1090, 0x17e0, 0x1810,
    0x1946, 0x19d0, 0x1a80, 0x1a90, 0x1b50, 0x1bb0, 0x1c40, 0x1c50, 0xa620, 0xa8d0,
    0xa900, 0xa9d0, 0xa9f0, 0xaa50, 0xabf0, 0xff10, 0x104a0, 0x10d30, 0x11066, 0x110f0,
    0x11136, 0x111d0, 0x112f0, 0x11450, 0x114d0, 0x11650, 0x116c0, 0x11730, 0x118e0, 0x11950,
    0x11c50, 0x11d50, 0x11da0, 0x16a60, 0x16ac0, 0x16b50, 0x1d7ce, 0x1d7d8, 0x1d7e2, 0x1d7ec,
    0x1d7f6, 0x1e140, 0x1e2f0, 0x1e950, 0x1fbf0
  ]

def digitValue? (c : Char) : Option Nat :=
  if c.isDigit then some (c.toNat - 48)
  else (zeros.find? fun z => z ≤ c.toNat && c.toNat ≤ z + 9).map (c.toNat - ·)

def hexDigit? (c : Char) : Option Nat :=
  if c.isDigit then some (c.toNat - 48)
  else if 'a' ≤ c && c ≤ 'f' then some (c.toNat - 87)
  else if 'A' ≤ c && c ≤ 'F' then some (c.toNat - 55)
  else none

def isHex (c : Char) : Bool := (hexDigit? c).isSome

def isPadding (c : Char) : Bool := Text.isBlank c && !(0x1c ≤ c.toNat && c.toNat ≤ 0x1f)

def digitRun? : List Char → Option (List Nat)
  | [] => none
  | [c] => (digitValue? c).map ([·])
  | c :: '_' :: d :: rest => do
    let n ← digitValue? c
    let ns ← digitRun? (d :: rest)
    some (n :: ns)
  | c :: d :: rest => do
    let n ← digitValue? c
    let ns ← digitRun? (d :: rest)
    some (n :: ns)

def ofDigits (base : Nat) (ds : List Nat) : Nat := ds.foldl (fun n d => n * base + d) 0

def splitSign : List Char → Bool × List Char
  | '-' :: rest => (true, rest)
  | '+' :: rest => (false, rest)
  | s => (false, s)

def ofSigned? (s : List Char) : Option Int := do
  let (negative, rest) := splitSign s
  let ds ← rest.mapM digitValue?
  if ds.isEmpty then none
  else some (if negative then -(ofDigits 10 ds : Int) else ofDigits 10 ds)

def maxDigits : Nat := 4300

def isShowable (n : Int) : Bool := n.natAbs < Nat.pow 10 maxDigits

def readUnsigned? (s : List Char) : Option Nat := do
  let ds ← digitRun? s
  if ds.length ≤ maxDigits then some (ofDigits 10 ds) else none

def read? (s : List Char) : Option Int :=
  match dropEndWhile isPadding (s.dropWhile isPadding) with
  | '-' :: rest => (readUnsigned? rest).map fun n => -(n : Int)
  | '+' :: rest => (readUnsigned? rest).map Int.ofNat
  | s => (readUnsigned? s).map Int.ofNat

def digitIn? (base : Nat) (c : Char) : Option Nat :=
  ((digitValue? c).or (hexDigit? c)).filter (· < base)

def baseLetter? (base : Nat) : Option Char :=
  if base = 2 then some 'b' else if base = 8 then some 'o' else if base = 16 then some 'x' else none

def digitsIn? (base : Nat) (s : List Char) : Option (Bool × List Nat) := do
  let (negative, body) := splitSign (dropEndWhile isPadding (s.dropWhile isPadding))
  let body := match body with
    | '0' :: letter :: rest => if some letter.toLower = baseLetter? base then rest else body
    | _ => body
  let ds ← body.mapM (digitIn? base)
  if ds.isEmpty then none else some (negative, ds)

end IndentLint.Text.Numeral
