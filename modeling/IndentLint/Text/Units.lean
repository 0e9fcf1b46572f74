/-! Texts from units of sixteen bits and from whole code points. -/
namespace IndentLint.Text

def isHighUnit (n : Nat) : Bool := 0xd800 ≤ n && n < 0xdc00

def isLowUnit (n : Nat) : Bool := 0xdc00 ≤ n && n < 0xe000

def pairCode (high low : Nat) : Nat := 0x10000 + (high - 0xd800) * 0x400 + (low - 0xdc00)

def joinPairs : List Nat → List Nat
  | n :: low :: rest =>
    if isHighUnit n && isLowUnit low then pairCode n low :: joinPairs rest
    else n :: joinPairs (low :: rest)
  | points => points

def isHalf (n : Nat) : Bool := isHighUnit n || isLowUnit n

def ofPoints? (points : List Nat) : Option (List Char) :=
  if points.any isHalf then none else some (points.map Char.ofNat)

end IndentLint.Text
