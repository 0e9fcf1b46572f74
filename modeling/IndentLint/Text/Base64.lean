/-! Bytes written with sixty-four characters. Characters that have no place in it are passed
over. -/
namespace IndentLint.Text.Base64

def bits? (c : Char) : Option Nat :=
  if c.isUpper then some (c.toNat - 65)
  else if c.isLower then some (c.toNat - 71)
  else if c.isDigit then some (c.toNat + 4)
  else if c = '+' then some 62
  else if c = '/' then some 63
  else none

/-- Decodes from place `place` of a group of four, with the bits `left` over from the character
before and `pads` equals signs right before. Nothing is read after a group has been filled up. -/
def decodeFrom (place left pads : Nat) : List Char → Option (List UInt8)
  | [] => if place = 0 then some [] else none
  | c :: rest =>
    if c = '=' then
      if place < 2 then decodeFrom place left pads rest
      else if 4 ≤ place + pads + 1 then some []
      else decodeFrom place left (pads + 1) rest
    else match bits? c with
      | none => decodeFrom place left pads rest
      | some n =>
        match place with
        | 0 => decodeFrom 1 n 0 rest
        | 1 => (decodeFrom 2 (n % 16) 0 rest).map ((left * 4 + n / 16).toUInt8 :: ·)
        | 2 => (decodeFrom 3 (n % 4) 0 rest).map ((left * 16 + n / 4).toUInt8 :: ·)
        | _ => (decodeFrom 0 0 0 rest).map ((left * 64 + n).toUInt8 :: ·)

def decode? (s : List Char) : Option (List UInt8) := decodeFrom 0 0 0 s

end IndentLint.Text.Base64
