import IndentLint.Document.Yaml.Cursor
import IndentLint.Encoding.Stream

/-! The text of a YAML file as it comes in. A block with a character that no document may hold is
refused as a whole, but only when it is asked for. -/
namespace IndentLint.Document.Yaml

structure Supply where
  text : List Char
  fault : Option Fault := none

namespace Supply

def blockSize : Nat := 4096

def ofBlocks (fault : Option Fault) : List (List Char) → Supply
  | [] => ⟨[], fault⟩
  | b :: rest =>
    if b.all isAllowed then
      let more := ofBlocks fault rest
      { more with text := b ++ more.text }
    else ⟨[], some (.malformed "printable characters")⟩

def joinFirst (fault : Option Fault) : List (List Char) → List (List Char)
  | first :: second :: rest => (first ++ second) :: rest
  | [first] => if fault.isSome then [] else [first]
  | [] => []

def ofBytes (bytes : List UInt8) : Supply :=
  let found := Encoding.blocks blockSize bytes
  let fault := found.fault.map .undecodable
  ofBlocks fault (joinFirst fault found.blocks)

def cursor (s : Supply) : Cursor := { rest := s.text, ending := s.fault }

end Supply
end IndentLint.Document.Yaml
