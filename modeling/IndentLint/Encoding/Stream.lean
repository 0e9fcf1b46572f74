import IndentLint.Encoding
import IndentLint.Text.Lines

/-! UTF-8 read piece by piece. Bytes come in chunks and characters leave in blocks, with one
newline for every line end. A fault is placed in the chunk that it is met in, and what was read
before that chunk stays readable. -/
namespace IndentLint.Encoding

structure Stream where
  bytes : List UInt8
  held : List UInt8 := []
  halfEnd : Bool := false
  ready : List Char := []
  weight : Nat × Nat := (0, 0)

namespace Stream

def leastChunk : Nat := 8192

/-- The characters of some bytes. A character that they do not finish is left over, unless nothing
can follow them. -/
def split (final : Bool) (data : List UInt8) : Except DecodeFault (List Char × List UInt8) :=
  match decodeUtf8 data with
  | .ok chars => .ok (chars, [])
  | .error fault =>
    match fault.unfinished? with
    | some start =>
      if final then .error fault
      else return (← decodeUtf8 (data.take start), data.drop start)
    | none => .error fault

def chunkSize (s : Stream) (wanted : Nat) : Nat :=
  max leastChunk (s.weight.1 * wanted / s.weight.2)

def readChunk (wanted : Nat) (s : Stream) : Except DecodeFault Stream := do
  let size := s.chunkSize wanted
  let chunk := s.bytes.take size
  let final := chunk.isEmpty
  let (chars, held) ← split final (s.held ++ chunk)
  let resumed := s.halfEnd && (final || !chars.isEmpty)
  let chars := if resumed then '\r' :: chars else chars
  let cut := !final && chars.getLast? = some '\r'
  let chars := Text.unifyNewlines (if cut then chars.dropLast else chars)
  .ok { bytes := s.bytes.drop size, held, halfEnd := cut || (s.halfEnd && !resumed)
        ready := s.ready ++ chars, weight := (chunk.length, chars.length) }

def fill (n : Nat) : Nat → Stream → Except DecodeFault Stream
  | 0, s => .ok s
  | fuel + 1, s =>
    if n ≤ s.ready.length then .ok s
    else do
      let next ← s.readChunk (n - s.ready.length)
      if s.bytes.isEmpty && next.ready.length = s.ready.length then .ok next else fill n fuel next

structure Blocks where
  blocks : List (List Char)
  fault : Option DecodeFault

def blocksFrom (n : Nat) : Nat → Stream → Blocks
  | 0, _ => ⟨[], none⟩
  | fuel + 1, s =>
    match s.fill n (s.bytes.length + 2) with
    | .error fault => ⟨[], some fault⟩
    | .ok s =>
      if s.ready.isEmpty then ⟨[], none⟩
      else
        let more := blocksFrom n fuel { s with ready := s.ready.drop n }
        { more with blocks := s.ready.take n :: more.blocks }

end Stream

def blocks (n : Nat) (bytes : List UInt8) : Stream.Blocks :=
  Stream.blocksFrom n (bytes.length + 1) { bytes }

end IndentLint.Encoding
