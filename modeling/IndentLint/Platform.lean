import IndentLint.Document.Json.Reader
import IndentLint.Document.Unusable
import IndentLint.Document.Yaml.Reader
import IndentLint.Document.Yaml.Writer
import IndentLint.Source.Tab

/-! What the program runs on: the codecs that are known by name, a library for YAML, and two limits
of the machine. The stack has room for `depth` levels of JSON inside each other, and a tab of at most
`room` columns can be stored. `Platform.usual` has the codecs and the library that are written out
here, and the limits of an ordinary machine. -/
namespace IndentLint

open Document (Value)

structure Platform where
  codecs : Codecs
  readYaml : List UInt8 → Except Document.Fault Value
  writeYaml : Value → Except Unusable String
  depth : Nat
  room : Nat

def Platform.usual : Platform where
  codecs := .written
  readYaml := Document.Yaml.read
  writeYaml v :=
    if v.isShowable then .ok (Document.Yaml.write (v.entries?.getD [])) else .error .tooLong
  depth := Document.Json.usualDepth
  room := Source.usualRoom

/-- In which order tasks that run side by side come to an end, whatever their number. -/
structure Schedule where
  order : Nat → List Nat
  complete : ∀ n, (order n).Perm (List.range n)

def Schedule.inTurn : Schedule := ⟨List.range, fun _ => .refl _⟩

end IndentLint
