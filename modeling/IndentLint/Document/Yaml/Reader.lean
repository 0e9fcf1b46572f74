import IndentLint.Document.Yaml.Building

/-! Reading YAML 1.1. -/
namespace IndentLint.Document.Yaml

def read (bytes : List UInt8) : Except Fault Value := do
  match ← compose (.ofBytes bytes) with
  | (none, _) => .ok .null
  | (some root, nodes) => build nodes root

end IndentLint.Document.Yaml
