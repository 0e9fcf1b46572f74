/-! Sets of characters given by spans of code points. -/
namespace IndentLint.Text

abbrev Span := Nat × Nat

def Span.holds (s : Span) (c : Char) : Bool := s.1 ≤ c.toNat && c.toNat ≤ s.2

def inSpans (spans : List Span) (c : Char) : Bool := spans.any (·.holds c)

end IndentLint.Text
