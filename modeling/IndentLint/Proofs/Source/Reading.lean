import IndentLint.Source.Line

/-! Reading lines in turn. What is read later depends on what was read before it through the open
comment and the number of lines only. -/
namespace IndentLint.Source

theorem readIndex (tab : Nat) (inside : Bool) (index : Nat) (text : List Char) :
    (Line.read tab inside index text).1.index = index := rfl

theorem readFromCons (tab : Nat) (inside : Bool) (index : Nat) (text : List Char)
    (rest : List (List Char)) :
    (Line.readFrom tab inside index (text :: rest)).1 = (Line.read tab inside index text).1 ::
      (Line.readFrom tab (Line.read tab inside index text).2 (index + 1) rest).1 := rfl

theorem readFromAppend (tab : Nat) (inside : Bool) (index : Nat) (texts more : List (List Char)) :
    (Line.readFrom tab inside index (texts ++ more)).1 =
      (Line.readFrom tab inside index texts).1 ++
        (Line.readFrom tab (Line.readFrom tab inside index texts).2 (index + texts.length) more).1 := by
  induction texts generalizing inside index with
  | nil => rfl
  | cons text rest ih =>
    rw [List.cons_append, readFromCons, ih, readFromCons, List.length_cons, Nat.add_assoc,
      Nat.add_comm 1]
    rfl

def Line.renumber (f : Nat → Nat) (line : Line) : Line := { line with index := f line.index }

theorem renumberedSame {f : Nat → Nat} {lines : List Line} (same : ∀ line ∈ lines, f line.index = line.index) :
    lines.map (Line.renumber f) = lines := by
  have each : ∀ line ∈ lines, line.renumber f = line := by
    intro line mem
    rw [Line.renumber, same line mem]
  rw [List.map_congr_left each, List.map_id']

theorem readFromRenumbered (tab : Nat) (inside : Bool) {index other : Nat} {f : Nat → Nat}
    (counts : ∀ i, f (index + i) = other + i) (texts : List (List Char)) :
    (Line.readFrom tab inside other texts).1 =
      (Line.readFrom tab inside index texts).1.map (Line.renumber f) := by
  induction texts generalizing inside index other with
  | nil => rfl
  | cons text rest ih =>
    have next : ∀ i, f (index + 1 + i) = other + 1 + i := by
      intro i
      rw [Nat.add_assoc, counts, Nat.add_assoc]
    have first : (Line.read tab inside other text).1 =
        (Line.read tab inside index text).1.renumber f := by
      rw [Line.renumber, readIndex, ← Nat.add_zero index, counts]
      rfl
    rw [readFromCons, readFromCons, List.map_cons, first, ← ih _ next]
    rfl

end IndentLint.Source
