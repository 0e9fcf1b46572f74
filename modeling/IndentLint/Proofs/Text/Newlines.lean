import IndentLint.Text.Lines
import Mathlib.Data.List.Forall2

/-! Line ends. Where every CR stands before an LF, the lines of a text differ from those of the text with
unified newlines by a CR at their ends only. -/
namespace IndentLint.Text

def PairedCr (text : List Char) : Prop :=
  ∀ i < text.length, text[i]? = some '\r' → text[i + 1]? = some '\n'

instance decidablePairedCr (text : List Char) : Decidable (PairedCr text) :=
  inferInstanceAs (Decidable (∀ i < text.length, _))

theorem pairedCrTail {c : Char} {rest : List Char} (paired : PairedCr (c :: rest)) : PairedCr rest := by
  intro i within carriage
  have next := paired (i + 1) (by simpa using within)
  simpa using next (by simpa using carriage)

theorem pairedCrHead {rest : List Char} (paired : PairedCr ('\r' :: rest)) : rest.head? = some '\n' := by
  have next := paired 0 (by simp) rfl
  simpa [List.head?_eq_getElem?] using next

def Ended (line other : List Char) : Prop := other = line ∨ other = line ++ ['\r']

theorem endedCons {line other : List Char} (ended : Ended line other) (c : Char) :
    Ended (c :: line) (c :: other) := by
  rcases ended with rfl | rfl
  · exact .inl rfl
  · exact .inr rfl

/- Pieces of two texts. The last piece has no end, and so no CR of it. -/
inductive Pieces : List (List Char) → List (List Char) → Prop where
  | last (piece : List Char) : Pieces [piece] [piece]
  | cons {piece other pieces others} (first : Ended piece other) (rest : Pieces pieces others) :
      Pieces (piece :: pieces) (other :: others)

theorem splitOnOther {sep c : Char} (other : c ≠ sep) {rest piece : List Char}
    {pieces : List (List Char)} (split : splitOn sep rest = piece :: pieces) :
    splitOn sep (c :: rest) = (c :: piece) :: pieces := by
  rw [splitOn, if_neg other, split]

theorem splitOnSep (sep : Char) (rest : List Char) : splitOn sep (sep :: rest) = [] :: splitOn sep rest := by
  rw [splitOn, if_pos rfl]

theorem piecesCons {c : Char} (plain : c ≠ '\n') {text other : List Char}
    (same : Pieces (splitOn '\n' text) (splitOn '\n' other)) :
    Pieces (splitOn '\n' (c :: text)) (splitOn '\n' (c :: other)) := by
  generalize first : splitOn '\n' text = pieces, second : splitOn '\n' other = others at same
  cases same with
  | last piece =>
    rw [splitOnOther plain first, splitOnOther plain second]
    exact .last (c :: piece)
  | cons ended rest =>
    rw [splitOnOther plain first, splitOnOther plain second]
    exact .cons (endedCons ended c) rest

theorem piecesUnified {text : List Char} (paired : PairedCr text) :
    Pieces (splitOn '\n' (unifyNewlines text)) (splitOn '\n' text) := by
  fun_induction unifyNewlines text with
  | case1 => exact .last []
  | case2 rest ih =>
    have behind := ih (pairedCrTail (pairedCrTail paired))
    rw [splitOnSep, splitOnOther (by decide) (splitOnSep '\n' rest)]
    exact .cons (.inr rfl) behind
  | case3 c rest alone ih =>
    have behind := ih (pairedCrTail paired)
    have plain : c ≠ '\r' := by
      rintro rfl
      obtain ⟨after, split⟩ := List.head?_eq_some_iff.mp (pairedCrHead paired)
      exact alone after rfl split
    rw [if_neg plain]
    by_cases ends : c = '\n'
    · subst ends
      rw [splitOnSep, splitOnSep]
      exact .cons (.inl rfl) behind
    · exact piecesCons ends behind

def linesOf (pieces : List (List Char)) : List (List Char) :=
  if pieces.getLast? = some [] then pieces.dropLast else pieces

theorem linesOfSplit (text : List Char) : lines text = linesOf (splitOn '\n' text) := rfl

theorem linesOfCons (first : List Char) {pieces : List (List Char)} (more : pieces ≠ []) :
    linesOf (first :: pieces) = first :: linesOf pieces := by
  have last : (first :: pieces).getLast? = pieces.getLast? := List.getLast?_cons_of_ne_nil more
  rw [linesOf, linesOf, last, List.dropLast_cons_of_ne_nil more]
  split <;> rfl

theorem piecesNonempty {pieces others : List (List Char)} (same : Pieces pieces others) :
    pieces ≠ [] ∧ others ≠ [] := by
  cases same <;> simp

theorem piecesLines {pieces others : List (List Char)} (same : Pieces pieces others) :
    List.Forall₂ Ended (linesOf pieces) (linesOf others) := by
  induction same with
  | last piece => exact List.forall₂_same.mpr fun _ _ => .inl rfl
  | cons first rest ih =>
    obtain ⟨more, others⟩ := piecesNonempty rest
    rw [linesOfCons _ more, linesOfCons _ others]
    exact .cons first ih

theorem linesUnified {text : List Char} (paired : PairedCr text) :
    List.Forall₂ Ended (lines (unifyNewlines text)) (lines text) := by
  rw [linesOfSplit, linesOfSplit]
  exact piecesLines (piecesUnified paired)

end IndentLint.Text
