import IndentLint.Proofs.Source.Noise
import IndentLint.Source.Tab

/-! Tabs that are expanded. Lines at the end leave those before them expanded, and spaces in the place of an
indentation bring none. -/
namespace IndentLint.Source

theorem expandsAppend {inside : Bool} {texts : List (List Char)} (expands : expandsTab inside texts = true)
    (more : List (List Char)) : expandsTab inside (texts ++ more) = true := by
  induction texts generalizing inside with
  | nil => contradiction
  | cons text rest ih =>
    simp only [List.cons_append, expandsTab, Bool.or_eq_true] at expands ⊢
    exact expands.imp_right ih

def expandsIn (inside : Bool) (raw : List Char) : Bool :=
  (scan 1 (.ofComment inside) raw).1.length != (scan 2 (.ofComment inside) raw).1.length

theorem expandsCons (tab : Nat) (inside : Bool) (index : Nat) (text : List Char) (rest : List (List Char)) :
    expandsTab inside (text :: rest) = (expandsIn inside (Text.dropEndWhile isTerminator text) ||
      expandsTab (Line.read tab inside index text).2 rest) := by
  have opens : (scan 1 (.ofComment inside) (Text.dropEndWhile isTerminator text)).2 =
      (Line.read tab inside index text).2 :=
    (scanOpens 1 _ (quotedInside inside)).trans (scanOpens tab _ (quotedInside inside)).symm
  simp only [expandsTab, expandsIn, opens]

theorem expandsIndented {inside : Bool} {lead body : List Char} (blank : Indentation lead) {n : Nat}
    (expands : expandsIn inside (List.replicate n ' ' ++ body) = true) :
    expandsIn inside (lead ++ body) = true := by
  have narrower : (1 : Nat) ≤ 2 := by decide
  have wider := widthNarrower narrower lead
  have longer := scanNarrower narrower body (quotedInside inside)
  simp only [expandsIn, bne_iff_ne, scanIndentation _ inside blank,
    scanIndentation _ inside (indentationSpaces n), padLength, widthSpaces] at expands ⊢
  omega

end IndentLint.Source
