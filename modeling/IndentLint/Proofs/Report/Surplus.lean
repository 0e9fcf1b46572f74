import IndentLint.Proofs.Except
import IndentLint.Proofs.Report.Highlights
import IndentLint.Proofs.Source.Noise

/-! What is marked of a line that is indented too much. A mark is made of whole characters, so it holds those that
begin at the target or behind it. A tab that begins before the target is left out, however far it reaches, and
when the indentation ends in one there is nothing to mark. -/
namespace IndentLint
open Layout (Target)
open Report (Assessment Direction)
open Source (Line charWidth isTerminator width)

def EndsAstride (tab : Nat) (raw : List Char) (stop : Nat) (column : Int) : Prop :=
  ∃ i, stop = i + 1 ∧ raw[i]? = some '\t' ∧ width tab (raw.take i) < column ∧ column < width tab (raw.take stop)

structure SurplusMarked (tab : Nat) (raw : List Char) (a : Assessment Int) : Prop where
  order : a.start ≤ a.stop
  surplus : a.expected < width tab (raw.take a.stop)
  marked : ∀ i < a.stop, a.start ≤ i ↔ a.expected ≤ width tab (raw.take i)
  shows : a.start < a.stop ↔ ¬ EndsAstride tab raw a.stop a.expected

theorem widthNext (tab : Nat) {raw : List Char} {i : Nat} {c : Char} (here : raw[i]? = some c) :
    width tab (raw.take (i + 1)) = width tab (raw.take i) + charWidth tab c := by
  rw [List.take_add_one, here, Option.toList_some, Source.widthAppend]
  rfl

theorem jumpedAstride {tab : Nat} {raw : List Char} {i : Nat} {column : Int} (there : i < raw.length)
    (begins : width tab (raw.take i) < column) (ends : column < width tab (raw.take (i + 1))) :
    EndsAstride tab raw (i + 1) column := by
  have here := List.getElem?_eq_getElem there
  have next := widthNext tab here
  have wide : charWidth tab raw[i] ≠ 1 := by omega
  have isTab : raw[i] = '\t' := by
    by_contra notTab
    exact wide (Source.charWidthOne tab notTab)
  exact ⟨i, rfl, by rw [here, isTab], begins, ends⟩

theorem overBeyond {columns : Nat} {target : Target Int} (deviates : Report.direction columns target = .over) :
    target.width < columns := by
  unfold Report.direction at deviates
  cases found : Layout.Width.compare columns target.width with
  | lt => simp [found] at deviates
  | eq => simp [found] at deviates
  | gt => exact Int.compare_eq_gt.mp found

theorem surplusMarked {tab : Nat} {inside : Bool} {raw : List Char} {a : Assessment Int}
    (highlighted : Highlighted tab inside raw a) (deviates : a.status = .over) (nonneg : 0 ≤ a.expected)
    (beyond : a.expected < a.detected) : SurplusMarked tab raw a := by
  have reached := highlighted.reached deviates
  have least := highlighted.least deviates
  have order := highlighted.order
  have surplus : a.expected < width tab (raw.take a.stop) := by
    rw [highlighted.detected]
    exact beyond
  have marked : ∀ i < a.stop, a.start ≤ i ↔ a.expected ≤ width tab (raw.take i) := by
    intro i left
    constructor
    · intro within
      have front := Source.widthFront tab (List.take_prefix_take_left (l := raw) within)
      omega
    · intro enough
      by_contra before
      have short := least i (Nat.lt_of_not_le before)
      omega
  refine ⟨order, surplus, marked, ?_⟩
  constructor
  · rintro some ⟨i, last, -, begins, -⟩
    have within := (marked i (by omega)).mp (by omega)
    omega
  · intro apart
    by_contra none
    -- With nothing marked, the last character before the mark begins left of the target and ends right of it.
    have whole : a.stop ≠ 0 := by
      intro empty
      rw [empty, List.take_zero, width] at surplus
      omega
    obtain ⟨i, last⟩ := Nat.exists_eq_add_one_of_ne_zero whole
    have within := highlighted.within
    rw [last] at surplus
    exact apart (last ▸ jumpedAstride (by omega) (least i (by omega)) surplus)

theorem surplusMarkedUnlessAstride (o : Options) (texts : List (List Char)) :
    ∀ a ∈ (analyze o texts).assessments, a.status = .over → ∃ text, texts[a.index]? = some text ∧
      SurplusMarked o.tabWidth (Text.dropEndWhile isTerminator text) a := by
  intro a mem deviates
  obtain ⟨last, target, text, found, assessed, checkable, nonneg⟩ := assessedRead mem
  have visible := Source.readFirst o.tabWidth_pos _ _ _ (Source.checkableVisible checkable)
  have highlighted := assessHighlighted o.tabWidth_pos rfl visible nonneg last
  rw [assessed] at deviates
  have marked := surplusMarked highlighted deviates nonneg (overBeyond deviates)
  rw [← assessed] at marked
  exact ⟨text, found, marked⟩

def spacedTexts : List (List Char) := ["a \x7b".toList, "\t b;".toList, "\x7d".toList]

theorem spacedSurplusMarked : ∃ o, Options.of (some 2) 4 true = .ok o ∧
    let a : Assessment Int := ⟨1, .over, 5, 2, 1, 2, true⟩
    a ∈ (analyze o spacedTexts).assessments ∧ SurplusMarked o.tabWidth "\t b;".toList a := by
  obtain ⟨o, taken, mem⟩ : ∃ o, Options.of (some 2) 4 true = .ok o ∧
      decide (⟨1, .over, 5, 2, 1, 2, true⟩ ∈ (analyze o spacedTexts).assessments) = true :=
    okHolds (by decide)
  have mem := of_decide_eq_true mem
  obtain ⟨text, found, marked⟩ := surplusMarkedUnlessAstride o spacedTexts _ mem rfl
  cases Option.some.inj found
  exact ⟨o, taken, mem, marked⟩

/- Without the space there is a surplus of two columns, and no character is marked. -/
theorem astrideSurplusUnmarked : ∃ o, Options.of (some 2) 4 true = .ok o ∧
    let a : Assessment Int := ⟨1, .over, 4, 2, 1, 1, true⟩
    a ∈ (analyze o ["a \x7b".toList, "\tb;".toList, "\x7d".toList]).assessments ∧
      a.status = .over ∧ a.expected < a.detected ∧ ¬ a.start < a.stop :=
  ⟨_, rfl, by decide⟩

end IndentLint
