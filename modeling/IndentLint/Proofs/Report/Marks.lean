import IndentLint.Analysis
import IndentLint.Proofs.Source.Baseline

/-! What a report takes from a line: its index, its visible text, and the offsets of the columns up to the
visible text. It looks at no other column, since a line is marked from a target that it has passed. -/
namespace IndentLint
open Layout (Tracker Target Width)
open Number (Quantity)
open Report (Assessment Direction)
open Source (Line)

namespace Source

structure Marked (line other : Line) : Prop where
  index : other.index = line.index
  visible : other.visible = line.visible
  offset : ∀ column ≤ (line.indent : Int), other.offset column = line.offset column

section
variable {lines others : List Line} (marked : List.Forall₂ Marked lines others)
include marked

theorem visibleMarked : List.Forall₂ SameVisible lines others := marked.imp fun _ _ same => same.visible

theorem hasBlockMarked : hasBlock others = hasBlock lines :=
  hasBlockShifted ((visibleMarked marked).imp fun _ _ => shiftedSame)

end
end Source

/- The column of a width lies within the columns that go beyond the width. -/
def ColumnsReach (α : Type) [Width α] : Prop :=
  ∀ (columns : Nat) (width : α), Width.compare columns width = .gt → Width.column width ≤ columns

theorem columnsReach : ColumnsReach Int := fun _ _ beyond => Int.le_of_lt (Int.compare_eq_gt.mp beyond)

theorem ceilReaches {columns : Nat} {width : Quantity} (beyond : width.isBelow (.whole columns) = true) :
    width.ceil ≤ columns := by
  unfold Quantity.ceil
  cases exact : width.fraction? with
  | none => exact Int.natCast_nonneg columns
  | some fraction =>
    obtain ⟨n, d⟩ := fraction
    have whole : (Quantity.whole columns).fraction? = some ((columns : Int), 1) := rfl
    have below : n < columns * d := by
      simpa only [Quantity.isBelow, exact, whole, Int.natCast_one, Int.mul_one, decide_eq_true_eq] using beyond
    have rounded : -(columns : Int) ≤ Int.fdiv (-n) d := by
      rw [Int.fdiv_eq_ediv_of_nonneg _ (Int.natCast_nonneg d)]
      by_cases none : d = 0
      · simp [none]
      · apply (Int.le_ediv_iff_mul_le (by omega)).mpr
        rw [Int.neg_mul]
        omega
    change -(Int.fdiv (-n) d) ≤ columns
    omega

theorem quantityColumnsReach : ColumnsReach Quantity := by
  intro columns width beyond
  change (if width.isBelow (.whole columns) then Ordering.gt
    else if Quantity.isBelow (.whole columns) width then .lt else .eq) = .gt at beyond
  apply ceilReaches
  by_contra within
  rw [if_neg within] at beyond
  split at beyond
  · contradiction
  · contradiction

section
variable {α : Type} [Width α] (reach : ColumnsReach α)
include reach

theorem overReaches {columns : Nat} {target : Target α} (deviates : Report.direction columns target = .over) :
    Width.column target.width ≤ columns := by
  unfold Report.direction at deviates
  cases found : Width.compare columns target.width with
  | lt => simp [found] at deviates
  | eq => simp [found] at deviates
  | gt => exact reach _ _ found

theorem highlightMarked {line other : Line} (marked : Source.Marked line other) {target : Target α}
    {direction : Direction} (deviates : Report.direction line.indent target = direction) :
    Assessment.highlight other line.indent direction target.width =
      Assessment.highlight line line.indent direction target.width := by
  have stop := marked.offset line.indent (Int.le_refl _)
  unfold Assessment.highlight
  cases direction with
  | aligned => simp only [stop]
  | «over» =>
    have start := marked.offset _ (overReaches reach deviates)
    simp only [stop, start]
  | under =>
    have margin := marked.offset 0 (Int.natCast_nonneg _)
    simp only [stop, margin]

theorem assessMarked {line other : Line} (marked : Source.Marked line other) (last : Direction)
    (target : Target α) : Report.assess last other target = Report.assess last line target := by
  have indent : other.indent = line.indent := Source.indentSame marked.visible
  simp only [Report.assess, indent, highlightMarked reach marked rfl, marked.index]

theorem assessFromMarked {lines others : List Line} (marked : List.Forall₂ Source.Marked lines others)
    (t : Tracker α) (last : Direction) : assessFrom t last others = assessFrom t last lines := by
  induction marked generalizing t last with
  | nil => rfl
  | cons first _ ih =>
    have checkable := Source.isCheckableShifted (Source.shiftedSame first.visible)
    simp only [assessFrom, checkable, first.visible, assessMarked reach first, ih]

theorem assessLinesMarked {lines others : List Line} (marked : List.Forall₂ Source.Marked lines others)
    (unit : α) : assessLines unit others = assessLines unit lines := by
  rw [assessLines, Source.hasBlockMarked marked, assessFromMarked reach marked, assessLines]

end

theorem reportMarked (o : Options) {lines others : List Line}
    (marked : List.Forall₂ Source.Marked lines others) : o.assess others = o.assess lines := by
  have unit : o.unitFor others = o.unitFor lines := by
    rw [Options.unitFor, Source.inferUnitSame (Source.visibleMarked marked), Options.unitFor]
  unfold Options.assess
  rw [unit]
  simp only [assessLinesMarked columnsReach marked, marked.length_eq]

end IndentLint
