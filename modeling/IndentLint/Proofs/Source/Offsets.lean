import IndentLint.Proofs.Source.Columns
import IndentLint.Proofs.Source.Noise
import Mathlib.Order.Bounds.Basic

/-! Offsets of columns. The offset of a column is the first one that has the column to its left, so that a tab
that straddles the column is to the left of it too. So an offset is behind the offset of a column if and only if
it has the column to its left, and the columns to the left of an offset lead back to it. No visible character
stands in the middle of a tab: the columns to the left of it are as many as it says. -/
namespace IndentLint.Source

section
variable (tab : Nat)

theorem offsetLeast {column : Int} {s : List Char} {o : Nat} (before : o < offsetOf tab column s) :
    (width tab (s.take o) : Int) < column := by
  induction s generalizing column o with
  | nil => simp [offsetOf] at before
  | cons c rest ih =>
    unfold offsetOf at before
    split at before
    · exact absurd before (Nat.not_lt_zero o)
    · rename_i further
      cases o with
      | zero =>
        rw [List.take_zero, width]
        omega
      | succ o =>
        have earlier : o < offsetOf tab (column - charWidth tab c) rest := by omega
        have later := ih earlier
        rw [List.take_succ_cons, width]
        omega

theorem offsetMono {column other : Int} (le : column ≤ other) (s : List Char) :
    offsetOf tab column s ≤ offsetOf tab other s := by
  by_contra more
  have least := offsetLeast tab (Nat.lt_of_not_le more)
  have within : offsetOf tab other s < s.length := Nat.lt_of_lt_of_le (Nat.lt_of_not_le more) (offsetLe tab column s)
  have reaches := offsetReaches tab other s within
  omega

variable {tab}

theorem charWidthLe (positive : 0 < tab) (c : Char) : charWidth tab c ≤ tab := by
  unfold charWidth
  split
  · exact Nat.le_refl tab
  · exact positive

theorem offsetOvershoot (positive : 0 < tab) {column : Int} (s : List Char) (bound : -(tab : Int) < column) :
    (width tab (s.take (offsetOf tab column s)) : Int) < column + tab := by
  induction s generalizing column with
  | nil =>
    simp only [offsetOf, List.take_zero, width]
    omega
  | cons c rest ih =>
    unfold offsetOf
    split
    · rw [List.take_zero, width]
      omega
    · have most := charWidthLe positive c
      have closer : -(tab : Int) < column - charWidth tab c := by omega
      have later := ih closer
      rw [Nat.add_comm 1, List.take_succ_cons, width]
      omega

end

section
variable (tab : Nat) {column : Int} {raw : List Char}

theorem offsetHolds (within : column ≤ width tab raw) : column ≤ width tab (raw.take (offsetOf tab column raw)) := by
  by_cases inside : offsetOf tab column raw < raw.length
  · exact offsetReaches tab column raw inside
  · rwa [List.take_of_length_le (Nat.le_of_not_lt inside)]

theorem offsetBeyond (beyond : (width tab raw : Int) < column) : offsetOf tab column raw = raw.length := by
  by_contra short
  have inside := Nat.lt_of_le_of_ne (offsetLe tab column raw) short
  have reaches := offsetReaches tab column raw inside
  have front := widthFront tab (List.take_prefix (offsetOf tab column raw) raw)
  omega

theorem offsetAdjoint (within : column ≤ width tab raw) (o : Nat) :
    offsetOf tab column raw ≤ o ↔ column ≤ width tab (raw.take o) := by
  constructor
  · intro behind
    have holds := offsetHolds tab within
    have front := widthFront tab (List.take_prefix_take_left (l := raw) behind)
    omega
  · intro enough
    by_contra before
    have least := offsetLeast tab (Nat.lt_of_not_le before)
    omega

variable {tab}

theorem offsetPast (positive : 0 < tab) (seen rest : List Char) (more : Nat) :
    offsetOf tab ((width tab seen + more : Nat) : Int) (seen ++ rest) = offsetOf tab more rest + seen.length := by
  induction seen with
  | nil => rw [width, Nat.zero_add]; rfl
  | cons c seen ih =>
    have columns := charWidthPos positive c
    rw [width, Nat.add_assoc, List.cons_append, offsetBehind c _ columns, ih]
    rfl

theorem offsetReturns (positive : 0 < tab) {k : Nat} (within : k ≤ raw.length) :
    offsetOf tab (width tab (raw.take k)) raw = k := by
  have past := offsetPast positive (raw.take k) (raw.drop k) 0
  rwa [Nat.add_zero, List.take_append_drop, Int.natCast_zero, offsetZero, Nat.zero_add, List.length_take,
    Nat.min_eq_left within] at past

end

def Line.columnsTo (line : Line) (o : Nat) : Nat := width line.tabWidth (line.raw.take o)

structure AdjointOffsets (line : Line) : Prop where
  least : ∀ column : Int, (∃ o ≤ line.raw.length, column ≤ line.columnsTo o) →
    IsLeast {o | o ≤ line.raw.length ∧ column ≤ line.columnsTo o} (line.offset column)
  beyond : ∀ column : Int, (¬ ∃ o ≤ line.raw.length, column ≤ line.columnsTo o) →
    line.offset column = line.raw.length
  adjoint : ∀ column ≤ (width line.tabWidth line.raw : Int), ∀ o,
    line.offset column ≤ o ↔ column ≤ line.columnsTo o
  monotone : ∀ column other : Int, column ≤ other → line.offset column ≤ line.offset other
  returns : ∀ k ≤ line.raw.length, line.offset (line.columnsTo k) = k

theorem columnsToEnd (line : Line) : line.columnsTo line.raw.length = width line.tabWidth line.raw := by
  rw [Line.columnsTo, List.take_length]

theorem columnsToWithin (line : Line) (o : Nat) : line.columnsTo o ≤ width line.tabWidth line.raw :=
  widthFront line.tabWidth (List.take_prefix o line.raw)

theorem offsetsAdjoinColumns (line : Line) (positive : 0 < line.tabWidth) : AdjointOffsets line where
  least := by
    rintro column ⟨o, -, enough⟩
    have within : column ≤ width line.tabWidth line.raw :=
      Int.le_trans enough (Int.ofNat_le.mpr (columnsToWithin line o))
    refine ⟨⟨offsetLe line.tabWidth column line.raw, offsetHolds line.tabWidth within⟩, ?_⟩
    rintro p ⟨-, holds⟩
    exact (offsetAdjoint line.tabWidth within p).mpr holds
  beyond := by
    intro column none
    apply offsetBeyond
    by_contra within
    refine none ⟨line.raw.length, Nat.le_refl _, ?_⟩
    rw [columnsToEnd]
    exact Int.not_lt.mp within
  adjoint := by
    intro column within o
    exact offsetAdjoint line.tabWidth within o
  monotone := by
    intro column other le
    exact offsetMono line.tabWidth le line.raw
  returns := by
    intro k within
    exact offsetReturns positive within

def tabbedLine : Line := (Line.read 3 false 0 "\ta\tb\t\n".toList).1

theorem tabbedLineAdjoint : 0 < tabbedLine.tabWidth ∧ tabbedLine.raw = "\ta\tb\t".toList ∧
    [-2, 0, 2, 3, 6, 7, 10, 11, 12].map tabbedLine.offset = [0, 0, 1, 1, 3, 3, 5, 5, 5] ∧
    AdjointOffsets tabbedLine :=
  ⟨by decide, by decide, by decide, offsetsAdjoinColumns tabbedLine (by decide)⟩

/- Output column by column: a character stands for itself, or its columns are blank, or nothing that follows is
shown any more. -/
inductive Cells (tab : Nat) : List Char → List Char → Prop where
  | hidden (raw : List Char) : Cells tab raw []
  | blank (c : Char) {rest out : List Char} (behind : Cells tab rest out) :
      Cells tab (c :: rest) (pad (charWidth tab c) out)
  | shown {c : Char} (notTab : c ≠ '\t') {rest out : List Char} (behind : Cells tab rest out) :
      Cells tab (c :: rest) (c :: out)

theorem scanCells (tab : Nat) (mode : Mode) (raw : List Char) (quoted : Quoted mode) :
    Cells tab raw (scan tab mode raw).1 := by
  induction mode, raw using scan.induct tab with
  | case1 => exact .hidden _
  | case2 rest out inside _ ih =>
    simp only [scan, padMarker tab (show '*' ≠ '\t' by decide) (show '/' ≠ '\t' by decide)]
    exact .blank _ (.blank _ (ih quotedCode))
  | case3 c rest early out inside _ ih =>
    rw [scan.eq_3 tab c rest early]
    exact .blank c (ih quotedComment)
  | case4 quote => exact .hidden _
  | case5 quote c rest out inside _ ih =>
    simp only [scan, padEscaped]
    exact .blank _ (.blank c (ih quoted))
  | case6 c rest early out inside _ ih =>
    rw [scan.eq_6 tab c c rest early, if_pos rfl]
    exact .shown (quotePlain (quoted c rfl)).1 (ih quotedCode)
  | case7 quote c rest early different out inside _ ih =>
    rw [scan.eq_6 tab quote c rest early, if_neg different]
    exact .blank c (ih quoted)
  | case8 => exact .hidden _
  | case9 rest => exact .hidden _
  | case10 rest out inside _ ih =>
    simp only [scan, padMarker tab (show '/' ≠ '\t' by decide) (show '*' ≠ '\t' by decide)]
    exact .blank _ (.blank _ (ih quotedComment))
  | case11 c rest noLine noBlock begins out inside _ ih =>
    rw [scan.eq_10 tab c rest noLine noBlock, if_pos begins]
    exact .shown (quotePlain begins).1 (ih (quotedLiteral begins))
  | case12 c rest noLine noBlock unquoted out inside _ ih =>
    rw [scan.eq_10 tab c rest noLine noBlock, if_neg unquoted]
    by_cases isTab : c = '\t'
    · have cells := Cells.blank c (ih quotedCode)
      simp only [if_pos isTab]
      rwa [charWidth, if_pos isTab] at cells
    · simp only [if_neg isTab]
      exact .shown isTab (ih quotedCode)

theorem widthBehind (tab : Nat) (c : Char) (o : Nat) (rest : List Char) :
    width tab ((c :: rest).take (o + 1)) = charWidth tab c + width tab (rest.take o) := rfl

theorem cellsLand {tab : Nat} (positive : 0 < tab) {raw out : List Char} (cells : Cells tab raw out) {column : Nat}
    {c : Char} (here : out[column]? = some c) (visible : c ≠ ' ') :
    width tab (raw.take (offsetOf tab column raw)) = column := by
  induction cells generalizing column with
  | hidden raw => simp at here
  | @blank d rest out behind ih =>
    have columns := charWidthPos positive d
    rw [padEq] at here
    by_cases within : column < (List.replicate (charWidth tab d) ' ').length
    · rw [List.getElem?_append_left within] at here
      exact absurd (List.eq_of_mem_replicate (List.mem_of_getElem? here)) visible
    · rw [List.length_replicate] at within
      obtain ⟨more, rfl⟩ := Nat.exists_eq_add_of_le (Nat.le_of_not_lt within)
      rw [List.getElem?_append_right (by simp), List.length_replicate, Nat.add_sub_cancel_left] at here
      rw [offsetBehind d more columns, widthBehind, ih here]
  | @shown d notTab rest out behind ih =>
    cases column with
    | zero =>
      rw [Int.natCast_zero, offsetZero]
      rfl
    | succ more =>
      have single := charWidthOne tab notTab
      have columns : more + 1 = charWidth tab d + more := by omega
      rw [columns, offsetBehind d more (by omega), widthBehind, ih here]

theorem visibleLands {tab : Nat} (positive : 0 < tab) (inside : Bool) (raw : List Char) {column : Nat} {c : Char}
    (here : (strip tab inside raw).1[column]? = some c) (visible : c ≠ ' ') :
    width tab (raw.take (offsetOf tab column raw)) = column := by
  have cells := scanCells tab (.ofComment inside) raw (quotedInside inside)
  obtain ⟨ending, split, -⟩ := Text.dropEndWhileSplit Text.isBlank (scan tab (.ofComment inside) raw).1
  refine cellsLand positive cells ?_ visible
  rw [split, List.getElem?_append_left]
  · exact here
  · exact (List.getElem?_eq_some_iff.mp here).1

end IndentLint.Source
