import IndentLint.Proofs.Source.Baseline
import IndentLint.Proofs.Source.Lead
import IndentLint.Proofs.Source.Reading
import IndentLint.Proofs.Text.Respaced

/-! Lines read with two tab widths. Their visible texts differ in the number of spaces that stand for
a tab, and where lines are indented by tabs alone, everything to the left of them is on another scale. -/
namespace IndentLint.Source
open Text (Respaced)

theorem padRespaced {m n : Nat} (first : 0 < m) (second : 0 < n) {s t : List Char}
    (same : Respaced s t) : Respaced (pad m s) (pad n t) := by
  rw [padEq, padEq]
  exact .gap first second same

theorem charWidthPos {tab : Nat} (positive : 0 < tab) (c : Char) : 0 < charWidth tab c := by
  unfold charWidth
  split
  · exact positive
  · exact Nat.one_pos

section
variable {tab other : Nat} (tabPos : 0 < tab) (otherPos : 0 < other)
include tabPos otherPos

theorem scanRespaced (mode : Mode) (raw : List Char) :
    Respaced (scan tab mode raw).1 (scan other mode raw).1 ∧
      (scan other mode raw).2 = (scan tab mode raw).2 := by
  have columns : ∀ c {s t : List Char}, Respaced s t →
      Respaced (pad (charWidth tab c) s) (pad (charWidth other c) t) := by
    intro c s t same
    exact padRespaced (charWidthPos tabPos c) (charWidthPos otherPos c) same
  have two : ∀ {s t : List Char}, Respaced s t → Respaced (pad 2 s) (pad 2 t) :=
    padRespaced Nat.two_pos Nat.two_pos
  induction mode, raw using scan.induct tab with
  | case1 => exact ⟨.nil, rfl⟩
  | case2 rest out inside _ ih =>
    simp only [scan]
    exact ⟨two ih.1, ih.2⟩
  | case3 c rest early out inside _ ih =>
    rw [scan.eq_3 tab c rest early, scan.eq_3 other c rest early]
    exact ⟨columns c ih.1, ih.2⟩
  | case4 quote => exact ⟨.nil, rfl⟩
  | case5 quote c rest out inside _ ih =>
    simp only [scan]
    exact ⟨padRespaced (by omega) (by omega) ih.1, ih.2⟩
  | case6 c rest early out inside _ ih =>
    rw [scan.eq_6 tab c c rest early, scan.eq_6 other c c rest early, if_pos rfl, if_pos rfl]
    exact ⟨.cons c ih.1, ih.2⟩
  | case7 quote c rest early different out inside _ ih =>
    rw [scan.eq_6 tab quote c rest early, scan.eq_6 other quote c rest early, if_neg different,
      if_neg different]
    exact ⟨columns c ih.1, ih.2⟩
  | case8 => exact ⟨.nil, rfl⟩
  | case9 rest =>
    simp only [scan, and_true]
    exact .nil
  | case10 rest out inside _ ih =>
    simp only [scan]
    exact ⟨two ih.1, ih.2⟩
  | case11 c rest noLine noBlock quoted out inside _ ih =>
    rw [scan.eq_10 tab c rest noLine noBlock, scan.eq_10 other c rest noLine noBlock, if_pos quoted,
      if_pos quoted]
    exact ⟨.cons c ih.1, ih.2⟩
  | case12 c rest noLine noBlock plain out inside _ ih =>
    rw [scan.eq_10 tab c rest noLine noBlock, scan.eq_10 other c rest noLine noBlock, if_neg plain,
      if_neg plain]
    refine ⟨?_, ih.2⟩
    by_cases isTab : c = '\t'
    · simp only [if_pos isTab]
      exact padRespaced tabPos otherPos ih.1
    · simp only [if_neg isTab]
      exact .cons c ih.1

theorem stripRespaced (inside : Bool) (raw : List Char) :
    Respaced (strip tab inside raw).1 (strip other inside raw).1 ∧
      (strip other inside raw).2 = (strip tab inside raw).2 := by
  obtain ⟨same, flag⟩ := scanRespaced tabPos otherPos (.ofComment inside) raw
  exact ⟨Text.respacedTrimEnd same, flag⟩

end

def SameTabs (tab other : Nat) (width next : Int) : Prop := width * other = next * tab

theorem sameTabsZero (tab other : Nat) : SameTabs tab other 0 0 := by
  rw [SameTabs, Int.zero_mul, Int.zero_mul]

section
variable {tab other : Nat} (tabPos : 0 < tab) (otherPos : 0 < other)
include tabPos otherPos

theorem sameTabsLe {a b c d : Int} (first : SameTabs tab other a c) (second : SameTabs tab other b d) :
    c ≤ d ↔ a ≤ b := by
  have tabs : (0 : Int) < tab := Int.natCast_pos.mpr tabPos
  have others : (0 : Int) < other := Int.natCast_pos.mpr otherPos
  unfold SameTabs at first second
  constructor
  · intro le
    have scaled := Int.mul_le_mul_of_nonneg_right le (Int.le_of_lt tabs)
    rw [← first, ← second] at scaled
    exact Int.le_of_mul_le_mul_right scaled others
  · intro le
    have scaled := Int.mul_le_mul_of_nonneg_right le (Int.le_of_lt others)
    rw [first, second] at scaled
    exact Int.le_of_mul_le_mul_right scaled tabs

theorem offsetTabs (tabs : Nat) (body : List Char) {column next : Int}
    (same : SameTabs tab other column next) (within : column ≤ (tabs * tab : Nat)) :
    offsetOf other next (List.replicate tabs '\t' ++ body) =
      offsetOf tab column (List.replicate tabs '\t' ++ body) := by
  have reached := sameTabsLe tabPos otherPos same (sameTabsZero tab other)
  induction tabs generalizing column next with
  | zero =>
    have left : column ≤ 0 := by simpa using within
    cases body with
    | nil => rfl
    | cons c rest =>
      rw [List.replicate_zero, List.nil_append, offsetOf, offsetOf, if_pos left, if_pos (reached.mpr left)]
  | succ tabs ih =>
    have fewer : SameTabs tab other (column - tab) (next - other) := by
      unfold SameTabs at same ⊢
      rw [Int.sub_mul, Int.sub_mul, same, Int.mul_comm (tab : Int)]
    have closer : column - tab ≤ (tabs * tab : Nat) := by
      rw [Nat.succ_mul] at within
      push_cast at within ⊢
      omega
    rw [List.replicate_succ, List.cons_append, offsetOf, offsetOf]
    by_cases left : column ≤ 0
    · rw [if_pos left, if_pos (reached.mpr left)]
    · rw [if_neg left, if_neg (mt reached.mp left)]
      have behind := ih fewer closer (sameTabsLe tabPos otherPos fewer (sameTabsZero tab other))
      simp only [charWidth, if_true, behind]

end

/- A line as it is read with another tab width. Where it is visible, its indentation is the same
number of tabs, and so are the columns to the left of it that have the same offset. -/
structure Retabbed (tab other : Nat) (line moved : Line) : Prop where
  index : moved.index = line.index
  visible : Respaced line.visible moved.visible
  indent : line.isBlank = false → SameTabs tab other line.indent moved.indent
  offset : line.isBlank = false → ∀ column next : Int, SameTabs tab other column next →
    column ≤ line.indent → moved.offset next = line.offset column

section
variable {tab other : Nat} {line moved : Line} (retabbed : Retabbed tab other line moved)
include retabbed

theorem isBlankRetabbed : moved.isBlank = line.isBlank := by
  have nothing := Text.respacedNil (Text.respacedTrim retabbed.visible)
  rw [Bool.eq_iff_iff, Line.isBlank, Line.isBlank, List.isEmpty_iff, List.isEmpty_iff]
  exact nothing

theorem isCheckableRetabbed : moved.isCheckable = line.isCheckable := by
  have first := Text.respacedHead (Text.respacedTrim retabbed.visible)
  rw [Line.isCheckable, isBlankRetabbed retabbed, Line.isAnnotation, Line.trimmed, first, Line.isCheckable,
    Line.isAnnotation, Line.trimmed]

theorem opensBlockRetabbed : moved.opensBlock = line.opensBlock := by
  have braces : moved.visible.count '{' = line.visible.count '{' :=
    Text.respacedCount (by decide) retabbed.visible
  rw [Bool.eq_iff_iff, Line.opensBlock, Line.opensBlock, List.contains_iff_mem, List.contains_iff_mem,
    ← List.count_pos_iff, braces, List.count_pos_iff]

end

theorem hasBlockRetabbed {tab other : Nat} {lines moved : List Line}
    (retabbed : List.Forall₂ (Retabbed tab other) lines moved) : hasBlock moved = hasBlock lines := by
  induction retabbed with
  | nil => rfl
  | cons first _ ih => rw [hasBlockCons, opensBlockRetabbed first, ih, hasBlockCons]

theorem inferUnitRetabbed {tab other : Nat} {lines moved : List Line}
    (retabbed : List.Forall₂ (Retabbed tab other) lines moved) :
    SameTabs tab other (inferUnit lines) (inferUnit moved) := by
  have bodies := firstBodyRelated (fun _ _ => opensBlockRetabbed) (fun _ _ => isBlankRetabbed) retabbed
  have visible : ∀ body, firstBodyLine? lines = some body → body.isBlank = false := fun _ => bodyVisible
  unfold inferUnit
  generalize firstBodyLine? lines = body, firstBodyLine? moved = otherBody at bodies visible
  cases bodies with
  | none => exact sameTabsZero tab other
  | some same => exact same.indent (visible _ rfl)

theorem widthTabs (tab tabs : Nat) : width tab (List.replicate tabs '\t') = tabs * tab := by
  induction tabs with
  | zero => simp [width]
  | succ tabs ih => rw [List.replicate_succ, width, ih, Nat.succ_mul, Nat.add_comm]; rfl

section
variable {tab other : Nat} (tabPos : 0 < tab) (otherPos : 0 < other)
include tabPos otherPos

theorem readRetabbed {inside : Bool} {index : Nat} {text : List Char}
    (tabbed : (Line.read tab inside index text).1.isBlank = false →
      ∀ c ∈ (Line.read tab inside index text).1.lead, c = '\t') :
    Retabbed tab other (Line.read tab inside index text).1 (Line.read other inside index text).1 ∧
      (Line.read other inside index text).2 = (Line.read tab inside index text).2 := by
  obtain ⟨same, flag⟩ := stripRespaced tabPos otherPos inside (Text.dropEndWhile isTerminator text)
  refine ⟨?_, flag⟩
  cases visible : (Line.read tab inside index text).1.isBlank with
  | true => exact ⟨rfl, same, by simp [visible], by simp [visible]⟩
  | false =>
    have blank : Indentation (Line.read tab inside index text).1.lead :=
      fun c mem => .inr (tabbed visible c mem)
    obtain ⟨body, parts, shown, starts⟩ := readParts tab visible blank
    obtain ⟨tabs, leads⟩ : ∃ tabs, (Line.read tab inside index text).1.lead = List.replicate tabs '\t' :=
      ⟨_, List.eq_replicate_of_mem (tabbed visible)⟩
    rw [leads] at blank parts
    have whole : Text.dropEndWhile isTerminator text = List.replicate tabs '\t' ++ body := parts
    obtain ⟨core, _⟩ := stripRespaced tabPos otherPos inside body
    have shownOther := mt (Text.respacedNil core).mp shown
    have startsOther : (strip other inside body).1.head? ≠ some ' ' := by
      rwa [Text.respacedHead core]
    have indent : (Line.read tab inside index text).1.indent = tabs * tab := by
      simp only [Line.read, Line.indent, whole, stripIndented tab blank shown]
      rw [indentPad starts, widthTabs]
    have indentOther : (Line.read other inside index text).1.indent = tabs * other := by
      simp only [Line.read, Line.indent, whole, stripIndented other blank shownOther]
      rw [indentPad startsOther, widthTabs]
    refine ⟨rfl, same, ?_, ?_⟩
    · intro _
      rw [indent, indentOther, SameTabs]
      push_cast
      rw [Int.mul_assoc, Int.mul_assoc, Int.mul_comm (tab : Int)]
    · intro _ column next sameColumn within
      rw [indent] at within
      simp only [Line.offset, Line.read, whole]
      exact offsetTabs tabPos otherPos tabs body sameColumn within

theorem readFromRetabbed (inside : Bool) (index : Nat) (texts : List (List Char))
    (tabbed : ∀ line ∈ (Line.readFrom tab inside index texts).1,
      line.isBlank = false → ∀ c ∈ line.lead, c = '\t') :
    List.Forall₂ (Retabbed tab other) (Line.readFrom tab inside index texts).1
      (Line.readFrom other inside index texts).1 := by
  induction texts generalizing inside index with
  | nil => exact .nil
  | cons text rest ih =>
    obtain ⟨first, flag⟩ := readRetabbed tabPos otherPos (tabbed _ (List.mem_cons_self ..))
    rw [readFromCons, readFromCons, flag]
    exact .cons first (ih _ _ fun line mem => tabbed line (List.mem_cons_of_mem _ mem))

end
end IndentLint.Source
