import IndentLint.Proofs.Source.Baseline
import IndentLint.Proofs.Tracking
import Mathlib.Data.List.Flatten

/-! Braces of lines that are not checked. A blank line has none. An annotation may have some, as it is
told by its first character alone, and then the blocks that the lines open are not those that the
tracker is told of. -/
namespace IndentLint
open Layout (Tracker)
open Source (Line)

namespace Source

def Line.braces (line : Line) : List Char := line.visible.filter fun c => c = '{' || c = '}'

theorem memBraces {line : Line} {c : Char} :
    c ∈ line.braces ↔ c ∈ line.visible ∧ (c = '{' ∨ c = '}') := by
  simp [Line.braces]

theorem blankBraceless {line : Line} (blank : line.isBlank = true) : line.braces = [] := by
  have nothing : Text.trim line.visible = [] := List.isEmpty_iff.mp blank
  have hidden := Text.blankOfTrim nothing
  refine List.eq_nil_iff_forall_not_mem.mpr ?_
  intro c mem
  obtain ⟨shown, brace⟩ := memBraces.mp mem
  have blankChar := hidden c shown
  rcases brace with rfl | rfl <;> exact absurd blankChar (by decide)

theorem skippedBraces {line : Line} (skipped : line.isCheckable = false) (some : line.braces ≠ []) :
    line.isAnnotation = true := by
  simp only [Line.isCheckable, Bool.not_eq_false', Bool.or_eq_true] at skipped
  rcases skipped with blank | annotated
  · exact absurd (blankBraceless blank) some
  · exact annotated

theorem annotationSkipped {line : Line} (annotated : line.isAnnotation = true) :
    line.isCheckable = false := by
  simp [Line.isCheckable, annotated]

def bracesOf (lines : List Line) : List Char := lines.flatMap Line.braces

theorem bracesOfCons (line : Line) (rest : List Line) :
    bracesOf (line :: rest) = line.braces ++ bracesOf rest := rfl

theorem bracesOfShorter (keeps : Line → Bool) (lines : List Line) :
    (bracesOf (lines.filter keeps)).length ≤ (bracesOf lines).length :=
  (List.filter_sublist.flatMap Line.braces).length_le

/- Leaving lines out leaves out their braces and no others, so that counting shows whether any are lost. -/
theorem bracesOfFilter (keeps : Line → Bool) (lines : List Line) :
    bracesOf (lines.filter keeps) = bracesOf lines ↔
      ∀ line ∈ lines, keeps line = false → line.braces = [] := by
  induction lines with
  | nil => simp [bracesOf]
  | cons line rest ih =>
    rw [bracesOfCons, List.forall_mem_cons]
    cases kept : keeps line with
    | true =>
      rw [List.filter_cons_of_pos kept, bracesOfCons, List.append_right_inj, ih]
      simp
    | false =>
      rw [List.filter_cons_of_neg (by simp [kept])]
      constructor
      · intro same
        have shorter := bracesOfShorter keeps rest
        have lengths := congrArg List.length same
        rw [List.length_append] at lengths
        have none : line.braces = [] := List.eq_nil_of_length_eq_zero (by omega)
        rw [none, List.nil_append] at same
        exact ⟨fun _ => none, ih.mp same⟩
      · rintro ⟨none, later⟩
        rw [none rfl, List.nil_append]
        exact ih.mpr later

theorem bracesOfCheckable (lines : List Line) :
    bracesOf (lines.filter Line.isCheckable) = bracesOf lines ↔
      ∀ line ∈ lines, line.isAnnotation = true → line.braces = [] := by
  rw [bracesOfFilter]
  constructor
  · intro lost line mem annotated
    exact lost line mem (annotationSkipped annotated)
  · intro plain line mem skipped
    by_contra some
    exact some (plain line mem (skippedBraces skipped some))

theorem opensBlockBraces {line : Line} (opens : line.opensBlock = true) : line.braces ≠ [] := by
  intro none
  have brace : '{' ∈ line.braces := memBraces.mpr ⟨by simpa [Line.opensBlock] using opens, .inl rfl⟩
  simp [none] at brace

theorem openersCheckable {lines : List Line}
    (plain : ∀ line ∈ lines, line.isAnnotation = true → line.braces = []) :
    (lines.filter Line.isCheckable).filter Line.opensBlock = lines.filter Line.opensBlock := by
  rw [List.filter_filter]
  refine List.filter_congr ?_
  intro line mem
  cases opens : line.opensBlock with
  | false => rfl
  | true =>
    cases checkable : line.isCheckable with
    | true => rfl
    | false =>
      have some := opensBlockBraces opens
      exact absurd (plain line mem (skippedBraces checkable some)) some

end Source

theorem bracesTrackedUnlessAnnotated (tab : Nat) (inside : Bool) (texts : List (List Char))
    (t : Tracker Int) :
    let lines := (Source.readLines tab inside texts).1
    let tracked := (track t lines).map Prod.fst
    (∀ line ∈ lines, line.isCheckable = false → line.braces ≠ [] → line.isAnnotation = true) ∧
      (Source.bracesOf tracked = Source.bracesOf lines ↔
        ∀ line ∈ lines, line.isAnnotation = true → line.braces = []) ∧
      ((∀ line ∈ lines, line.isAnnotation = true → line.braces = []) →
        tracked.filter Line.opensBlock = lines.filter Line.opensBlock) := by
  intro lines tracked
  have fed : tracked = lines.filter Line.isCheckable := trackedLines t lines
  rw [fed]
  exact ⟨fun _ _ skipped some => Source.skippedBraces skipped some, Source.bracesOfCheckable lines,
    Source.openersCheckable⟩

def overridingTexts : List (List Char) :=
  ["@Override void f() \x7b".toList, "    x();".toList, "\x7d".toList]

def fourColumns : Options := { unit := some 4, tabWidth := 3 }

/- The block that the annotation opens is counted, but its body is expected outside of it. -/
theorem annotationHidesItsBlock :
    let lines := fourColumns.lines overridingTexts
    (∃ line ∈ lines, line.isCheckable = false ∧ '{' ∈ line.visible) ∧ Source.hasBlock lines = true ∧
      (fourColumns.tracked overridingTexts).map (·.1.index) = [1, 2] ∧
      (analyze fourColumns overridingTexts).problems = [⟨.over, 1, 4, 0⟩] := by
  decide

end IndentLint
