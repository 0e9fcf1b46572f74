import IndentLint.Proofs.Source.Scan
import IndentLint.Source.Baseline
import Mathlib.Data.List.Forall2

/-! What lines have in common when their visible texts do. Lines that differ in the spaces before
them open the same blocks; the unit that lines show depends on these spaces, but on nothing hidden. -/
namespace IndentLint.Source

theorem firstBodySkip {line : Line} (flat : line.opensBlock = false) (rest : List Line) :
    firstBodyLine? (line :: rest) = firstBodyLine? rest := by
  simp [firstBodyLine?, flat]

theorem firstBodyOpen {line : Line} (opens : line.opensBlock = true) (rest : List Line) :
    firstBodyLine? (line :: rest) = rest.find? fun l => !l.isBlank := by
  simp [firstBodyLine?, opens]

theorem hasBlockCons (line : Line) (rest : List Line) :
    hasBlock (line :: rest) = (line.opensBlock || hasBlock rest) := rfl

theorem checkableVisible {line : Line} (checkable : line.isCheckable = true) : line.isBlank = false := by
  simp only [Line.isCheckable, Bool.not_eq_true', Bool.or_eq_false_iff] at checkable
  exact checkable.1

theorem blankOpensNothing {line : Line} (blank : line.isBlank = true) : line.opensBlock = false := by
  have nothing : Text.trim line.visible = [] := List.isEmpty_iff.mp blank
  rw [Line.opensBlock, List.contains_eq_mem, decide_eq_false_iff_not]
  intro mem
  have brace := Text.blankOfTrim nothing '{' mem
  revert brace
  decide

def shown (lines : List Line) : List Line := lines.filter fun line => !line.isBlank

theorem shownBlank {line : Line} (blank : line.isBlank = true) (rest : List Line) :
    shown (line :: rest) = shown rest := List.filter_cons_of_neg (by simp [blank])

theorem shownVisible {line : Line} (visible : line.isBlank = false) (rest : List Line) :
    shown (line :: rest) = line :: shown rest := List.filter_cons_of_pos (by simp [visible])

theorem hasBlockShown (lines : List Line) : hasBlock (shown lines) = hasBlock lines := by
  induction lines with
  | nil => rfl
  | cons line rest ih =>
    cases blank : line.isBlank with
    | true => rw [shownBlank blank, ih, hasBlockCons, blankOpensNothing blank, Bool.false_or]
    | false => rw [shownVisible blank, hasBlockCons, ih, hasBlockCons]

theorem firstBodyShown (lines : List Line) : firstBodyLine? (shown lines) = firstBodyLine? lines := by
  induction lines with
  | nil => rfl
  | cons line rest ih =>
    cases blank : line.isBlank with
    | true => rw [shownBlank blank, firstBodySkip (blankOpensNothing blank), ih]
    | false =>
      rw [shownVisible blank]
      cases opens : line.opensBlock with
      | false => rw [firstBodySkip opens, firstBodySkip opens, ih]
      | true =>
        rw [firstBodyOpen opens, firstBodyOpen opens, shown, List.find?_filter]
        simp

theorem firstBodyAppend {lines : List Line} {body : Line} (found : firstBodyLine? lines = some body)
    (more : List Line) : firstBodyLine? (lines ++ more) = some body := by
  induction lines with
  | nil => cases found
  | cons line rest ih =>
    rw [List.cons_append]
    cases opens : line.opensBlock with
    | false =>
      rw [firstBodySkip opens] at found ⊢
      exact ih found
    | true =>
      rw [firstBodyOpen opens] at found ⊢
      rw [List.find?_append, found, Option.some_or]

theorem hasBlockOfBody {lines : List Line} {body : Line} (found : firstBodyLine? lines = some body) :
    hasBlock lines = true := by
  induction lines with
  | nil => cases found
  | cons line rest ih =>
    cases opens : line.opensBlock with
    | false =>
      rw [firstBodySkip opens] at found
      rw [hasBlockCons, opens, ih found, Bool.or_true]
    | true => rw [hasBlockCons, opens, Bool.true_or]

theorem hasBlockAppend {lines : List Line} (block : hasBlock lines = true) (more : List Line) :
    hasBlock (lines ++ more) = true := by
  rw [hasBlock] at block
  rw [hasBlock, List.any_append, block, Bool.true_or]

theorem bodyOfUnit {lines : List Line} (unit : inferUnit lines ≠ 0) :
    ∃ body, firstBodyLine? lines = some body := by
  cases found : firstBodyLine? lines with
  | none => simp [inferUnit, found] at unit
  | some body => exact ⟨body, rfl⟩

theorem inferUnitAppend {lines : List Line} (unit : inferUnit lines ≠ 0) (more : List Line) :
    inferUnit (lines ++ more) = inferUnit lines := by
  obtain ⟨body, found⟩ := bodyOfUnit unit
  rw [inferUnit, firstBodyAppend found more, inferUnit, found]

theorem opensPad (n : Nat) (s : List Char) : (pad n s).contains '{' = s.contains '{' := by
  have absent := absentSpaces (show '{' ≠ ' ' by decide) n
  simp [padEq, absent]

def Shifted (line other : Line) : Prop :=
  ∃ m n core, line.visible = pad m core ∧ other.visible = pad n core

theorem shiftedSame {line other : Line} (same : other.visible = line.visible) : Shifted line other :=
  ⟨0, 0, line.visible, rfl, same⟩

section
variable {line other : Line} (shifted : Shifted line other)
include shifted

theorem trimmedShifted : other.trimmed = line.trimmed := by
  obtain ⟨m, n, core, before, after⟩ := shifted
  rw [Line.trimmed, after, trimPad, Line.trimmed, before, trimPad]

theorem isBlankShifted : other.isBlank = line.isBlank := by
  rw [Line.isBlank, trimmedShifted shifted, Line.isBlank]

theorem isCheckableShifted : other.isCheckable = line.isCheckable := by
  rw [Line.isCheckable, isBlankShifted shifted, Line.isAnnotation, trimmedShifted shifted,
    Line.isCheckable, Line.isAnnotation]

theorem opensBlockShifted : other.opensBlock = line.opensBlock := by
  obtain ⟨m, n, core, before, after⟩ := shifted
  rw [Line.opensBlock, after, opensPad, Line.opensBlock, before, opensPad]

end

theorem hasBlockShifted {lines others : List Line} (shifted : List.Forall₂ Shifted lines others) :
    hasBlock others = hasBlock lines := by
  induction shifted with
  | nil => rfl
  | cons first _ ih =>
    rw [hasBlockCons, opensBlockShifted first, ih, hasBlockCons]

def SameVisible (line other : Line) : Prop := other.visible = line.visible

theorem indentSame {line other : Line} (same : SameVisible line other) : other.indent = line.indent := by
  rw [Line.indent, same, Line.indent]

/- Lines that show the same, line by line, have their first body lines at the same place. -/
theorem firstBodyRelated {R : Line → Line → Prop}
    (opens : ∀ line other, R line other → other.opensBlock = line.opensBlock)
    (blank : ∀ line other, R line other → other.isBlank = line.isBlank) {lines others : List Line}
    (related : List.Forall₂ R lines others) : Option.Rel R (firstBodyLine? lines) (firstBodyLine? others) := by
  induction related with
  | nil => exact .none
  | @cons line other rest more first later ih =>
    have opening := opens line other first
    cases opened : line.opensBlock with
    | false => rwa [firstBodySkip opened, firstBodySkip (opening.trans opened)]
    | true =>
      rw [firstBodyOpen opened, firstBodyOpen (opening.trans opened)]
      clear ih
      -- Behind the first block only the first line with visible text matters.
      induction later with
      | nil => exact .none
      | @cons line other rest more next _ ih =>
        have hidden := blank line other next
        cases shown : line.isBlank with
        | true => simpa [List.find?_cons, shown, hidden] using ih
        | false =>
          rw [List.find?_cons_of_pos (by simp [shown]), List.find?_cons_of_pos (by simp [hidden, shown])]
          exact .some next

theorem bodyVisible {lines : List Line} {body : Line} (found : firstBodyLine? lines = some body) :
    body.isBlank = false := by
  have visible := List.find?_some found
  simpa using visible

theorem inferUnitSame {lines others : List Line} (same : List.Forall₂ SameVisible lines others) :
    inferUnit others = inferUnit lines := by
  have bodies := firstBodyRelated (fun _ _ first => opensBlockShifted (shiftedSame first))
    (fun _ _ first => isBlankShifted (shiftedSame first)) same
  unfold inferUnit
  generalize firstBodyLine? lines = body, firstBodyLine? others = otherBody at bodies
  cases bodies with
  | none => rfl
  | some body => exact indentSame body

end IndentLint.Source
