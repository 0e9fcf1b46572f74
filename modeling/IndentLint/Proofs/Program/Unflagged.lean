import IndentLint.Proofs.Program.Fitting
import IndentLint.Proofs.Report.Runs
import IndentLint.Proofs.Source.Baseline
import Mathlib.Data.List.Chain

/-! A program that is laid out well is never flagged, whether its unit is given or found at a first
brace that stands in a line at the margin. -/
namespace IndentLint.Program
open Layout (Tracker)
open Report (direction)
open Source (Line pad padEq)

variable {u d : Nat}

theorem padLast {text : List Char} (nonempty : text ≠ []) (n : Nat) :
    (pad n text).getLast? = text.getLast? := by
  rw [padEq, List.getLast?_append_of_ne_nil _ nonempty]

def Row.line (tab index : Nat) (row : Row) : Line := ⟨index, row.chars, row.chars, tab⟩

theorem readTidy {row : Row} (tidy : Tidy row.text) (tab index : Nat) :
    Line.read tab false index row.chars = (row.line tab index, false) := by
  have last := List.getLast?_eq_some_getLast tidy.nonempty
  have visible := tidy.stops _ last
  rw [← padLast tidy.nonempty row.columns] at last
  have ended : Text.dropEndWhile Source.isTerminator row.chars = row.chars := by
    refine Text.dropEndWhileOfLast last ?_
    by_contra terminates
    have blank := Source.terminatorBlank (Bool.not_eq_false _ ▸ terminates)
    simp [visible] at blank
  have scanned : Source.scan tab (.ofComment false) row.chars = (row.chars, false) := by
    have whole := Source.scanIndentation tab false (Source.indentationSpaces row.columns) row.text
    rw [← padEq, Source.widthSpaces] at whole
    rw [Row.chars, whole]
    simp [Source.Mode.ofComment, Source.scanPlain tab tidy.plain]
  simp only [Line.read, Source.strip, ended, scanned]
  rw [Text.trimEnd, Row.chars, Text.dropEndWhileOfLast last visible]
  rfl

theorem tidyTrimmed {row : Row} (tidy : Tidy row.text) (tab index : Nat) :
    (row.line tab index).trimmed = row.text := by
  rw [Line.trimmed, Row.line, Row.chars, Source.trimPad]
  exact tidyTrim tidy

theorem tidyCheckable {row : Row} (tidy : Tidy row.text) (tab index : Nat) :
    (row.line tab index).isCheckable = true := by
  have noAnnotation : row.text.head? ≠ some '@' := fun head => (tidy.starts '@' head).2 rfl
  simp [Line.isCheckable, Line.isBlank, Line.isAnnotation, tidyTrimmed tidy, noAnnotation,
    tidy.nonempty]

theorem tidyIndent {row : Row} (tidy : Tidy row.text) (tab index : Nat) :
    (row.line tab index).indent = row.columns := by
  refine Source.indentPad ?_ row.columns
  intro space
  exact absurd (tidy.starts ' ' space).1 (by decide)

theorem readRow {row : Row} (tidy : Tidy row.text) (tab index : Nat) (rest : List (List Char)) :
    (Line.readFrom tab false index (row.chars :: rest)).1 =
      row.line tab index :: (Line.readFrom tab false (index + 1) rest).1 := by
  simp only [Line.readFrom, readTidy tidy]

theorem fitsTracked {t last : Tracker Int} {rows : List Row} (fits : Fits t rows last)
    (tidy : ∀ row ∈ rows, Tidy row.text) (tab index : Nat) :
    ∀ pair ∈ track t (Line.readFrom tab false index (rows.map Row.chars)).1,
      direction pair.1.indent pair.2 = .aligned := by
  induction fits generalizing index with
  | nil t => simp [Line.readFrom, track]
  | @cons t row rest last aligned next ih =>
    obtain ⟨first, later⟩ := List.forall_mem_cons.mp tidy
    rw [List.map_cons, readRow first, track, if_pos (tidyCheckable first tab index)]
    simp only [Row.line, Row.chars, Tracker.enterPad, Tracker.leavePad]
    intro pair mem
    rcases List.mem_cons.mp mem with rfl | mem
    · have indent := tidyIndent first tab index
      simp only [Row.line, Row.chars] at indent
      rw [indent]
      exact aligned
    · exact ih later (index + 1) pair mem

theorem rowsCheckable {rows : List Row} (tidy : ∀ row ∈ rows, Tidy row.text) (tab index : Nat) :
    ∀ line ∈ (Line.readFrom tab false index (rows.map Row.chars)).1, line.isCheckable = true := by
  induction rows generalizing index with
  | nil => simp [Line.readFrom]
  | cons row rest ih =>
    obtain ⟨first, later⟩ := List.forall_mem_cons.mp tidy
    rw [List.map_cons, readRow first]
    exact List.forall_mem_cons.mpr ⟨tidyCheckable first tab index, ih later (index + 1)⟩

/- After an opening brace the next row stands at most one unit deeper, and not elsewhere. -/
def Stepwise (u : Nat) (rows : List Row) : Prop :=
  rows.IsChain fun row next =>
    '{' ∈ row.text → next.columns = row.columns ∨ next.columns = row.columns + u

theorem stepwiseFlat {row : Row} {rest : List Row} (flat : '{' ∉ row.text) (more : Stepwise u rest) :
    Stepwise u (row :: rest) :=
  List.isChain_cons.mpr ⟨fun _ _ opens => absurd opens flat, more⟩

theorem firstColumns {part : Part} (code : Code part) (u d : Nat) :
    ∀ row ∈ (code.rows u d).head?, row.columns = d * u := by
  induction code generalizing d with
  | items first rest firstIh restIh =>
    intro row head
    rw [Code.rows, List.head?_append] at head
    cases found : (first.rows u d).head? with
    | none => exact restIh d row (by simpa [found] using head)
    | some other => exact firstIh d row (by simpa [found] using head)
  | empty => simp [Code.rows]
  | _ => simp [Code.rows]

theorem closingNonempty (rest : Code .closing) (u d : Nat) : rest.rows u d ≠ [] := by
  cases rest <;> simp [Code.rows]

theorem stepwiseBlock {text : List Char} {rest tail : List Row} (body : Code .body)
    (head : ∀ row ∈ rest.head?, row.columns = d * u) (nonempty : rest ≠ [])
    (more : Stepwise u (body.rows u (d + 1) ++ (rest ++ tail))) :
    Stepwise u (⟨d * u, text⟩ :: (body.rows u (d + 1) ++ (rest ++ tail))) := by
  refine List.isChain_cons.mpr ⟨?_, more⟩
  intro next found _
  rw [List.head?_append, List.head?_append_of_ne_nil _ nonempty] at found
  cases first : (body.rows u (d + 1)).head? with
  | none => exact .inl (head next (by simpa [first] using found))
  | some row =>
    have same : row = next := by simpa [first] using found
    subst same
    have deeper := firstColumns body u (d + 1) row first
    exact .inr (by rw [deeper, Nat.succ_mul])

theorem codeStepwise {part : Part} (code : Code part) {tail : List Row} (more : Stepwise u tail) :
    Stepwise u (code.rows u d ++ tail) := by
  have flat : ∀ p : Phrase, '{' ∉ p.chars := fun p => notReserved p (by decide)
  induction code generalizing d tail with
  | statement text => exact stepwiseFlat (flat text.toPhrase) more
  | block head body rest bodyIh restIh =>
    simp only [Code.rows, List.cons_append, List.append_assoc]
    exact stepwiseBlock body (firstColumns rest u d) (closingNonempty rest u d) (bodyIh (restIh more))
  | allman head body bodyIh =>
    have closed : Stepwise u ([⟨d * u, ['}']⟩] ++ tail) := stepwiseFlat (by simp) more
    simp only [Code.rows, List.cons_append, List.append_assoc]
    exact stepwiseFlat (flat head.toPhrase) (stepwiseBlock body (by simp) (by simp) (bodyIh closed))
  | unbraced head body bodyIh => exact stepwiseFlat (flat head.toPhrase) (bodyIh more)
  | wrapped first middle extra last =>
    have closed : Stepwise u (⟨d * u + extra, last.chars⟩ :: tail) :=
      stepwiseFlat (flat last.toPhrase) more
    simp only [Code.rows, List.cons_append, List.append_assoc]
    refine stepwiseFlat (flat first.toPhrase) ?_
    induction middle with
    | nil => exact closed
    | cons line rest ih => exact stepwiseFlat (flat line.2.toPhrase) ih
  | empty => exact more
  | items first rest firstIh restIh =>
    simp only [Code.rows, List.append_assoc]
    exact firstIh (restIh more)
  | close => exact stepwiseFlat (by simp) more
  | closeWith text =>
    have closer : '{' ∉ '}' :: ' ' :: text.chars := by simp [flat text.toPhrase]
    exact stepwiseFlat closer more
  | reopen middle body rest bodyIh restIh =>
    simp only [Code.rows, List.cons_append, List.append_assoc]
    exact stepwiseBlock body (firstColumns rest u d) (closingNonempty rest u d) (bodyIh (restIh more))

theorem opensBlockRow (row : Row) (tab index : Nat) :
    (row.line tab index).opensBlock = decide ('{' ∈ row.text) := by
  rw [Line.opensBlock, Row.line, Row.chars, Source.opensPad, List.contains_eq_mem]

def OpensAtMargin (rows : List Row) : Prop :=
  ∀ row ∈ rows.find? (fun row => '{' ∈ row.text), row.columns = 0

theorem inferRows {rows : List Row} (tidy : ∀ row ∈ rows, Tidy row.text) (steps : Stepwise u rows)
    (margin : OpensAtMargin rows) (tab index : Nat) :
    Source.inferUnit (Line.readFrom tab false index (rows.map Row.chars)).1 = u ∨
      Source.inferUnit (Line.readFrom tab false index (rows.map Row.chars)).1 = 0 := by
  induction rows generalizing index with
  | nil => exact .inr rfl
  | cons row rest ih =>
    obtain ⟨first, later⟩ := List.forall_mem_cons.mp tidy
    obtain ⟨step, steps⟩ := List.isChain_cons.mp steps
    rw [List.map_cons, readRow first, Source.inferUnit]
    by_cases opens : '{' ∈ row.text
    · have zero : row.columns = 0 := margin row (by simp [opens])
      rw [Source.firstBodyOpen (by simp [opensBlockRow, opens])]
      cases rest with
      | nil => exact .inr rfl
      | cons next more =>
        have second := later next (by simp)
        have nonblank : (next.line tab (index + 1)).isBlank = false := by
          simp [Line.isBlank, tidyTrimmed second, second.nonempty]
        rw [List.map_cons, readRow second, List.find?_cons_of_pos (by simp [nonblank])]
        simp only [tidyIndent second]
        rcases step next rfl opens with same | deeper
        · exact .inr (same.trans zero)
        · exact .inl (by rw [deeper, zero, Nat.zero_add])
    · have margin : OpensAtMargin rest := by
        intro other found
        exact margin other (by simpa [opens] using found)
      rw [Source.firstBodySkip (by simp [opensBlockRow, opens])]
      exact ih later steps margin (index + 1)

theorem startInside (u : Nat) : Inside u 0 0 [] (Tracker.start (u : Int) true) :=
  ⟨rfl, by rw [Nat.zero_mul]; rfl, rfl, rfl, rfl⟩

theorem programAligned (program : Code .body) (u tab : Nat) :
    ∀ pair ∈ track (Tracker.start (u : Int) true) (Source.readLines tab false (program.texts u)).1,
      direction pair.1.indent pair.2 = .aligned := by
  obtain ⟨last, fits, _⟩ := codeFits u program (Nat.le_refl 0) (startInside u)
  exact fitsTracked fits (codeTidy program u 0) tab 0

end IndentLint.Program

namespace IndentLint
open Program

theorem unitOfProgram (o : Options) (u : Nat) (program : Code .body)
    (known : o.unit = some u ∨ o.unit = none ∧ OpensAtMargin (program.rows u 0)) :
    o.unitFor (o.lines (program.texts u)) = u ∨ o.unitFor (o.lines (program.texts u)) = 0 := by
  rcases known with given | ⟨absent, margin⟩
  · exact .inl (by simp [Options.unitFor, given])
  · have steps := codeStepwise (u := u) (d := 0) program List.IsChain.nil
    rw [List.append_nil] at steps
    have inferred := inferRows (codeTidy program u 0) steps margin o.tabWidth 0
    rw [Options.unitFor, absent, Option.getD_none]
    exact inferred

theorem laidOutProgramsUnflagged (o : Options) (u : Nat) (program : Code .body)
    (known : o.unit = some u ∨ o.unit = none ∧ OpensAtMargin (program.rows u 0)) :
    let texts := program.texts u
    (analyze o texts).problems = [] ∧ (analyze o texts).violations = [] ∧
      (o.checks (o.lines texts) = true →
        (analyze o texts).assessments.map (·.index) = List.range texts.length) := by
  intro texts
  have quiet : (analyze o texts).violations = [] := by
    refine o.violationsOfAligned texts ?_
    simp only [Options.tracked]
    split
    · rename_i checks
      have unit : o.unitFor (o.lines texts) = u := by
        refine (unitOfProgram o u program known).resolve_right ?_
        simp only [Options.checks, Bool.and_eq_true, bne_iff_ne] at checks
        exact checks.1.2
      rw [unit]
      exact programAligned program u o.tabWidth
    · simp
  refine ⟨(o.problemsEmptyIff texts).mpr quiet, quiet, ?_⟩
  intro checks
  have checkable : (o.lines texts).filter Source.Line.isCheckable = o.lines texts :=
    List.filter_eq_self.mpr (rowsCheckable (codeTidy program u 0) o.tabWidth 0)
  rw [o.assessedIndexes, if_pos checks, checkable, Options.lines, Source.readLines, readIndexes,
    List.range_eq_range']

def callText : Statement where
  chars := "x();".toList
  nonempty := by decide
  clean := by decide
  starts := by decide
  stops := by decide
  ended := by decide

def ifText : Header where
  chars := "if (c)".toList
  nonempty := by decide
  clean := by decide
  starts := by decide
  stops := by decide
  unended := by decide
  control := by decide
  balanced := by decide

def classText : Phrase where
  chars := "class A".toList
  nonempty := by decide
  clean := by decide
  starts := by decide
  stops := by decide

def sumText : Opening where
  chars := "y = a".toList
  nonempty := by decide
  clean := by decide
  starts := by decide
  stops := by decide
  unended := by decide
  noHeader := by decide
  noList := by decide

def sampleProgram : Code .body :=
  .items
    (.block classText
      (.items (.unbraced ifText (.allman ifText (.items (.statement callText) .empty)))
        (.items (.wrapped sumText [] 3 callText) .empty))
      .close)
    .empty

/- Braces are written as \x7b and \x7d here. -/
example : (sampleProgram.texts 2).map String.ofList =
    ["class A \x7b", "  if (c)", "    if (c)", "    \x7b", "      x();", "    \x7d", "  y = a", "     x();",
      "\x7d"] := by
  decide

def threeColumns : Options := { unit := some 3 }

theorem sampleProgramUnflagged :
    OpensAtMargin (sampleProgram.rows 2 0) ∧
      (analyze {} (sampleProgram.texts 2)).problems = [] ∧
      (analyze {} (sampleProgram.texts 2)).assessments.map (·.index) = List.range 9 ∧
      (analyze threeColumns (sampleProgram.texts 3)).problems = [] := by
  have margin : OpensAtMargin (sampleProgram.rows 2 0) := by
    unfold OpensAtMargin
    decide
  have inferred := laidOutProgramsUnflagged {} 2 sampleProgram (.inr ⟨rfl, margin⟩)
  have given := laidOutProgramsUnflagged threeColumns 3 sampleProgram (.inl rfl)
  exact ⟨margin, inferred.1, inferred.2.2 (by decide), given.1⟩

end IndentLint
