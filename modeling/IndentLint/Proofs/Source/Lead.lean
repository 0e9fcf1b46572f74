import IndentLint.Proofs.Source.Scan

/-! The indentation of a line: what stands before its first visible character. Where it is blank, it
takes as many columns as the visible text has leading spaces. -/
namespace IndentLint.Source

theorem offsetLe (tab : Nat) (column : Int) (s : List Char) : offsetOf tab column s ≤ s.length := by
  induction s generalizing column with
  | nil => simp [offsetOf]
  | cons c rest ih =>
    unfold offsetOf
    split
    · exact Nat.zero_le _
    · rw [List.length_cons, Nat.add_comm]
      exact Nat.succ_le_succ (ih _)

theorem offsetReaches (tab : Nat) (column : Int) (s : List Char)
    (within : offsetOf tab column s < s.length) : column ≤ width tab (s.take (offsetOf tab column s)) := by
  induction s generalizing column with
  | nil => simp at within
  | cons c rest ih =>
    unfold offsetOf at within ⊢
    split
    · rename_i reached
      simpa [width] using reached
    · rename_i further
      rw [if_neg further, List.length_cons] at within
      have later := ih (column - charWidth tab c) (by omega)
      rw [Nat.add_comm, List.take_succ_cons, width]
      push_cast
      omega

theorem stripIndented (tab : Nat) {inside : Bool} {lead body : List Char} (blank : Indentation lead)
    (shown : (strip tab inside body).1 ≠ []) :
    strip tab inside (lead ++ body) =
      (pad (width tab lead) (strip tab inside body).1, (strip tab inside body).2) := by
  simp only [strip, scanIndentation tab inside blank] at shown ⊢
  rw [padEq, Text.trimEnd, Text.dropEndWhileAppend _ _ _ shown, padEq]
  rfl

theorem stripIndentedBlank (tab : Nat) {inside : Bool} {lead body : List Char} (blank : Indentation lead)
    (hidden : (strip tab inside body).1 = []) : Text.trim (strip tab inside (lead ++ body)).1 = [] := by
  apply Text.trimOfBlank
  intro c mem
  simp only [strip, scanIndentation tab inside blank, padEq] at mem hidden
  have all : ∀ d ∈ (scan tab (.ofComment inside) body).1, Text.isBlank d := by
    simpa [Text.trimEnd, Text.dropEndWhileEq, List.rdropWhile_eq_nil_iff] using hidden
  rcases List.mem_append.mp ((List.rdropWhile_prefix _ _).mem mem) with space | own
  · rw [List.eq_of_mem_replicate space]
    decide
  · exact all c own

namespace Line

def lead (l : Line) : List Char := l.raw.take (l.offset l.indent)

end Line

/- The first character behind the indentation is visible: otherwise the indentation would go on. -/
theorem coreVisible (tab : Nat) {raw lead body core : List Char} (parts : raw = lead ++ body)
    (nonempty : body ≠ [])
    (reached : lead = raw.take (offsetOf tab ((pad (width tab lead) core).takeWhile (· = ' ')).length raw)) :
    core.head? ≠ some ' ' := by
  intro space
  obtain ⟨rest, rfl⟩ : ∃ rest, core = ' ' :: rest := by
    cases core with
    | nil => simp at space
    | cons c rest =>
      cases Option.some.inj space
      exact ⟨rest, rfl⟩
  rw [spacesPad] at reached
  have length := congrArg List.length reached
  rw [List.length_take, Nat.min_eq_left (offsetLe _ _ _)] at length
  have within := List.length_pos_iff.mpr nonempty
  have column := offsetReaches tab _ raw (by rw [← length, parts, List.length_append]; omega)
  rw [← reached] at column
  simp at column
  omega

theorem stripNonempty {tab : Nat} {inside : Bool} {body : List Char}
    (shown : (strip tab inside body).1 ≠ []) : body ≠ [] := by
  rintro rfl
  cases inside with
  | false => exact shown rfl
  | true => exact shown rfl

theorem readParts (tab : Nat) {inside : Bool} {index : Nat} {text : List Char}
    (visible : (Line.read tab inside index text).1.isBlank = false)
    (blank : Indentation (Line.read tab inside index text).1.lead) :
    ∃ body, (Line.read tab inside index text).1.raw = (Line.read tab inside index text).1.lead ++ body ∧
      (strip tab inside body).1 ≠ [] ∧ (strip tab inside body).1.head? ≠ some ' ' := by
  obtain ⟨lead, isLead⟩ : ∃ lead, lead = (Line.read tab inside index text).1.lead := ⟨_, rfl⟩
  obtain ⟨body, parts⟩ : ∃ body, Text.dropEndWhile isTerminator text = lead ++ body := by
    rw [isLead]
    exact ⟨_, (List.take_append_drop _ _).symm⟩
  rw [← isLead] at blank ⊢
  have shown : (strip tab inside body).1 ≠ [] := by
    intro hidden
    have nothing := stripIndentedBlank tab blank hidden
    rw [← parts] at nothing
    simp [Line.isBlank, Line.trimmed, Line.read, nothing] at visible
  have read := stripIndented tab blank shown
  refine ⟨body, parts, shown, ?_⟩
  apply coreVisible tab parts (stripNonempty shown)
  simpa only [Line.lead, Line.offset, Line.indent, Line.read, parts, read] using isLead

end IndentLint.Source
