import IndentLint.Proofs.Text.Trim
import IndentLint.Source.Line

/-! How indentation and plain text pass through the scanner. Indentation becomes as many spaces
as it has columns; a text without quotes, slashes and tabs is visible as it stands. -/
namespace IndentLint.Source

theorem padEq (n : Nat) (s : List Char) : pad n s = List.replicate n ' ' ++ s := by
  induction n generalizing s with
  | zero => rfl
  | succ n ih => rw [pad, ih, List.replicate_succ', List.append_assoc]; rfl

theorem padLength (n : Nat) (s : List Char) : (pad n s).length = n + s.length := by
  rw [padEq, List.length_append, List.length_replicate]

theorem absentSpaces {c : Char} (visible : c ≠ ' ') (n : Nat) : c ∉ List.replicate n ' ' :=
  fun mem => visible (List.eq_of_mem_replicate mem)

theorem padPad (m n : Nat) (s : List Char) : pad m (pad n s) = pad (m + n) s := by
  rw [padEq, padEq, padEq, ← List.append_assoc, List.replicate_append_replicate]

theorem spacesPad (n : Nat) (s : List Char) :
    ((pad n s).takeWhile (· = ' ')).length = n + (s.takeWhile (· = ' ')).length := by
  have spaces : ∀ c ∈ List.replicate n ' ', decide (c = ' ') = true := by
    intro c mem
    exact decide_eq_true (List.eq_of_mem_replicate mem)
  rw [padEq, List.takeWhile_append_of_pos spaces, List.length_append, List.length_replicate]

theorem indentPad {s : List Char} (visible : s.head? ≠ some ' ') (n : Nat) :
    ((pad n s).takeWhile (· = ' ')).length = n := by
  have stops : s.takeWhile (· = ' ') = [] := by
    cases s with
    | nil => rfl
    | cons c rest =>
      have notSpace : c ≠ ' ' := fun same => visible (by simp [same])
      simp [notSpace]
  rw [spacesPad, stops, List.length_nil, Nat.add_zero]

theorem trimPad (n : Nat) (s : List Char) : Text.trim (pad n s) = Text.trim s := by
  rw [padEq]
  exact Text.trimIndented n s

theorem terminatorBlank {c : Char} (ends : isTerminator c = true) : Text.isBlank c = true := by
  simp only [isTerminator, Bool.or_eq_true, decide_eq_true_eq] at ends
  rcases ends with rfl | rfl <;> decide

theorem widthSpaces (tab n : Nat) : width tab (List.replicate n ' ') = n := by
  induction n with
  | zero => rfl
  | succ n ih => simp [List.replicate_succ, width, charWidth, ih, Nat.add_comm]

theorem quoteEither {c : Char} (quoted : isQuote c = true) : c = '"' ∨ c = '\'' := by
  simpa [isQuote] using quoted

theorem quotePlain {c : Char} (quoted : isQuote c = true) : c ≠ '\t' ∧ c ≠ ' ' ∧ c ≠ '/' ∧ c ≠ '\\' := by
  rcases quoteEither quoted with rfl | rfl <;> decide

theorem quoteVisible {c : Char} (quoted : isQuote c = true) : Text.isBlank c = false := by
  rcases quoteEither quoted with rfl | rfl <;> decide

/- A literal that the scanner is inside of began with a quote. -/
def Quoted (mode : Mode) : Prop := ∀ quote, mode = .literal quote → isQuote quote = true

theorem quotedCode : Quoted .code := by simp [Quoted]

theorem quotedComment : Quoted .comment := by simp [Quoted]

theorem quotedLiteral {c : Char} (begins : isQuote c = true) : Quoted (.literal c) := by
  intro quote same
  cases same
  exact begins

theorem quotedInside (inside : Bool) : Quoted (.ofComment inside) := by
  cases inside
  · exact quotedCode
  · exact quotedComment

theorem ofCommentOutside (inside : Bool) (quote : Char) : Mode.ofComment inside ≠ .literal quote := by
  cases inside <;> simp [Mode.ofComment]

def Indentation (s : List Char) : Prop := ∀ c ∈ s, c = ' ' ∨ c = '\t'

theorem indentationCons {c : Char} {rest : List Char} (h : Indentation (c :: rest)) :
    (c = ' ' ∨ c = '\t') ∧ Indentation rest :=
  ⟨h c (by simp), fun d mem => h d (by simp [mem])⟩

theorem indentationSpaces (n : Nat) : Indentation (List.replicate n ' ') := by
  intro c mem
  exact .inl (List.eq_of_mem_replicate mem)

theorem scanIndentation (tab : Nat) (inside : Bool) {lead : List Char} (blank : Indentation lead)
    (rest : List Char) :
    scan tab (.ofComment inside) (lead ++ rest) =
      (pad (width tab lead) (scan tab (.ofComment inside) rest).1,
        (scan tab (.ofComment inside) rest).2) := by
  induction lead with
  | nil => rfl
  | cons c lead ih =>
    obtain ⟨first, blank⟩ := indentationCons blank
    have step : ∀ more, scan tab (.ofComment inside) (c :: more) =
        (pad (charWidth tab c) (scan tab (.ofComment inside) more).1,
          (scan tab (.ofComment inside) more).2) := by
      intro more
      cases inside <;> rcases first with rfl | rfl <;>
        simp [Mode.ofComment, scan, isQuote, charWidth, pad]
    rw [List.cons_append, step, ih blank, padPad]
    rfl

def Plain (s : List Char) : Prop := ∀ c ∈ s, c ≠ '"' ∧ c ≠ '\'' ∧ c ≠ '/' ∧ c ≠ '\t'

theorem plainAppend {s t : List Char} (first : Plain s) (second : Plain t) : Plain (s ++ t) := by
  intro c mem
  rcases List.mem_append.mp mem with before | after
  · exact first c before
  · exact second c after

theorem scanPlain (tab : Nat) {s : List Char} (plain : Plain s) : scan tab .code s = (s, false) := by
  induction s with
  | nil => rfl
  | cons c rest ih =>
    obtain ⟨double, single, slash, notTab⟩ := plain c (by simp)
    have tail : Plain rest := fun d mem => plain d (by simp [mem])
    rw [scan.eq_10 tab c rest (fun _ h => absurd h slash) (fun _ h => absurd h slash), ih tail]
    simp [isQuote, double, single, notTab]

theorem readPlain (tab index : Nat) {s : List Char} (plain : Plain s) {c : Char} (last : s.getLast? = some c)
    (shown : Text.isBlank c = false) : (Line.read tab false index s).1.visible = s := by
  have unended : isTerminator c = false := by
    cases ends : isTerminator c with
    | false => rfl
    | true => rw [terminatorBlank ends] at shown; contradiction
  have whole : Text.dropEndWhile isTerminator s = s := Text.dropEndWhileOfLast last unended
  simp only [Line.read, whole, strip, Mode.ofComment, Bool.false_eq_true, if_false, scanPlain tab plain]
  exact Text.dropEndWhileOfLast last shown

end IndentLint.Source
