import IndentLint.Text.Blank
import IndentLint.Text.Word
import Mathlib.Data.List.DropRight

/-! Trimming, and what a text keeps when spaces stand before it. -/
namespace IndentLint.Text

/- What holds of all characters of a text is decided over the text, not over all characters. -/
instance (priority := 2000) decidableAll (p : Char → Prop) [DecidablePred p] (s : List Char) :
    Decidable (∀ c ∈ s, p c) :=
  List.decidableBAll p s

instance (priority := 2000) decidableOptional (p : Char → Prop) [DecidablePred p] (o : Option Char) :
    Decidable (∀ c ∈ o, p c) :=
  match o with
  | none => .isTrue (by simp)
  | some c => decidable_of_iff (p c) (by simp)

theorem dropEndWhileEq (p : Char → Bool) (s : List Char) : dropEndWhile p s = s.rdropWhile p := rfl

theorem dropEndWhileAppend (p : Char → Bool) (first second : List Char)
    (kept : dropEndWhile p second ≠ []) :
    dropEndWhile p (first ++ second) = first ++ dropEndWhile p second := by
  have stops : (second.reverse.dropWhile p).isEmpty = false := by
    simpa [dropEndWhile, List.isEmpty_iff] using kept
  simp only [dropEndWhile, List.reverse_append, List.dropWhile_append, stops]
  simp

theorem dropEndWhileOfLast {p : Char → Bool} {s : List Char} {c : Char}
    (last : s.getLast? = some c) (stops : p c = false) : dropEndWhile p s = s := by
  rw [dropEndWhileEq, List.rdropWhile_eq_self_iff]
  intro nonempty
  rw [List.getLast?_eq_some_getLast nonempty] at last
  cases Option.some.inj last
  simp [stops]

theorem dropEndWhileSplit (p : Char → Bool) (s : List Char) :
    ∃ ending, s = dropEndWhile p s ++ ending ∧ ∀ c ∈ ending, p c := by
  refine ⟨s.rtakeWhile p, ?_, ?_⟩
  · rw [dropEndWhileEq, List.rdropWhile_append_rtakeWhile]
  · intro c mem
    exact List.mem_rtakeWhile_imp mem

theorem dropEndWhileDropsEnding {p : Char → Bool} {s ending : List Char}
    (all : ∀ c ∈ ending, p c) : dropEndWhile p (s ++ ending) = dropEndWhile p s := by
  simp only [dropEndWhile, List.reverse_append]
  rw [List.dropWhile_append_of_pos]
  intro c mem
  exact all c (List.mem_reverse.mp mem)

theorem dropEndWhileBehind {p : Char → Bool} {first : List Char} (whole : dropEndWhile p first = first)
    (second : List Char) : dropEndWhile p (first ++ second) = first ++ dropEndWhile p second := by
  by_cases nothing : dropEndWhile p second = []
  · have all : ∀ c ∈ second, p c := List.rdropWhile_eq_nil_iff.mp nothing
    rw [dropEndWhileDropsEnding all, whole, nothing, List.append_nil]
  · exact dropEndWhileAppend p first second nothing

theorem dropEndWhileLast {p : Char → Bool} {s : List Char} (kept : dropEndWhile p s ≠ []) :
    ∃ c, (dropEndWhile p s).getLast? = some c ∧ p c = false := by
  refine ⟨(dropEndWhile p s).getLast kept, List.getLast?_eq_some_getLast kept, ?_⟩
  have stops := List.rdropWhile_last_not p s kept
  simpa [dropEndWhileEq] using stops

theorem trimOfBlank {s : List Char} (all : ∀ c ∈ s, isBlank c) : trim s = [] := by
  have start : trimStart s = [] := List.dropWhile_eq_nil_iff.mpr all
  simp [trim, start, trimEnd, dropEndWhile]

theorem blankOfTrim {s : List Char} (nothing : trim s = []) : ∀ c ∈ s, isBlank c := by
  have behind : ∀ c ∈ trimStart s, isBlank c := List.rdropWhile_eq_nil_iff.mp nothing
  intro c mem
  rw [← List.takeWhile_append_dropWhile (p := isBlank) (l := s)] at mem
  rcases List.mem_append.mp mem with before | after
  · exact List.mem_takeWhile_imp before
  · exact behind c after

theorem trimSublist (s : List Char) : (trim s).Sublist s :=
  (List.rdropWhile_prefix isBlank _).sublist.trans (List.dropWhile_sublist isBlank)

theorem trimHeadNe {s : List Char} {c : Char} (absent : c ∉ s) : (trim s).head? ≠ some c := by
  intro head
  exact absent ((trimSublist s).mem (List.mem_of_head? head))

theorem trimHeadSplit {s : List Char} {c : Char} (head : (trim s).head? = some c) :
    ∃ blanks rest, s = blanks ++ c :: rest ∧ ∀ b ∈ blanks, isBlank b := by
  have begins : trim s <+: trimStart s := List.rdropWhile_prefix isBlank _
  obtain ⟨first, shown⟩ : ∃ first, trim s = c :: first := List.head?_eq_some_iff.mp head
  rw [shown] at begins
  obtain ⟨rest, behind⟩ := begins
  refine ⟨s.takeWhile isBlank, first ++ rest, ?_, fun b mem => List.mem_takeWhile_imp mem⟩
  rw [← List.cons_append, behind]
  exact List.takeWhile_append_dropWhile.symm

theorem trimLastNe {s : List Char} {c : Char} (absent : c ∉ s) : (trim s).getLast? ≠ some c := by
  intro last
  exact absent ((trimSublist s).mem (List.mem_of_getLast? last))

theorem trimLast {s : List Char} {c : Char} (last : s.getLast? = some c) (shown : isBlank c = false) :
    (trim s).getLast? = some c := by
  have kept : (trimStart s).getLast? = some c := by
    obtain ⟨front, rfl⟩ := List.getLast?_eq_some_iff.mp last
    rw [trimStart, List.dropWhile_append]
    split
    · simp [shown]
    · simp
  rw [trim, trimEnd, dropEndWhileOfLast kept shown, kept]

theorem trimEnds {s : List Char} (kept : trim s ≠ []) :
    (∃ c ∈ s, (trim s).head? = some c ∧ isBlank c = false) ∧
      ∃ c ∈ s, (trim s).getLast? = some c ∧ isBlank c = false := by
  obtain ⟨last, isLast, lastShown⟩ := dropEndWhileLast (p := isBlank) (s := trimStart s) kept
  obtain ⟨first, behind, shown⟩ := List.exists_cons_of_ne_nil kept
  have head : (trim s).head? = some first := by rw [shown, List.head?_cons]
  have starts : (trimStart s).head? = some first := by
    obtain ⟨rest, whole⟩ : trim s <+: trimStart s := List.rdropWhile_prefix isBlank _
    rw [← whole, shown, List.cons_append, List.head?_cons]
  have firstShown := List.head?_dropWhile_not isBlank s
  rw [show (s.dropWhile isBlank).head? = some first from starts] at firstShown
  refine ⟨⟨first, (trimSublist s).mem (List.mem_of_head? head), head, by simpa using firstShown⟩, ?_⟩
  exact ⟨last, (trimSublist s).mem (List.mem_of_getLast? isLast), isLast, lastShown⟩

theorem trimOfEnds {s : List Char} (starts : ∀ c ∈ s.head?, isBlank c = false)
    (stops : ∀ c ∈ s.getLast?, isBlank c = false) : trim s = s := by
  cases s with
  | nil => rfl
  | cons c rest =>
    have first : isBlank c = false := starts c rfl
    have last := List.getLast?_eq_some_getLast (List.cons_ne_nil c rest)
    have whole : trimStart (c :: rest) = c :: rest := by simp [trimStart, first]
    rw [trim, whole]
    exact dropEndWhileOfLast last (stops _ last)

theorem spacesBlank (n : Nat) : ∀ c ∈ List.replicate n ' ', isBlank c = true := by
  intro c mem
  rw [List.eq_of_mem_replicate mem]
  decide

theorem trimIndented (n : Nat) (s : List Char) : trim (List.replicate n ' ' ++ s) = trim s := by
  simp only [trim, trimStart]
  rw [List.dropWhile_append_of_pos (spacesBlank n)]

theorem hasWordIndented {choices : List (List Char)} (proper : [] ∉ choices) (n : Nat)
    (s : List Char) : hasWord choices (List.replicate n ' ' ++ s) = hasWord choices s := by
  induction n with
  | zero => rfl
  | succ n ih =>
    have space : isWord ' ' = false := by decide
    simp only [hasWord] at ih ⊢
    simp [List.replicate_succ, hasWordAfter, space, proper, ih]

theorem hasWordAfterSplit (choices : List (List Char)) (read first : List Char) {c : Char}
    (gap : isWord c = false) (rest : List Char) : hasWordAfter choices read (first ++ c :: rest) =
      (hasWordAfter choices read first || hasWordAfter choices [] rest) := by
  induction first generalizing read with
  | nil => simp [hasWordAfter, gap]
  | cons d first ih =>
    rw [List.cons_append, hasWordAfter, hasWordAfter, ih, ih]
    split
    · rfl
    · rw [Bool.or_assoc]

theorem hasWordSplit (choices : List (List Char)) (first : List Char) {c : Char} (gap : isWord c = false)
    (rest : List Char) : hasWord choices (first ++ c :: rest) = (hasWord choices first || hasWord choices rest) :=
  hasWordAfterSplit choices [] first gap rest

theorem hasWordBehind {choices : List (List Char)} (proper : [] ∉ choices) {c : Char} (gap : isWord c = false)
    (rest : List Char) : hasWord choices (c :: rest) = hasWord choices rest := by
  have none : hasWord choices [] = false := by simpa [hasWord, hasWordAfter] using proper
  rw [← List.nil_append (c :: rest), hasWordSplit choices [] gap, none, Bool.false_or]

end IndentLint.Text
