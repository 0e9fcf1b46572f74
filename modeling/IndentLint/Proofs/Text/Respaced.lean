import IndentLint.Proofs.Text.Trim

/-! Texts that differ only in how many spaces stand where there are some. They have the same words,
the same ends, and as many of every other character. -/
namespace IndentLint.Text

inductive Respaced : List Char → List Char → Prop where
  | nil : Respaced [] []
  | cons (c : Char) {s t : List Char} (later : Respaced s t) : Respaced (c :: s) (c :: t)
  | gap {m n : Nat} (first : 0 < m) (second : 0 < n) {s t : List Char} (later : Respaced s t) :
      Respaced (List.replicate m ' ' ++ s) (List.replicate n ' ' ++ t)

theorem gapCons {m : Nat} (some : 0 < m) (s : List Char) :
    ∃ k, List.replicate m ' ' ++ s = ' ' :: (List.replicate k ' ' ++ s) := by
  cases m with
  | zero => contradiction
  | succ k => exact ⟨k, rfl⟩

theorem respacedAppend {s t : List Char} (front : Respaced s t) {u v : List Char} (back : Respaced u v) :
    Respaced (s ++ u) (t ++ v) := by
  induction front with
  | nil => exact back
  | cons c _ ih => exact .cons c ih
  | gap first second _ ih =>
    rw [List.append_assoc, List.append_assoc]
    exact .gap first second ih

theorem respacedReverse {s t : List Char} (same : Respaced s t) : Respaced s.reverse t.reverse := by
  induction same with
  | nil => exact .nil
  | cons c _ ih =>
    rw [List.reverse_cons, List.reverse_cons]
    exact respacedAppend ih (.cons c .nil)
  | gap first second _ ih =>
    have spaces := Respaced.gap first second .nil
    rw [List.append_nil, List.append_nil] at spaces
    rw [List.reverse_append, List.reverse_append, List.reverse_replicate, List.reverse_replicate]
    exact respacedAppend ih spaces

theorem respacedHead {s t : List Char} (same : Respaced s t) : t.head? = s.head? := by
  cases same with
  | nil => rfl
  | cons c later => rfl
  | gap first second later =>
    obtain ⟨j, left⟩ := gapCons first _
    obtain ⟨k, right⟩ := gapCons second _
    rw [left, right]
    rfl

theorem respacedLast {s t : List Char} (same : Respaced s t) : t.getLast? = s.getLast? := by
  rw [← List.head?_reverse, respacedHead (respacedReverse same), List.head?_reverse]

theorem respacedNil {s t : List Char} (same : Respaced s t) : t = [] ↔ s = [] := by
  rw [← List.head?_eq_none_iff, respacedHead same, List.head?_eq_none_iff]

theorem respacedTrimStart {s t : List Char} (same : Respaced s t) : Respaced (trimStart s) (trimStart t) := by
  induction same with
  | nil => exact .nil
  | cons c later ih =>
    simp only [trimStart, List.dropWhile_cons]
    cases isBlank c with
    | true => exact ih
    | false => exact .cons c later
  | gap _ _ _ ih =>
    simp only [trimStart]
    rw [List.dropWhile_append_of_pos (spacesBlank _), List.dropWhile_append_of_pos (spacesBlank _)]
    exact ih

theorem respacedTrimEnd {s t : List Char} (same : Respaced s t) : Respaced (trimEnd s) (trimEnd t) :=
  respacedReverse (respacedTrimStart (respacedReverse same))

theorem respacedTrim {s t : List Char} (same : Respaced s t) : Respaced (trim s) (trim t) :=
  respacedTrimEnd (respacedTrimStart same)

theorem respacedCount {c : Char} (visible : c ≠ ' ') {s t : List Char} (same : Respaced s t) :
    t.count c = s.count c := by
  have noSpace : ∀ n, (List.replicate n ' ').count c = 0 := by
    intro n
    rw [List.count_eq_zero]
    exact fun mem => visible (List.eq_of_mem_replicate mem)
  induction same with
  | nil => rfl
  | cons d _ ih => rw [List.count_cons, ih, List.count_cons]
  | gap _ _ _ ih => rw [List.count_append, noSpace, ih, List.count_append, noSpace]

theorem respacedTakeWord {s t : List Char} (same : Respaced s t) :
    t.takeWhile isWord = s.takeWhile isWord := by
  induction same with
  | nil => rfl
  | cons c _ ih => rw [List.takeWhile_cons, ih, List.takeWhile_cons]
  | gap first second _ _ =>
    have space : isWord ' ' = false := by decide
    obtain ⟨j, left⟩ := gapCons first _
    obtain ⟨k, right⟩ := gapCons second _
    rw [left, right, List.takeWhile_cons, List.takeWhile_cons, space]
    rfl

theorem hasWordAfterGap {choices : List (List Char)} (proper : [] ∉ choices) {m : Nat} (some : 0 < m)
    (read s : List Char) : hasWordAfter choices read (List.replicate m ' ' ++ s) =
      (choices.contains read.reverse || hasWordAfter choices [] s) := by
  have space : isWord ' ' = false := by decide
  obtain ⟨k, gap⟩ := gapCons some s
  have rest : hasWordAfter choices [] (List.replicate k ' ' ++ s) = hasWordAfter choices [] s :=
    hasWordIndented proper k s
  rw [gap, hasWordAfter, space, rest]
  rfl

theorem respacedHasWordAfter {choices : List (List Char)} (proper : [] ∉ choices) {s t : List Char}
    (same : Respaced s t) (read : List Char) :
    hasWordAfter choices read t = hasWordAfter choices read s := by
  induction same generalizing read with
  | nil => rfl
  | cons c _ ih =>
    unfold hasWordAfter
    rw [ih, ih]
  | gap first second _ ih => rw [hasWordAfterGap proper first, hasWordAfterGap proper second, ih]

theorem respacedHasWord {choices : List (List Char)} (proper : [] ∉ choices) {s t : List Char}
    (same : Respaced s t) : hasWord choices t = hasWord choices s := respacedHasWordAfter proper same []

theorem respacedStartsWithWord (choices : List (List Char)) {s t : List Char} (same : Respaced s t) :
    startsWithWord choices t = startsWithWord choices s := by
  rw [startsWithWord, respacedTakeWord same, startsWithWord]

end IndentLint.Text
