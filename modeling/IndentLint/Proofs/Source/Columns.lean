import IndentLint.Proofs.Source.Lead
import IndentLint.Proofs.Source.Tabs

/-! Columns of a line and of its visible text. A visible character stands in the column that the characters
before it take up, so its column leads back to it; and what stands before the first one is blank or belongs
to a comment. -/
namespace IndentLint.Source

inductive Role where
  | code
  | literal
  | comment
  | remark
  deriving DecidableEq, Repr

def roles : Mode → List Char → List Role
  | .comment, [] => []
  | .comment, '*' :: '/' :: rest => .comment :: .comment :: roles .code rest
  | .comment, _ :: rest => .comment :: roles .comment rest
  | .literal _, [] => []
  | .literal quote, '\\' :: _ :: rest => .literal :: .literal :: roles (.literal quote) rest
  | .literal quote, c :: rest =>
    if c = quote then .code :: roles .code rest else .literal :: roles (.literal quote) rest
  | .code, [] => []
  | .code, '/' :: '/' :: rest => .remark :: .remark :: rest.map fun _ => .remark
  | .code, '/' :: '*' :: rest => .comment :: .comment :: roles .comment rest
  | .code, c :: rest => if isQuote c then .code :: roles (.literal c) rest else .code :: roles .code rest

theorem offsetZero (tab : Nat) (s : List Char) : offsetOf tab 0 s = 0 := by
  cases s <;> rfl

structure Aligned (tab : Nat) (raw : List Char) (belongs : List Role) (out : List Char) : Prop where
  fits : out.length ≤ width tab raw
  place : ∀ (column : Nat) (c : Char), out[column]? = some c → c ≠ ' ' →
    raw[offsetOf tab column raw]? = some c ∧ belongs[offsetOf tab column raw]? = some .code

def LeadBlank (tab : Nat) (raw : List Char) (belongs : List Role) (out : List Char) : Prop :=
  ∀ i < offsetOf tab (out.takeWhile (· = ' ')).length raw,
    raw[i]? = some ' ' ∨ raw[i]? = some '\t' ∨ belongs[i]? = some .comment

theorem alignedNil (tab : Nat) (raw : List Char) (belongs : List Role) : Aligned tab raw belongs [] :=
  ⟨Nat.zero_le _, by simp⟩

theorem leadNil (tab : Nat) (raw : List Char) (belongs : List Role) : LeadBlank tab raw belongs [] := by
  intro i before
  simp [offsetZero] at before

theorem leadVisible (tab : Nat) {c : Char} (visible : c ≠ ' ') (raw out : List Char) (belongs : List Role) :
    LeadBlank tab raw belongs (c :: out) := by
  intro i before
  simp [visible, offsetZero] at before

section
variable {tab : Nat} {rest out : List Char} {belongs : List Role}

theorem offsetBehind (c : Char) (more : Nat) (columns : 0 < charWidth tab c) :
    offsetOf tab ((charWidth tab c + more : Nat) : Int) (c :: rest) = offsetOf tab more rest + 1 := by
  have left : ¬ ((charWidth tab c + more : Nat) : Int) ≤ 0 := by omega
  have same : ((charWidth tab c + more : Nat) : Int) - charWidth tab c = more := by omega
  rw [offsetOf, if_neg left, same, Nat.add_comm]

theorem alignedBehind {c : Char} (columns : 0 < charWidth tab c) {role : Role} (shown : List Char)
    (size : shown.length = charWidth tab c)
    (first : ∀ (column : Nat) (d : Char), shown[column]? = some d → d ≠ ' ' → column = 0 ∧ d = c ∧ role = .code)
    (aligned : Aligned tab rest belongs out) : Aligned tab (c :: rest) (role :: belongs) (shown ++ out) := by
  constructor
  · have fits := aligned.fits
    rw [List.length_append, size, width]
    omega
  · intro column d here visible
    by_cases within : column < shown.length
    · rw [List.getElem?_append_left within] at here
      obtain ⟨rfl, rfl, rfl⟩ := first column d here visible
      simp [offsetZero]
    · obtain ⟨more, rfl⟩ := Nat.exists_eq_add_of_le (Nat.le_of_not_lt within)
      rw [List.getElem?_append_right (Nat.le_add_right ..), Nat.add_sub_cancel_left] at here
      rw [size, offsetBehind c more columns]
      exact aligned.place more d here visible

theorem alignedPad {c : Char} (columns : 0 < charWidth tab c) (role : Role)
    (aligned : Aligned tab rest belongs out) :
    Aligned tab (c :: rest) (role :: belongs) (pad (charWidth tab c) out) := by
  rw [padEq]
  refine alignedBehind columns _ List.length_replicate ?_ aligned
  intro column d here visible
  exact absurd (List.eq_of_mem_replicate (List.mem_of_getElem? here)) visible

theorem alignedCons {c : Char} (notTab : c ≠ '\t') (aligned : Aligned tab rest belongs out) :
    Aligned tab (c :: rest) (.code :: belongs) (c :: out) := by
  have single : charWidth tab c = 1 := if_neg notTab
  refine alignedBehind (by omega) [c] single.symm ?_ aligned
  intro column d here visible
  cases column with
  | zero => exact ⟨rfl, (Option.some.inj here).symm, rfl⟩
  | succ column => simp at here

theorem leadPad {c : Char} (columns : 0 < charWidth tab c) (role : Role)
    (blank : c = ' ' ∨ c = '\t' ∨ role = .comment) (lead : LeadBlank tab rest belongs out) :
    LeadBlank tab (c :: rest) (role :: belongs) (pad (charWidth tab c) out) := by
  intro i before
  rw [spacesPad, offsetBehind c _ columns] at before
  cases i with
  | zero => simpa using blank
  | succ i => exact lead i (by omega)

end

theorem charWidthOne (tab : Nat) {c : Char} (notTab : c ≠ '\t') : charWidth tab c = 1 := if_neg notTab

theorem padMarker (tab : Nat) {c d : Char} (first : c ≠ '\t') (second : d ≠ '\t') (s : List Char) :
    pad 2 s = pad (charWidth tab c) (pad (charWidth tab d) s) := by
  rw [charWidthOne tab first, charWidthOne tab second, padPad]

theorem padEscaped (tab : Nat) (c : Char) (s : List Char) :
    pad (1 + charWidth tab c) s = pad (charWidth tab '\\') (pad (charWidth tab c) s) := by
  rw [charWidthOne tab (show '\\' ≠ '\t' by decide), padPad]

section
variable {tab : Nat} (positive : 0 < tab)
include positive

/- Along a scan every character gets its columns. Only the contents of a literal can be hidden before the
first visible character without being blank or a comment, and only if the scan starts in the literal. -/
theorem alignedScan (mode : Mode) (raw : List Char)
    (quoted : Quoted mode) :
    Aligned tab raw (roles mode raw) (scan tab mode raw).1 ∧
      ((∀ quote, mode ≠ .literal quote) → LeadBlank tab raw (roles mode raw) (scan tab mode raw).1) := by
  have columns (c : Char) : 0 < charWidth tab c := charWidthPos positive c
  induction mode, raw using scan.induct tab with
  | case1 => exact ⟨alignedNil .., fun _ => leadNil _ _ _⟩
  | case2 rest out inside _ ih =>
    obtain ⟨aligned, lead⟩ := ih quotedCode
    simp only [scan, roles, padMarker tab (show '*' ≠ '\t' by decide) (show '/' ≠ '\t' by decide)]
    refine ⟨alignedPad (columns _) _ (alignedPad (columns _) _ aligned), fun _ => ?_⟩
    exact leadPad (columns _) _ (by simp) (leadPad (columns _) _ (by simp) (lead (by simp)))
  | case3 c rest early out inside _ ih =>
    obtain ⟨aligned, lead⟩ := ih quotedComment
    rw [scan.eq_3 tab c rest early, roles.eq_3 c rest early]
    exact ⟨alignedPad (columns c) _ aligned, fun _ => leadPad (columns c) _ (by simp) (lead (by simp))⟩
  | case4 quote => exact ⟨alignedNil .., fun _ => leadNil _ _ _⟩
  | case5 quote c rest out inside _ ih =>
    obtain ⟨aligned, -⟩ := ih quoted
    simp only [scan, roles, padEscaped]
    exact ⟨alignedPad (columns _) _ (alignedPad (columns c) _ aligned), by simp⟩
  | case6 c rest early out inside _ ih =>
    obtain ⟨aligned, -⟩ := ih quotedCode
    rw [scan.eq_6 tab c c rest early, roles.eq_6 c c rest early, if_pos rfl, if_pos rfl]
    exact ⟨alignedCons (quotePlain (quoted c rfl)).1 aligned, by simp⟩
  | case7 quote c rest early different out inside _ ih =>
    obtain ⟨aligned, -⟩ := ih quoted
    rw [scan.eq_6 tab quote c rest early, roles.eq_6 quote c rest early, if_neg different, if_neg different]
    exact ⟨alignedPad (columns c) _ aligned, by simp⟩
  | case8 => exact ⟨alignedNil .., fun _ => leadNil _ _ _⟩
  | case9 rest =>
    simp only [scan]
    exact ⟨alignedNil .., fun _ => leadNil _ _ _⟩
  | case10 rest out inside _ ih =>
    obtain ⟨aligned, lead⟩ := ih quotedComment
    simp only [scan, roles, padMarker tab (show '/' ≠ '\t' by decide) (show '*' ≠ '\t' by decide)]
    refine ⟨alignedPad (columns _) _ (alignedPad (columns _) _ aligned), fun _ => ?_⟩
    exact leadPad (columns _) _ (by simp) (leadPad (columns _) _ (by simp) (lead (by simp)))
  | case11 c rest noLine noBlock begins out inside _ ih =>
    obtain ⟨notTab, notSpace, -, -⟩ := quotePlain begins
    rw [scan.eq_10 tab c rest noLine noBlock, roles.eq_10 c rest noLine noBlock, if_pos begins, if_pos begins]
    exact ⟨alignedCons notTab (ih (quotedLiteral begins)).1, fun _ => leadVisible tab notSpace _ _ _⟩
  | case12 c rest noLine noBlock unquoted out inside _ ih =>
    obtain ⟨aligned, lead⟩ := ih quotedCode
    have lead := lead (by simp)
    rw [scan.eq_10 tab c rest noLine noBlock, roles.eq_10 c rest noLine noBlock, if_neg unquoted,
      if_neg unquoted]
    by_cases isTab : c = '\t'
    · have tabs : charWidth tab c = tab := if_pos isTab
      have padded := alignedPad (columns c) .code aligned
      have leads := leadPad (columns c) .code (.inr (.inl isTab)) lead
      rw [tabs] at padded leads
      simp only [if_pos isTab]
      exact ⟨padded, fun _ => leads⟩
    · simp only [if_neg isTab]
      refine ⟨alignedCons isTab aligned, fun _ => ?_⟩
      by_cases isSpace : c = ' '
      · have single := leadPad (columns c) .code (.inl isSpace) lead
        rw [charWidthOne tab isTab] at single
        rw [isSpace] at single ⊢
        exact single
      · exact leadVisible tab isSpace _ _ _

end

theorem spacesPrefix {s ending : List Char} {c : Char} (member : c ∈ s) (visible : c ≠ ' ') :
    (s ++ ending).takeWhile (· = ' ') = s.takeWhile (· = ' ') := by
  have stops : (s.takeWhile (· = ' ')).length ≠ s.length := by
    intro whole
    have all := (List.takeWhile_prefix (l := s) (· = ' ')).eq_of_length whole
    rw [← all] at member
    exact visible (by simpa using List.mem_takeWhile_imp member)
  rw [List.takeWhile_append, if_neg stops]

theorem firstBehindSpaces {s : List Char} {c : Char} (member : c ∈ s) (visible : c ≠ ' ') :
    ∃ d, s[(s.takeWhile (· = ' ')).length]? = some d ∧ d ≠ ' ' := by
  have split := List.takeWhile_append_dropWhile (p := (· = ' ')) (l := s)
  have shown : s.dropWhile (· = ' ') ≠ [] := by
    intro nothing
    exact visible (by simpa using List.dropWhile_eq_nil_iff.mp nothing c member)
  refine ⟨(s.dropWhile (· = ' ')).head shown, ?_, ?_⟩
  · nth_rewrite 1 [← split]
    rw [List.getElem?_append_right (Nat.le_refl _), Nat.sub_self, ← List.head?_eq_getElem?,
      List.head?_eq_some_head]
  · simpa using List.head_dropWhile_not (· = ' ') shown

structure FirstVisible (inside : Bool) (line : Line) : Prop where
  here : ∃ c, line.visible[line.indent]? = some c ∧ c ≠ ' ' ∧
    line.raw[line.offset line.indent]? = some c ∧
    (roles (.ofComment inside) line.raw)[line.offset line.indent]? = some .code
  before : ∀ i < line.offset line.indent, line.raw[i]? = some ' ' ∨ line.raw[i]? = some '\t' ∨
    (roles (.ofComment inside) line.raw)[i]? = some .comment

structure ColumnsKept (tab : Nat) (inside : Bool) (line : Line) : Prop where
  place : ∀ (column : Nat) (c : Char), line.visible[column]? = some c → c ≠ ' ' →
    line.raw[line.offset column]? = some c
  fits : line.visible.length ≤ width tab line.raw
  first : line.isBlank = false → FirstVisible inside line

theorem visibleMember {tab : Nat} {inside : Bool} {raw : List Char}
    (shown : Text.trim (strip tab inside raw).1 ≠ []) : ∃ c ∈ (strip tab inside raw).1, c ≠ ' ' := by
  have kept : (strip tab inside raw).1 ≠ [] := by
    intro nothing
    rw [nothing] at shown
    exact shown rfl
  obtain ⟨c, last, stops⟩ := Text.dropEndWhileLast kept
  refine ⟨c, List.mem_of_getLast? last, ?_⟩
  rintro rfl
  contradiction

theorem readScanned (tab : Nat) (inside : Bool) (index : Nat) (text : List Char) :
    let line := (Line.read tab inside index text).1
    ∃ ending, (scan tab (.ofComment inside) line.raw).1 = line.visible ++ ending := by
  intro line
  obtain ⟨ending, split, -⟩ :=
    Text.dropEndWhileSplit Text.isBlank (scan tab (.ofComment inside) line.raw).1
  exact ⟨ending, split⟩

section
variable {tab : Nat} (positive : 0 < tab) (inside : Bool) (index : Nat) (text : List Char)
include positive

theorem readAligned : let line := (Line.read tab inside index text).1
    line.visible.length ≤ width tab line.raw ∧
    ∀ (column : Nat) (c : Char), line.visible[column]? = some c → c ≠ ' ' →
      line.raw[line.offset column]? = some c ∧
      (roles (.ofComment inside) line.raw)[line.offset column]? = some .code := by
  intro line
  obtain ⟨ending, cut⟩ := readScanned tab inside index text
  obtain ⟨aligned, -⟩ := alignedScan positive (.ofComment inside) line.raw
    fun quote same => absurd same (ofCommentOutside inside quote)
  rw [cut] at aligned
  constructor
  · have fits := aligned.fits
    rw [List.length_append] at fits
    exact Nat.le_trans (Nat.le_add_right _ _) fits
  · intro column c here shown
    refine aligned.place column c ?_ shown
    rw [List.getElem?_append_left (List.getElem?_eq_some_iff.mp here).1, here]

theorem readFirst : let line := (Line.read tab inside index text).1
    line.isBlank = false → FirstVisible inside line := by
  intro line nonblank
  have shown : Text.trim line.visible ≠ [] := by simpa [Line.isBlank, Line.trimmed] using nonblank
  obtain ⟨c, member, notSpace⟩ := visibleMember shown
  obtain ⟨d, here, first⟩ := firstBehindSpaces member notSpace
  obtain ⟨ending, cut⟩ := readScanned tab inside index text
  have outside := ofCommentOutside inside
  have blank := (alignedScan positive (.ofComment inside) line.raw
    fun quote same => absurd same (outside quote)).2 outside
  have spaces : (line.visible ++ ending).takeWhile (· = ' ') = line.visible.takeWhile (· = ' ') :=
    spacesPrefix member notSpace
  rw [cut, LeadBlank, spaces] at blank
  exact ⟨⟨d, here, first, (readAligned positive inside index text).2 _ d here first⟩, blank⟩

theorem visibleColumnsKept : ColumnsKept tab inside (Line.read tab inside index text).1 := by
  obtain ⟨fits, place⟩ := readAligned positive inside index text
  exact ⟨fun column c here shown => (place column c here shown).1, fits, readFirst positive inside index text⟩

end

def commentedLine : List Char := "\tz */\t/**/ \"a\tb\"; // c\r".toList

theorem commentedLineColumns :
    (Line.read 3 true 0 commentedLine).1.visible = "               \"     \";".toList ∧
      (Line.read 3 true 0 commentedLine).1.offset 15 = 11 ∧
      ColumnsKept 3 true (Line.read 3 true 0 commentedLine).1 :=
  ⟨by decide, by decide, visibleColumnsKept (by decide) true 0 commentedLine⟩

end IndentLint.Source
