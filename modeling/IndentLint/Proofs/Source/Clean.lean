import IndentLint.Proofs.Source.Scan

/-! Visible text has nothing left to strip. No comment begins in it, its literals hold spaces only and its
tabs are expanded, so a scan of it that starts in code leaves it as it is. -/
namespace IndentLint.Source

inductive Clean : Mode → List Char → Prop
  | code : Clean .code []
  | literal (quote : Char) : Clean (.literal quote) []
  | plain {c : Char} {rest : List Char} (notTab : c ≠ '\t') (unquoted : isQuote c = false)
      (alone : c = '/' → rest.head? ≠ some '/' ∧ rest.head? ≠ some '*') (later : Clean .code rest) :
      Clean .code (c :: rest)
  | opens {quote : Char} {rest : List Char} (quoted : isQuote quote = true)
      (later : Clean (.literal quote) rest) : Clean .code (quote :: rest)
  | closes {quote : Char} {rest : List Char} (quoted : isQuote quote = true) (later : Clean .code rest) :
      Clean (.literal quote) (quote :: rest)
  | filler {quote : Char} {rest : List Char} (quoted : isQuote quote = true)
      (later : Clean (.literal quote) rest) : Clean (.literal quote) (' ' :: rest)

theorem scanClean (tab : Nat) {mode : Mode} {s : List Char} (clean : Clean mode s) :
    scan tab mode s = (s, false) := by
  induction clean with
  | code => rfl
  | literal quote => rfl
  | @plain c rest notTab unquoted alone later ih =>
    have noLine : ∀ more, c = '/' → rest = '/' :: more → False := by
      rintro more isSlash rfl
      exact (alone isSlash).1 rfl
    have noBlock : ∀ more, c = '/' → rest = '*' :: more → False := by
      rintro more isSlash rfl
      exact (alone isSlash).2 rfl
    rw [scan.eq_10 tab c rest noLine noBlock, ih]
    simp [unquoted, notTab]
  | @opens quote rest quoted later ih =>
    obtain ⟨-, -, notSlash, -⟩ := quotePlain quoted
    rw [scan.eq_10 tab quote rest (fun _ isSlash => absurd isSlash notSlash)
      (fun _ isSlash => absurd isSlash notSlash), ih, if_pos quoted]
  | @closes quote rest quoted later ih =>
    obtain ⟨-, -, -, notEscape⟩ := quotePlain quoted
    rw [scan.eq_6 tab quote quote rest (fun _ _ isEscape => absurd isEscape notEscape), if_pos rfl, ih]
  | @filler quote rest quoted later ih =>
    obtain ⟨-, notSpace, -, -⟩ := quotePlain quoted
    rw [scan.eq_6 tab quote ' ' rest (by simp), if_neg (Ne.symm notSpace), ih]
    rfl

theorem cleanCodePad (n : Nat) {s : List Char} (clean : Clean .code s) : Clean .code (pad n s) := by
  induction n generalizing s with
  | zero => exact clean
  | succ n ih => exact ih (.plain (by decide) rfl (by simp) clean)

theorem cleanLiteralPad {quote : Char} (quoted : isQuote quote = true) (n : Nat) {s : List Char}
    (clean : Clean (.literal quote) s) : Clean (.literal quote) (pad n s) := by
  induction n generalizing s with
  | zero => exact clean
  | succ n ih => exact ih (.filler quoted clean)

theorem cleanPrefix {mode : Mode} {s ending : List Char} (clean : Clean mode (s ++ ending)) : Clean mode s := by
  generalize whole : s ++ ending = text at clean
  induction clean generalizing s with
  | code =>
    rw [(List.append_eq_nil_iff.mp whole).1]
    exact .code
  | literal quote =>
    rw [(List.append_eq_nil_iff.mp whole).1]
    exact .literal quote
  | plain notTab unquoted alone later ih =>
    cases s with
    | nil => exact .code
    | cons d more =>
      obtain ⟨rfl, rest⟩ := List.cons.inj whole
      refine .plain notTab unquoted (fun isSlash => ?_) (ih rest)
      cases more with
      | nil => simp
      | cons e more =>
        rw [← rest] at alone
        exact alone isSlash
  | opens quoted later ih =>
    cases s with
    | nil => exact .code
    | cons d more =>
      obtain ⟨rfl, rest⟩ := List.cons.inj whole
      exact .opens quoted (ih rest)
  | closes quoted later ih =>
    cases s with
    | nil => exact .literal _
    | cons d more =>
      obtain ⟨rfl, rest⟩ := List.cons.inj whole
      exact .closes quoted (ih rest)
  | filler quoted later ih =>
    cases s with
    | nil => exact .literal _
    | cons d more =>
      obtain ⟨rfl, rest⟩ := List.cons.inj whole
      exact .filler quoted (ih rest)

/- How the output of a scan is to be read again: comments have become spaces between code. -/
def Mode.again : Mode → Mode
  | .literal quote => .literal quote
  | _ => .code

theorem padHead {n : Nat} (columns : 0 < n) (s : List Char) : (pad n s).head? = some ' ' := by
  obtain ⟨n, rfl⟩ := Nat.exists_eq_add_one_of_ne_zero (Nat.pos_iff_ne_zero.mp columns)
  simp [padEq, List.replicate_succ]

section
variable {tab : Nat} (positive : 0 < tab)
include positive

theorem codeHead {raw : List Char} {c : Char} (first : (scan tab .code raw).1.head? = some c)
    (visible : c ≠ ' ') : raw.head? = some c := by
  cases raw with
  | nil => contradiction
  | cons d rest =>
    by_cases comment : d = '/' ∧ (rest.head? = some '/' ∨ rest.head? = some '*')
    · obtain ⟨rfl, second⟩ := comment
      cases rest with
      | nil => simp at second
      | cons e rest =>
        rcases second with line | block
        · cases Option.some.inj line
          simp [scan] at first
        · cases Option.some.inj block
          simp only [scan, padHead Nat.two_pos, Option.some.injEq] at first
          exact absurd first.symm visible
    · have noLine : ∀ more, d = '/' → rest = '/' :: more → False := by
        rintro more isSlash rfl
        exact comment ⟨isSlash, .inl rfl⟩
      have noBlock : ∀ more, d = '/' → rest = '*' :: more → False := by
        rintro more isSlash rfl
        exact comment ⟨isSlash, .inr rfl⟩
      rw [scan.eq_10 tab d rest noLine noBlock] at first
      split at first
      · exact first
      · by_cases isTab : d = '\t'
        · simp only [if_pos isTab, padHead positive, Option.some.injEq] at first
          exact absurd first.symm visible
        · simpa only [if_neg isTab, List.head?_cons] using first

theorem cleanScan {mode : Mode} (raw : List Char) (quoted : Quoted mode) :
    Clean mode.again (scan tab mode raw).1 := by
  induction mode, raw using scan.induct tab with
  | case1 => exact .code
  | case2 rest out inside _ ih =>
    simp only [scan]
    exact cleanCodePad 2 (ih quotedCode)
  | case3 c rest early out inside _ ih =>
    rw [scan.eq_3 tab c rest early]
    exact cleanCodePad _ (ih quotedComment)
  | case4 quote => exact .literal quote
  | case5 quote c rest out inside _ ih =>
    simp only [scan]
    exact cleanLiteralPad (quoted quote rfl) _ (ih quoted)
  | case6 c rest early out inside _ ih =>
    rw [scan.eq_6 tab c c rest early, if_pos rfl]
    exact .closes (quoted c rfl) (ih quotedCode)
  | case7 quote c rest early different out inside _ ih =>
    rw [scan.eq_6 tab quote c rest early, if_neg different]
    exact cleanLiteralPad (quoted quote rfl) _ (ih quoted)
  | case8 => exact .code
  | case9 rest =>
    simp only [scan]
    exact .code
  | case10 rest out inside _ ih =>
    simp only [scan]
    exact cleanCodePad 2 (ih quotedComment)
  | case11 c rest noLine noBlock begins out inside _ ih =>
    rw [scan.eq_10 tab c rest noLine noBlock, if_pos begins]
    exact .opens begins (ih (quotedLiteral begins))
  | case12 c rest noLine noBlock unquoted out inside _ ih =>
    rw [scan.eq_10 tab c rest noLine noBlock, if_neg unquoted]
    by_cases isTab : c = '\t'
    · simp only [if_pos isTab]
      exact cleanCodePad tab (ih quotedCode)
    · simp only [if_neg isTab]
      refine .plain isTab (by simpa using unquoted) (fun isSlash => ⟨?_, ?_⟩) (ih quotedCode)
      -- A marker would have to stand behind the slash already.
      · intro slash
        obtain ⟨more, begins⟩ := List.head?_eq_some_iff.mp (codeHead positive slash (by decide))
        exact noLine more isSlash begins
      · intro star
        obtain ⟨more, begins⟩ := List.head?_eq_some_iff.mp (codeHead positive star (by decide))
        exact noBlock more isSlash begins

theorem cleanStrip (inside : Bool) (raw : List Char) : Clean .code (strip tab inside raw).1 := by
  have again : (Mode.ofComment inside).again = .code := by cases inside <;> rfl
  have clean := cleanScan positive raw (quotedInside inside)
  rw [again] at clean
  obtain ⟨ending, split, -⟩ := Text.dropEndWhileSplit Text.isBlank (scan tab (.ofComment inside) raw).1
  rw [split] at clean
  exact cleanPrefix clean

theorem stripLeavesNothing (other : Nat) (inside : Bool) (raw : List Char) :
    strip other false (strip tab inside raw).1 = ((strip tab inside raw).1, false) := by
  have scanned := scanClean other (cleanStrip positive inside raw)
  have trimmed : Text.trimEnd (strip tab inside raw).1 = (strip tab inside raw).1 :=
    List.rdropWhile_idempotent ..
  simp only [strip, Mode.ofComment] at scanned trimmed ⊢
  simp [scanned, trimmed]

end

def tangledLine : List Char := "a */ b = \"\\\"/*\"; /\t/ c /**/ 'd // ".toList

theorem tangledLineStripsOnce :
    strip 2 true tangledLine = ("     b = \"    \"; /  / c      '".toList, false) ∧
      strip 5 false (strip 2 true tangledLine).1 = ((strip 2 true tangledLine).1, false) :=
  ⟨by decide, stripLeavesNothing Nat.two_pos 5 true tangledLine⟩

end IndentLint.Source
