import IndentLint.Layout.Tracker
import IndentLint.Proofs.Source.Scan

/-! What the tracker takes from a text. Spaces before a text do not matter to it, and a text
without braces opens and closes nothing. -/
namespace IndentLint.Layout
open Source (pad padEq trimPad absentSpaces)

theorem controlWordsProper : [] ∉ controlWords := by decide

theorem hasControlWordPad (n : Nat) (text : List Char) :
    hasControlWord (pad n text) = hasControlWord text := by
  rw [padEq]
  exact Text.hasWordIndented controlWordsProper n text

theorem countPad {c : Char} (visible : c ≠ ' ') (n : Nat) (text : List Char) :
    (pad n text).count c = text.count c := by
  rw [padEq, List.count_append, List.count_eq_zero.mpr (absentSpaces visible n), Nat.zero_add]

theorem countOpenPad (n : Nat) (text : List Char) : (pad n text).count '{' = text.count '{' :=
  countPad (by decide) n text

theorem countClosePad (n : Nat) (text : List Char) : (pad n text).count '}' = text.count '}' :=
  countPad (by decide) n text

theorem parensBalancedPad (n : Nat) (text : List Char) :
    parensBalanced (pad n text) = parensBalanced text := by
  have opens : (pad n text).count '(' = text.count '(' := countPad (by decide) n text
  have closes : (pad n text).count ')' = text.count ')' := countPad (by decide) n text
  rw [parensBalanced, parensBalanced, opens, closes]

namespace Tracker

variable {α : Type}

theorem foldlBraceNone (t : Tracker α) {text : List Char} (noOpen : '{' ∉ text)
    (noClose : '}' ∉ text) : text.foldl brace t = t := by
  induction text with
  | nil => rfl
  | cons c rest ih =>
    have opens : c ≠ '{' := fun h => noOpen (by simp [h])
    have closes : c ≠ '}' := fun h => noClose (by simp [h])
    rw [List.foldl_cons, brace, if_neg opens, if_neg closes]
    exact ih (fun mem => noOpen (by simp [mem])) (fun mem => noClose (by simp [mem]))

theorem foldlBracePad (t : Tracker α) (n : Nat) (text : List Char) :
    (pad n text).foldl brace t = text.foldl brace t := by
  rw [padEq, List.foldl_append,
    foldlBraceNone t (absentSpaces (by decide) n) (absentSpaces (by decide) n)]

theorem popFrame (t : Tracker α) :
    t.pop = { t with frames := t.frames.tail, pending := t.frames.headD 0 } := by
  unfold pop
  split
  · rename_i none
    rw [none]
    rfl
  · rename_i saved
    rw [saved]
    rfl

theorem shiftTo {t : Tracker Int} {levels width : Int} (moved : t.expected + levels * t.unit = width)
    (nonneg : 0 ≤ width) : t.shift levels = { t with expected := width } := by
  have lands : Width.shift t.expected levels t.unit = width := by
    change max 0 (t.expected + levels * t.unit) = width
    rw [moved, Int.max_eq_right nonneg]
  rw [shift, lands]

theorem shiftNone {t : Tracker Int} (nonneg : 0 ≤ t.expected) : t.shift 0 = t := by
  have unmoved : t.expected + 0 * t.unit = t.expected := by rw [Int.zero_mul, Int.add_zero]
  exact shiftTo unmoved nonneg

variable [Width α]

theorem enterPad (t : Tracker α) (n : Nat) (text : List Char) : t.enter (pad n text) = t.enter text := by
  simp only [enter, trimPad]

theorem settlePad (t : Tracker α) (n : Nat) (text : List Char) :
    t.settle (pad n text) = t.settle text := by
  simp only [settle]
  rw [trimPad, hasControlWordPad, parensBalancedPad, countOpenPad, countClosePad]

theorem leavePad (t : Tracker α) (n : Nat) (text : List Char) : t.leave (pad n text) = t.leave text := by
  simp only [leave]
  rw [trimPad, countOpenPad, countClosePad, foldlBracePad, settlePad]

def feed (t : Tracker α) (text : List Char) : Tracker α := (t.enter text).leave text

def run (t : Tracker α) (texts : List (List Char)) : Tracker α := texts.foldl feed t

theorem runConcat (t : Tracker α) (texts : List (List Char)) (text : List Char) :
    t.run (texts ++ [text]) = (t.run texts).feed text := List.foldl_concat feed t text texts

def targets (t : Tracker α) : List (List Char) → List (Target α)
  | [] => []
  | text :: rest => (t.enter text).target :: targets (t.feed text) rest

theorem targetsAppend (t : Tracker α) (texts more : List (List Char)) :
    t.targets (texts ++ more) = t.targets texts ++ (t.run texts).targets more := by
  induction texts generalizing t with
  | nil => rfl
  | cons text rest ih =>
    rw [List.cons_append, targets, ih, targets, List.cons_append]
    rfl

/- Entering a line counts a closing brace at its start, and then does one of four things. -/
def outdented (t : Tracker α) (text : List Char) : Tracker α :=
  if (Text.trim text).head? = some '}' then t.shift (-1) else t

inductive Entry (text : List Char) (t : Tracker α) : Tracker α → Prop where
  | opener (waits : t.awaiting = true) (opens : (Text.trim text).head? = some '{') (more : 0 < t.pending) :
      Entry text t { t with awaiting := false, pending := t.pending - 1 }
  | block (waits : t.awaiting = true) (opens : (Text.trim text).head? = some '{') (none : ¬ 0 < t.pending) :
      Entry text t ({ t with awaiting := false } : Tracker α).pop
  | body (more : 0 < t.pending) : Entry text t { t.shift 1 with awaiting := false }
  | plain (none : ¬ 0 < t.pending) (other : t.awaiting = true → (Text.trim text).head? ≠ some '{') :
      Entry text t t

theorem outdentedWidth (t : Tracker α) (text : List Char) : ∃ expected, t.outdented text = { t with expected } := by
  unfold outdented
  split
  · exact ⟨_, rfl⟩
  · exact ⟨t.expected, rfl⟩

theorem enterEntry (t : Tracker α) (text : List Char) : Entry text (t.outdented text) (t.enter text) := by
  simp only [enter, outdented]
  generalize (if (Text.trim text).head? = some '}' then t.shift (-1) else t) = s
  split
  · rename_i braced
    obtain ⟨waits, opens⟩ : s.awaiting = true ∧ (Text.trim text).head? = some '{' := by simpa using braced
    split
    · exact .opener waits opens ‹_›
    · exact .block waits opens ‹_›
  · rename_i unbraced
    split
    · exact .body ‹_›
    · exact .plain ‹_› (by simpa using unbraced)

inductive Ending where
  | nothing
  | header
  | wrapped
  | closing
  | release

def ending (awaiting : Bool) (text : List Char) : Ending :=
  let trimmed := Text.trim text
  let last := trimmed.getLast?
  let opens := text.count '{'
  let closes := text.count '}'
  if !awaiting && hasControlWord text && !(last = some '{' || last = some ';') then
    if parensBalanced text then
      if 0 < opens && opens = closes then .nothing else .header
    else .wrapped
  else if !awaiting && !isEnd last then
    if startsWithAccess trimmed && last = some ')' then .nothing else .wrapped
  else if awaiting && isEnd last then .closing
  else .release

def finish (t : Tracker α) : Ending → Tracker α
  | .nothing => t
  | .header => { t with awaiting := true, pending := t.pending + 1 }
  | .wrapped => t.openContinuation
  | .closing => (if t.pending = 0 then { t with awaiting := false } else t).pop.releasePending
  | .release => t.releasePending

theorem settleFinish (t : Tracker α) (text : List Char) :
    t.settle text = t.finish (ending t.awaiting text) := by
  simp only [settle, ending]
  split
  · split
    · split
      · rfl
      · rfl
    · rfl
  · split
    · split
      · rfl
      · rfl
    · split
      · rfl
      · rfl

section
variable {t : Tracker α} {text : List Char}

theorem settleHeader (idle : t.awaiting = false) (control : hasControlWord text = true)
    (unopened : (Text.trim text).getLast? ≠ some '{') (unended : (Text.trim text).getLast? ≠ some ';')
    (balanced : parensBalanced text = true)
    (separate : ¬ (0 < text.count '{' ∧ text.count '{' = text.count '}')) :
    t.settle text = { t with awaiting := true, pending := t.pending + 1 } := by
  have inline : (decide (0 < text.count '{') && decide (text.count '{' = text.count '}')) = false := by
    simpa using separate
  simp only [settle, idle, control, balanced, inline]
  simp [unopened, unended]

theorem settleWrappedHeader (idle : t.awaiting = false) (control : hasControlWord text = true)
    (unopened : (Text.trim text).getLast? ≠ some '{') (unended : (Text.trim text).getLast? ≠ some ';')
    (unbalanced : parensBalanced text = false) : t.settle text = t.openContinuation := by
  simp [settle, idle, control, unopened, unended, unbalanced]

theorem settleWrapped (idle : t.awaiting = false) (plain : hasControlWord text = false)
    (unended : isEnd (Text.trim text).getLast? = false)
    (continues : (startsWithAccess (Text.trim text) && (Text.trim text).getLast? = some ')') = false) :
    t.settle text = t.openContinuation := by
  simp only [settle, idle, plain, unended, continues]
  simp

theorem settleReleases (idle : t.awaiting = false) (ended : isEnd (Text.trim text).getLast? = true)
    (nothingWaits : hasControlWord text = false ∨ (Text.trim text).getLast? = some '{' ∨
      (Text.trim text).getLast? = some ';') : t.settle text = t.releasePending := by
  rcases nothingWaits with plain | opened | closed
  · simp [settle, idle, plain, ended]
  · simp [settle, idle, opened, isEnd]
  · simp [settle, idle, closed, isEnd]

theorem settleContinues (waits : t.awaiting = true) (unended : isEnd (Text.trim text).getLast? = false) :
    t.settle text = t.releasePending := by
  simp [settle, waits, unended]

theorem settleCloses (waits : t.awaiting = true) (none : t.pending = 0)
    (ended : isEnd (Text.trim text).getLast? = true) :
    t.settle text = ({ t with awaiting := false } : Tracker α).pop.releasePending := by
  simp [settle, waits, none, ended]

theorem enterIdle (idle : t.awaiting = false) (none : t.pending = 0) (text : List Char) :
    t.enter text = if (Text.trim text).head? = some '}' then t.shift (-1) else t := by
  have noneWait : ¬ 0 < t.pending := by simp [none]
  have noneShifted : ¬ 0 < (t.shift (-1)).pending := noneWait
  by_cases closes : (Text.trim text).head? = some '}'
  · simp [enter, closes, noneShifted]
  · simp [enter, closes, idle, noneWait]

theorem leaveIdle (idle : t.awaiting = false) {levels : Int}
    (moves : (text.count '{' : Int) - text.count '}' +
      (if (Text.trim text).head? = some '}' then 1 else 0) = levels) :
    t.leave text = (text.foldl brace (t.shift levels)).settle text := by
  subst moves
  simp [leave, idle]

end

section
variable {t : Tracker Int} {text : List Char} (noOpen : '{' ∉ text) (noClose : '}' ∉ text)
include noOpen noClose

theorem isEndBraceless (unended : (Text.trim text).getLast? ≠ some ';') :
    isEnd (Text.trim text).getLast? = false := by
  simp [isEnd, unended, Text.trimLastNe noOpen, Text.trimLastNe noClose]

theorem movesBraceless : (text.count '{' : Int) - text.count '}' +
    (if (Text.trim text).head? = some '}' then 1 else 0) = 0 := by
  simp [List.count_eq_zero.mpr noOpen, List.count_eq_zero.mpr noClose, Text.trimHeadNe noClose]

theorem leaveBraceless (idle : t.awaiting = false) (nonneg : 0 ≤ t.expected) :
    t.leave text = t.settle text := by
  rw [leaveIdle idle (movesBraceless noOpen noClose), foldlBraceNone _ noOpen noClose,
    shiftNone nonneg]

theorem leaveBracelessWaiting (waits : t.awaiting = true) (nonneg : 0 ≤ t.expected) :
    t.leave text =
      ({ t with continuation := Width.wider t.continuation t.expected } : Tracker Int).settle text := by
  have flat : ({ t with continuation := Width.wider t.continuation t.expected } : Tracker Int).shift 0 =
      { t with continuation := Width.wider t.continuation t.expected } := shiftNone nonneg
  simp only [leave]
  rw [if_pos waits, movesBraceless noOpen noClose, flat, foldlBraceNone _ noOpen noClose]

end
end Tracker
end IndentLint.Layout
