import IndentLint.Proofs.Layout.Tracker

/-! Lines without braces after a tracker at rest. Whatever they are, the tracker is in one of three
phases between them: at rest again, below some headers that wait for a body, or within a wrapped
statement, whose headers are saved in a frame of their own. A semicolon ends all three. -/
namespace IndentLint.Layout.Tracker

/- A list of fields or parameters: it ends without a semicolon and nothing follows it. -/
def isList (text : List Char) : Bool :=
  startsWithAccess (Text.trim text) && (Text.trim text).getLast? = some ')'

structure AtRest (s : Tracker Int) : Prop where
  awaiting : s.awaiting = false
  pending : s.pending = 0
  expected : 0 ≤ s.expected
  unit : 0 < s.unit

def below (s : Tracker Int) (headers : Nat) (continuation : Int) : Tracker Int :=
  { s with pending := headers, expected := s.expected + headers * s.unit, continuation }

def afterHeader (s : Tracker Int) (headers : Nat) (continuation : Int) : Tracker Int :=
  { below s headers continuation with awaiting := true, pending := (headers + 1 : Nat) }

def withinStatement (s : Tracker Int) (headers : Nat) (continuation : Int) : Tracker Int :=
  { below s headers continuation with
    awaiting := true, pending := 0, frames := (headers : Int) :: s.frames }

inductive Phase (s : Tracker Int) : Tracker Int → Prop where
  | rest (continuation : Int) : Phase s (below s 0 continuation)
  | header (headers : Nat) (continuation : Int) : Phase s (afterHeader s headers continuation)
  | statement (headers : Nat) (continuation : Int) : Phase s (withinStatement s headers continuation)

section
variable {s : Tracker Int} (atRest : AtRest s) (headers : Nat) (continuation : Int)
include atRest

theorem belowNone : below s 0 s.continuation = s := by
  obtain ⟨frames, pending, awaiting, expected, continuation, unit, unitFixed⟩ := s
  have none : pending = 0 := atRest.pending
  simp [below, none]

theorem belowIdle : (below s headers continuation).awaiting = false := atRest.awaiting

theorem belowNonneg : 0 ≤ (below s headers continuation).expected :=
  Int.add_nonneg atRest.expected
    (Int.mul_nonneg (Int.natCast_nonneg headers) (Int.le_of_lt atRest.unit))

theorem headerShift : Width.shift (s.expected + headers * s.unit) 1 s.unit =
    s.expected + (headers + 1 : Nat) * s.unit := by
  have deeper : s.expected + headers * s.unit + 1 * s.unit = s.expected + (headers + 1 : Nat) * s.unit := by
    push_cast
    rw [Int.add_mul, Int.add_assoc]
  have nonneg : 0 ≤ s.expected + (headers + 1 : Nat) * s.unit :=
    belowNonneg atRest (headers + 1) s.continuation
  change max 0 _ = _
  rw [deeper, Int.max_eq_right nonneg]

theorem belowRelease : (below s headers continuation).releasePending = below s 0 continuation := by
  have back : s.expected + headers * s.unit + -(headers : Int) * s.unit = s.expected := by
    rw [Int.add_assoc, Int.neg_mul, Int.add_right_neg, Int.add_zero]
  have expected : Width.shift (s.expected + headers * s.unit) (-(headers : Int)) s.unit = s.expected := by
    change max 0 _ = _
    rw [back, Int.max_eq_right atRest.expected]
  unfold releasePending
  split
  · simp [shift, below, expected]
  · rename_i noneWait
    have none : headers = 0 := by
      have sign : ¬ (0 : Int) < headers := noneWait
      omega
    rw [none]

end

theorem afterHeaderEnterBody {s : Tracker Int} {text : List Char} (atRest : AtRest s)
    (noClose : (Text.trim text).head? ≠ some '}') (noOpen : (Text.trim text).head? ≠ some '{')
    (headers : Nat) (continuation : Int) :
    (afterHeader s headers continuation).enter text = below s (headers + 1) continuation := by
  have waits : (0 : Int) < (headers + 1 : Nat) := by omega
  have idle := atRest.awaiting
  have deeper := headerShift atRest headers
  simp only [enter, if_neg noClose, noOpen, afterHeader, below]
  simp only [decide_false, Bool.and_false, Bool.false_eq_true, if_false, if_pos waits, shift, deeper, idle]

section
variable {s : Tracker Int} {text : List Char} (noClose : '}' ∉ text)
include noClose

theorem belowNoneEnter (atRest : AtRest s) (continuation : Int) :
    (below s 0 continuation).enter text = below s 0 continuation := by
  have idle := belowIdle atRest 0 continuation
  have noneWait : ¬ 0 < (below s 0 continuation).pending := Int.lt_irrefl 0
  simp [enter, Text.trimHeadNe noClose, idle, noneWait]

theorem afterHeaderEnter (atRest : AtRest s) (noOpen : '{' ∉ text) (headers : Nat) (continuation : Int) :
    (afterHeader s headers continuation).enter text = below s (headers + 1) continuation :=
  afterHeaderEnterBody atRest (Text.trimHeadNe noClose) (Text.trimHeadNe noOpen) headers continuation

theorem withinStatementEnter (noOpen : '{' ∉ text) (headers : Nat) (continuation : Int) :
    (withinStatement s headers continuation).enter text = withinStatement s headers continuation := by
  have noneWait : ¬ 0 < (withinStatement s headers continuation).pending := Int.lt_irrefl 0
  simp [enter, Text.trimHeadNe noClose, Text.trimHeadNe noOpen, noneWait]

end

section
variable {s : Tracker Int} (atRest : AtRest s) {text : List Char} (noOpen : '{' ∉ text)
  (noClose : '}' ∉ text) (headers : Nat) (continuation : Int)
include atRest noOpen noClose

theorem belowLeave :
    (below s headers continuation).leave text = (below s headers continuation).settle text :=
  leaveBraceless noOpen noClose atRest.awaiting (belowNonneg atRest headers continuation)

theorem belowLeaveLast (last : (Text.trim text).getLast? = some ';') :
    (below s headers continuation).leave text = below s 0 continuation := by
  have idle := belowIdle atRest headers continuation
  rw [belowLeave atRest noOpen noClose, settleReleases idle (by simp [last, isEnd]) (.inr (.inr last))]
  exact belowRelease atRest headers continuation

theorem belowNoneLeaveList (control : hasControlWord text = false)
    (unended : (Text.trim text).getLast? ≠ some ';') (list : isList text = true) :
    (below s 0 continuation).leave text = below s 0 continuation := by
  have idle := belowIdle atRest 0 continuation
  have goesOn := isEndBraceless noOpen noClose unended
  rw [belowLeave atRest noOpen noClose]
  simp only [isList] at list
  simp [settle, idle, control, goesOn, list]

theorem belowLeaveHeader (control : hasControlWord text = true) (balanced : parensBalanced text = true)
    (unended : (Text.trim text).getLast? ≠ some ';') :
    (below s headers continuation).leave text = afterHeader s headers continuation := by
  have separate : ¬ (0 < text.count '{' ∧ text.count '{' = text.count '}') := by
    simp [List.count_eq_zero.mpr noOpen]
  rw [belowLeave atRest noOpen noClose, settleHeader (belowIdle atRest headers continuation) control
    (Text.trimLastNe noOpen) unended balanced separate]
  rfl

theorem belowLeavePhase (unended : (Text.trim text).getLast? ≠ some ';')
    (noList : isList text = true → headers = 0) : Phase s ((below s headers continuation).leave text) := by
  have idle := belowIdle atRest headers continuation
  have unopened : (Text.trim text).getLast? ≠ some '{' := Text.trimLastNe noOpen
  cases control : hasControlWord text with
  | true =>
    cases balanced : parensBalanced text with
    | true =>
      rw [belowLeaveHeader atRest noOpen noClose headers continuation control balanced unended]
      exact .header headers continuation
    | false =>
      rw [belowLeave atRest noOpen noClose, settleWrappedHeader idle control unopened unended balanced]
      exact .statement headers _
  | false =>
    cases list : isList text with
    | true =>
      rw [noList list, belowNoneLeaveList atRest noOpen noClose continuation control unended list]
      exact .rest continuation
    | false =>
      rw [belowLeave atRest noOpen noClose,
        settleWrapped idle control (isEndBraceless noOpen noClose unended) list]
      exact .statement headers _

theorem withinStatementLeave : ∃ wider, (withinStatement s headers continuation).leave text =
    (withinStatement s headers wider).settle text :=
  ⟨_, leaveBracelessWaiting noOpen noClose rfl (belowNonneg atRest headers continuation)⟩

theorem withinStatementLeaveLast (last : (Text.trim text).getLast? = some ';') :
    ∃ wider, (withinStatement s headers continuation).leave text = below s 0 wider := by
  obtain ⟨wider, left⟩ := withinStatementLeave atRest noOpen noClose headers continuation
  have popped : ({ withinStatement s headers wider with awaiting := false } : Tracker Int).pop =
      below s headers wider := by
    simp [pop, withinStatement, below, atRest.awaiting]
  refine ⟨wider, ?_⟩
  rw [left, settleCloses rfl rfl (by simp [last, isEnd]), popped]
  exact belowRelease atRest headers wider

theorem withinStatementLeavePhase (unended : (Text.trim text).getLast? ≠ some ';') :
    Phase s ((withinStatement s headers continuation).leave text) := by
  obtain ⟨wider, left⟩ := withinStatementLeave atRest noOpen noClose headers continuation
  have unchanged : (withinStatement s headers wider).releasePending = withinStatement s headers wider :=
    if_neg (Int.lt_irrefl 0)
  rw [left, settleContinues rfl (isEndBraceless noOpen noClose unended), unchanged]
  exact .statement headers wider

end

section
variable {s t : Tracker Int} (atRest : AtRest s) (phase : Phase s t) {text : List Char}
  (noOpen : '{' ∉ text) (noClose : '}' ∉ text)
include atRest phase noOpen noClose

theorem feedLast (last : (Text.trim text).getLast? = some ';') :
    ∃ continuation, t.feed text = below s 0 continuation := by
  unfold feed
  cases phase with
  | rest continuation =>
    rw [belowNoneEnter noClose atRest]
    exact ⟨_, belowLeaveLast atRest noOpen noClose 0 continuation last⟩
  | header headers continuation =>
    rw [afterHeaderEnter noClose atRest noOpen]
    exact ⟨_, belowLeaveLast atRest noOpen noClose (headers + 1) continuation last⟩
  | statement headers continuation =>
    rw [withinStatementEnter noClose noOpen]
    exact withinStatementLeaveLast atRest noOpen noClose headers continuation last

theorem feedPhase (noList : isList text = true → t.pending ≤ 0) : Phase s (t.feed text) := by
  by_cases last : (Text.trim text).getLast? = some ';'
  · obtain ⟨continuation, fed⟩ := feedLast atRest phase noOpen noClose last
    rw [fed]
    exact .rest continuation
  · unfold feed
    cases phase with
    | rest continuation =>
      rw [belowNoneEnter noClose atRest]
      exact belowLeavePhase atRest noOpen noClose 0 continuation last (fun _ => rfl)
    | header headers continuation =>
      rw [afterHeaderEnter noClose atRest noOpen]
      refine belowLeavePhase atRest noOpen noClose (headers + 1) continuation last ?_
      intro list
      have waits : ((headers + 1 : Nat) : Int) ≤ 0 := noList list
      omega
    | statement headers continuation =>
      rw [withinStatementEnter noClose noOpen]
      exact withinStatementLeavePhase atRest noOpen noClose headers continuation last

end

def ListsStandAlone (t : Tracker Int) (texts : List (List Char)) : Prop :=
  ∀ i < texts.length, ∀ text ∈ texts[i]?, isList text = true → (t.run (texts.take i)).pending ≤ 0

instance decidableListsStandAlone (t : Tracker Int) (texts : List (List Char)) :
    Decidable (ListsStandAlone t texts) :=
  inferInstanceAs (Decidable (∀ i < texts.length, _))

theorem listsStandAloneConcat {t : Tracker Int} {texts : List (List Char)} {text : List Char}
    (alone : ListsStandAlone t (texts ++ [text])) :
    ListsStandAlone t texts ∧ (isList text = true → (t.run texts).pending ≤ 0) := by
  constructor
  · intro i within earlier found
    have short : i < (texts ++ [text]).length := by
      rw [List.length_append]
      omega
    have same := alone i short earlier (by rwa [List.getElem?_append_left within])
    rwa [List.take_append_of_le_length (Nat.le_of_lt within)] at same
  · have last := alone texts.length (by simp) text (by simp)
    rwa [List.take_left] at last

theorem runPhase {s : Tracker Int} (atRest : AtRest s) {texts : List (List Char)}
    (braceless : ∀ text ∈ texts, '{' ∉ text ∧ '}' ∉ text) (alone : ListsStandAlone s texts) :
    Phase s (s.run texts) := by
  induction texts using List.reverseRecOn with
  | nil =>
    have rest := Phase.rest (s := s) s.continuation
    rwa [belowNone atRest] at rest
  | append_singleton texts text ih =>
    obtain ⟨earlier, last⟩ := listsStandAloneConcat alone
    obtain ⟨noOpen, noClose⟩ := braceless text (by simp)
    have phase := ih (fun text mem => braceless text (by simp [mem])) earlier
    rw [runConcat]
    exact feedPhase atRest phase noOpen noClose last

/- The frame that a wrapped statement adds is there exactly while the tracker waits for its end. -/
theorem phaseFrames {s t : Tracker Int} (atRest : AtRest s) (phase : Phase s t) :
    (t.frames = s.frames ∨ ∃ frame, t.frames = frame :: s.frames) ∧
      ((∃ frame, t.frames = frame :: s.frames) ↔ t.awaiting = true ∧ t.pending = 0) := by
  have longer : ∀ frame, s.frames ≠ frame :: s.frames := by
    intro frame same
    have length := congrArg List.length same
    simp at length
  cases phase with
  | rest continuation => simp [below, atRest.awaiting, longer]
  | header headers continuation =>
    have waits : ((headers + 1 : Nat) : Int) ≠ 0 := by omega
    simp only [afterHeader, below, longer, waits]
    simp
  | statement headers continuation => simp [withinStatement, below]

theorem semicolonsResynchronise (t : Tracker Int) (atRest : AtRest t) (texts : List (List Char))
    (text : List Char) (braceless : ∀ line ∈ texts ++ [text], '{' ∉ line ∧ '}' ∉ line)
    (alone : ListsStandAlone t (texts ++ [text])) :
    let after := t.run (texts ++ [text])
    ((Text.trim text).getLast? = some ';' →
        after.frames = t.frames ∧ after.expected = t.expected ∧ after.pending = 0 ∧
          after.awaiting = false ∧ after.unit = t.unit) ∧
      ((Text.trim text).getLast? ≠ some ';' →
        (after.frames = t.frames ∨ ∃ frame, after.frames = frame :: t.frames) ∧
          ((∃ frame, after.frames = frame :: t.frames) ↔ after.awaiting = true ∧ after.pending = 0)) := by
  intro after
  constructor
  · intro last
    obtain ⟨earlier, _⟩ := listsStandAloneConcat alone
    obtain ⟨noOpen, noClose⟩ := braceless text (by simp)
    have phase := runPhase atRest (fun line mem => braceless line (by simp [mem])) earlier
    obtain ⟨continuation, fed⟩ := feedLast atRest phase noOpen noClose last
    have rested : after = below t 0 continuation := (runConcat t texts text).trans fed
    rw [rested]
    exact ⟨rfl, by simp [below], rfl, atRest.awaiting, rfl⟩
  · intro _
    exact phaseFrames atRest (runPhase atRest braceless alone)

def nestedTracker : Tracker Int :=
  { frames := [1, 0], expected := 7, continuation := 12, unit := 3, unitFixed := true }

def tangledTexts : List (List Char) :=
  ["private int f(a)".toList, "if (x)".toList, "while (y".toList, "public b)".toList, "else".toList]

theorem tangledTextsResynchronise :
    AtRest nestedTracker ∧ ListsStandAlone nestedTracker (tangledTexts ++ ["z();".toList]) ∧
      (nestedTracker.run tangledTexts).frames = [1, 1, 0] ∧
      (nestedTracker.run (tangledTexts ++ ["z();".toList])).frames = [1, 0] ∧
      (nestedTracker.run (tangledTexts ++ ["z();".toList])).expected = 7 := by
  have atRest : AtRest nestedTracker := ⟨rfl, rfl, by decide, by decide⟩
  have alone : ListsStandAlone nestedTracker (tangledTexts ++ ["z();".toList]) := by decide
  have settled := (semicolonsResynchronise nestedTracker atRest tangledTexts "z();".toList
    (by decide) alone).1 (by decide)
  exact ⟨atRest, alone, by decide, settled.1, settled.2.1⟩

end IndentLint.Layout.Tracker
