import IndentLint.Proofs.Layout.Tracker
import IndentLint.Proofs.Program.Syntax

/-! The states of a tracker between the lines of a program that is laid out well, and how each
kind of line leads from one to the next. A tracker inside a level expects its columns, with some
headers pending whose body is not at its end; after a header it waits for the body, and after the
first line of a wrapped statement for the lines that continue it. -/
namespace IndentLint.Program
open Layout (Tracker Target Width hasControlWord parensBalanced)
open Layout.Tracker

structure Inside (u d k : Nat) (saved : List Int) (t : Tracker Int) : Prop where
  unit : t.unit = u
  expected : t.expected = (d * u : Nat)
  pending : t.pending = k
  awaiting : t.awaiting = false
  frames : t.frames = saved

structure Waiting (u d k : Nat) (saved : List Int) (t : Tracker Int) : Prop where
  unit : t.unit = u
  expected : t.expected = (d * u : Nat)
  pending : t.pending = (k + 1 : Nat)
  awaiting : t.awaiting = true
  frames : t.frames = saved

structure Continuing (u d k : Nat) (saved : List Int) (t : Tracker Int) : Prop where
  unit : t.unit = u
  expected : t.expected = (d * u : Nat)
  continuation : t.continuation = (d * u : Nat)
  pending : t.pending = 0
  awaiting : t.awaiting = true
  frames : t.frames = (k : Int) :: saved

/- Before an item: its level is entered, or its headers wait for it. -/
inductive Ready (u : Nat) : Nat → Nat → List Int → Tracker Int → Prop where
  | level {d saved t} (inside : Inside u d 0 saved t) : Ready u d 0 saved t
  | headers {d k saved t} (waiting : Waiting u d k saved t) :
      Ready u (d + 1) (k + 1) saved t

variable {u d k : Nat} {saved : List Int} {t : Tracker Int} {text : List Char}

theorem shiftLevels {other : Nat} {levels : Int} (moves : (d : Int) + levels = other) :
    Width.shift ((d * u : Nat) : Int) levels (u : Int) = ((other * u : Nat) : Int) := by
  have sum : ((d * u : Nat) : Int) + levels * u = ((other * u : Nat) : Int) := by
    push_cast
    rw [← moves, Int.add_mul]
  change max 0 (((d * u : Nat) : Int) + levels * u) = _
  rw [sum]
  exact Int.max_eq_right (Int.natCast_nonneg _)

theorem insideShift (inside : Inside u d k saved t) {other : Nat} {levels : Int}
    (moves : (d : Int) + levels = other) : Inside u other k saved (t.shift levels) := by
  refine ⟨inside.unit, ?_, inside.pending, inside.awaiting, inside.frames⟩
  rw [← shiftLevels moves, ← inside.unit, ← inside.expected]
  rfl

theorem insidePush (inside : Inside u d k saved t) :
    Inside u d 0 ((k : Int) :: saved) t.push :=
  ⟨inside.unit, inside.expected, rfl, inside.awaiting, by simp [push, inside.pending, inside.frames]⟩

theorem insidePop {other : Nat} (inside : Inside u d other ((k : Int) :: saved) t) :
    Inside u d k saved t.pop := by
  simp only [pop, inside.frames]
  exact ⟨inside.unit, inside.expected, rfl, inside.awaiting, rfl⟩

theorem insideRelease (inside : Inside u d k saved t) (deep : k ≤ d) :
    Inside u (d - k) 0 saved t.releasePending := by
  unfold releasePending
  by_cases waits : 0 < t.pending
  · rw [if_pos waits]
    have moves : (d : Int) + -t.pending = (d - k : Nat) := by
      rw [inside.pending]
      omega
    have shifted := insideShift inside moves
    exact ⟨shifted.unit, shifted.expected, rfl, shifted.awaiting, shifted.frames⟩
  · rw [if_neg waits]
    have zero : k = 0 := by
      have same := inside.pending
      omega
    subst zero
    exact inside

theorem insideTarget (inside : Inside u d k saved t) :
    t.target = ⟨(d * u : Nat), false⟩ := by
  simp [target, inside.awaiting, inside.expected]

theorem readyEnter (ready : Ready u d k saved t)
    (noClose : (Text.trim text).head? ≠ some '}') (noOpen : (Text.trim text).head? ≠ some '{') :
    Inside u d k saved (t.enter text) := by
  cases ready with
  | level inside =>
    have none : ¬ 0 < t.pending := by simp [inside.pending]
    simpa [enter, noClose, inside.awaiting, none] using inside
  | @headers d k saved t waiting =>
    have waits : 0 < t.pending := by
      rw [waiting.pending]
      omega
    have moves : (d : Int) + 1 = (d + 1 : Nat) := by omega
    have expected := shiftLevels (u := u) moves
    rw [← waiting.expected, ← waiting.unit] at expected
    simp only [enter, if_neg noClose, waiting.awaiting]
    simp only [noOpen, decide_false, Bool.and_false, Bool.false_eq_true, if_false, if_pos waits]
    exact ⟨waiting.unit, expected, waiting.pending, rfl, waiting.frames⟩

theorem waitingEnterBrace (waiting : Waiting u d k saved t) :
    Inside u d k saved (t.enter ['{']) := by
  have waits : 0 < t.pending := by
    rw [waiting.pending]
    omega
  have first : (Text.trim ['{']).head? = some '{' := by decide
  have fewer : t.pending - 1 = k := by
    rw [waiting.pending]
    omega
  simp only [enter, first, Option.some.injEq, Char.reduceEq, if_false, waiting.awaiting, decide_true,
    Bool.and_true, if_true, if_pos waits]
  exact ⟨waiting.unit, waiting.expected, fewer, rfl, waiting.frames⟩

theorem insideEnterCloser (inside : Inside u (d + 1) 0 saved t)
    (closes : (Text.trim text).head? = some '}') : Inside u d 0 saved (t.enter text) := by
  have moves : ((d + 1 : Nat) : Int) + -1 = d := by omega
  have shifted := insideShift inside moves
  have none : ¬ 0 < (t.shift (-1)).pending := by simp [shifted.pending]
  simpa [enter, closes, shifted.awaiting, none] using shifted

theorem continuingEnter (continuing : Continuing u d k saved t)
    (noClose : (Text.trim text).head? ≠ some '}') (noOpen : (Text.trim text).head? ≠ some '{') :
    t.enter text = t := by
  simp [enter, noClose, noOpen, continuing.pending]

theorem insideNonneg (inside : Inside u d k saved t) : 0 ≤ t.expected := by
  rw [inside.expected]
  exact Int.natCast_nonneg _

theorem insideLeaveStatement (inside : Inside u d k saved t) (deep : k ≤ d) (noOpen : '{' ∉ text)
    (noClose : '}' ∉ text) (ended : (Text.trim text).getLast? = some ';') :
    Inside u (d - k) 0 saved (t.leave text) := by
  rw [leaveBraceless noOpen noClose inside.awaiting (insideNonneg inside),
    settleReleases inside.awaiting (by simp [ended, isEnd]) (.inr (.inr ended))]
  exact insideRelease inside deep

theorem insideLeaveHeader (inside : Inside u d k saved t) (noOpen : '{' ∉ text) (noClose : '}' ∉ text)
    (control : hasControlWord text = true) (balanced : parensBalanced text = true)
    (unended : (Text.trim text).getLast? ≠ some ';') : Waiting u d k saved (t.leave text) := by
  have separate : ¬ (0 < text.count '{' ∧ text.count '{' = text.count '}') := by
    simp [List.count_eq_zero.mpr noOpen]
  rw [leaveBraceless noOpen noClose inside.awaiting (insideNonneg inside),
    settleHeader inside.awaiting control (Text.trimLastNe noOpen) unended balanced separate]
  exact ⟨inside.unit, inside.expected, by simp [inside.pending], rfl, inside.frames⟩

theorem insideOpenContinuation (inside : Inside u d k saved t) :
    Continuing u d k saved t.openContinuation :=
  ⟨inside.unit, inside.expected, inside.expected, rfl, rfl,
    by simp [openContinuation, push, inside.pending, inside.frames]⟩

theorem insideLeaveOpening (inside : Inside u d k saved t) (noOpen : '{' ∉ text) (noClose : '}' ∉ text)
    (unended : (Text.trim text).getLast? ≠ some ';')
    (noHeader : hasControlWord text = false ∨ parensBalanced text = false)
    (noList : (Layout.startsWithAccess (Text.trim text) &&
      (Text.trim text).getLast? = some ')') = false) : Continuing u d k saved (t.leave text) := by
  rw [leaveBraceless noOpen noClose inside.awaiting (insideNonneg inside)]
  cases control : hasControlWord text with
  | false =>
    rw [settleWrapped inside.awaiting control (isEndBraceless noOpen noClose unended) noList]
    exact insideOpenContinuation inside
  | true =>
    have unbalanced : parensBalanced text = false := by simpa [control] using noHeader
    rw [settleWrappedHeader inside.awaiting control (Text.trimLastNe noOpen) unended unbalanced]
    exact insideOpenContinuation inside

theorem insideLeaveOpener (before : List Char) (inside : Inside u d k saved t)
    (noOpen : '{' ∉ before) (noClose : '}' ∉ before)
    (opened : (Text.trim (before ++ ['{'])).getLast? = some '{')
    (first : (Text.trim (before ++ ['{'])).head? ≠ some '}') :
    Inside u (d + 1) 0 ((k : Int) :: saved) (t.leave (before ++ ['{'])) := by
  have moves : ((before ++ ['{']).count '{' : Int) - (before ++ ['{']).count '}' +
      (if (Text.trim (before ++ ['{'])).head? = some '}' then 1 else 0) = 1 := by
    simp [List.count_eq_zero.mpr noOpen, List.count_eq_zero.mpr noClose, first]
  have next : (d : Int) + 1 = (d + 1 : Nat) := by omega
  have deeper := insidePush (insideShift inside next)
  rw [leaveIdle inside.awaiting moves, List.foldl_append, foldlBraceNone _ noOpen noClose]
  change Inside u (d + 1) 0 ((k : Int) :: saved) ((t.shift 1).push.settle _)
  rw [settleReleases deeper.awaiting (by simp [opened, isEnd]) (.inr (.inl opened))]
  exact insideRelease deeper (Nat.zero_le _)

theorem insideLeaveCloser {after : List Char} (inside : Inside u d 0 ((k : Int) :: saved) t) (deep : k ≤ d)
    (noOpen : '{' ∉ after) (noClose : '}' ∉ after)
    (first : (Text.trim ('}' :: after)).head? = some '}')
    (ended : isEnd (Text.trim ('}' :: after)).getLast? = true)
    (nothingWaits : hasControlWord ('}' :: after) = false ∨
      (Text.trim ('}' :: after)).getLast? = some ';') :
    Inside u (d - k) 0 saved (t.leave ('}' :: after)) := by
  have moves : (('}' :: after).count '{' : Int) - ('}' :: after).count '}' +
      (if (Text.trim ('}' :: after)).head? = some '}' then 1 else 0) = 0 := by
    simp [List.count_eq_zero.mpr noOpen, List.count_eq_zero.mpr noClose, first]
  have popped := insidePop inside
  rw [leaveIdle inside.awaiting moves, shiftNone (insideNonneg inside), List.foldl_cons,
    foldlBraceNone _ noOpen noClose]
  change Inside u (d - k) 0 saved (t.pop.settle _)
  rw [settleReleases popped.awaiting ended (nothingWaits.imp_right .inr)]
  exact insideRelease popped deep

theorem insideLeaveReopener {between : List Char} (inside : Inside u d 0 ((k : Int) :: saved) t)
    (noOpen : '{' ∉ between) (noClose : '}' ∉ between)
    (first : (Text.trim ('}' :: (between ++ ['{']))).head? = some '}')
    (opened : (Text.trim ('}' :: (between ++ ['{']))).getLast? = some '{') :
    Inside u (d + 1) 0 ((k : Int) :: saved) (t.leave ('}' :: (between ++ ['{']))) := by
  have moves : (('}' :: (between ++ ['{'])).count '{' : Int) - ('}' :: (between ++ ['{'])).count '}' +
      (if (Text.trim ('}' :: (between ++ ['{']))).head? = some '}' then 1 else 0) = 1 := by
    simp [List.count_eq_zero.mpr noOpen, List.count_eq_zero.mpr noClose, first]
  have next : (d : Int) + 1 = (d + 1 : Nat) := by omega
  have deeper := insidePush (insidePop (insideShift inside next))
  rw [leaveIdle inside.awaiting moves, List.foldl_cons, List.foldl_append,
    foldlBraceNone _ noOpen noClose]
  change Inside u (d + 1) 0 ((k : Int) :: saved) ((t.shift 1).pop.push.settle _)
  rw [settleReleases deeper.awaiting (by simp [opened, isEnd]) (.inr (.inl opened))]
  exact insideRelease deeper (Nat.zero_le _)

theorem leaveContinuing (continuing : Continuing u d k saved t) (noOpen : '{' ∉ text)
    (noClose : '}' ∉ text) : t.leave text = t.settle text := by
  have nonneg : 0 ≤ t.expected := by
    rw [continuing.expected]
    exact Int.natCast_nonneg _
  have widened : ({ t with continuation := Width.wider t.continuation t.expected } : Tracker Int) = t := by
    have same : Width.wider t.continuation t.expected = t.continuation := by
      change max t.continuation t.expected = t.continuation
      rw [continuing.continuation, continuing.expected, Int.max_self]
    rw [same]
  rw [leaveBracelessWaiting noOpen noClose continuing.awaiting nonneg, widened]

theorem continuingLeave (continuing : Continuing u d k saved t) (noOpen : '{' ∉ text)
    (noClose : '}' ∉ text) (unended : (Text.trim text).getLast? ≠ some ';') : t.leave text = t := by
  rw [leaveContinuing continuing noOpen noClose,
    settleContinues continuing.awaiting (isEndBraceless noOpen noClose unended)]
  simp [releasePending, continuing.pending]

theorem continuingLeaveLast (continuing : Continuing u d k saved t) (deep : k ≤ d) (noOpen : '{' ∉ text)
    (noClose : '}' ∉ text) (ended : (Text.trim text).getLast? = some ';') :
    Inside u (d - k) 0 saved (t.leave text) := by
  have idle : Inside u d 0 ((k : Int) :: saved) { t with awaiting := false } :=
    ⟨continuing.unit, continuing.expected, continuing.pending, rfl, continuing.frames⟩
  rw [leaveContinuing continuing noOpen noClose,
    settleCloses continuing.awaiting continuing.pending (by simp [ended, isEnd])]
  exact insideRelease (insidePop idle) deep

theorem continuingTarget (continuing : Continuing u d k saved t) :
    t.target = ⟨(d * u : Nat), true⟩ := by
  simp [target, continuing.awaiting, continuing.continuation]

end IndentLint.Program
