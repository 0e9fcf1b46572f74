import IndentLint.Proofs.Layout.Depth
import Mathlib.Algebra.Order.BigOperators.Group.List
import Mathlib.Algebra.Order.Ring.Int

/-! What a width has to pay for. Between any two lines it is wide enough for a level for each open brace, for each
header that a frame has saved and for each header whose level has been counted. So whatever was fed before,
closing what is open never runs into the left margin. -/
namespace IndentLint.Layout.Tracker

def headersOpen (frames : List Int) (pending : Int) : Int := frames.sum + pending

structure Covers (depth : Int) (t : Tracker Int) : Prop where
  unit : 0 ≤ t.unit
  pending : 0 ≤ t.pending
  frames : ∀ frame ∈ t.frames, 0 ≤ frame
  width : (depth + headersOpen t.frames t.pending) * t.unit ≤ t.expected

/- Between lines, the level of the last header is not counted until its body is entered. -/
inductive Between (depth : Int) : Tracker Int → Prop where
  | counted {t : Tracker Int} (covers : Covers depth t) : Between depth t
  | header {t : Tracker Int} (covers : Covers depth t) :
      Between depth { t with awaiting := true, pending := t.pending + 1 }

theorem coversStart {u : Int} (nonneg : 0 ≤ u) (unitFixed : Bool) : Covers 0 (start u unitFixed) := by
  refine ⟨nonneg, Int.le_refl 0, by simp [start], ?_⟩
  simp [headersOpen, start, Width.zero]

section
variable {depth : Int} {t : Tracker Int}

theorem betweenIdle (between : Between depth t) (idle : t.awaiting = false) : Covers depth t := by
  cases between with
  | counted covers => exact covers
  | header covers => contradiction

variable (covers : Covers depth t)
include covers

theorem coversAwaiting (awaiting : Bool) : Covers depth { t with awaiting } :=
  ⟨covers.unit, covers.pending, covers.frames, covers.width⟩

theorem coversContinuation (continuation : Int) : Covers depth { t with continuation } :=
  ⟨covers.unit, covers.pending, covers.frames, covers.width⟩

theorem coversShift (levels : Int) : Covers (depth + levels) (t.shift levels) := by
  refine ⟨covers.unit, covers.pending, covers.frames, ?_⟩
  have moved : (depth + levels + headersOpen t.frames t.pending) * t.unit =
      (depth + headersOpen t.frames t.pending) * t.unit + levels * t.unit := by
    rw [Int.add_right_comm, Int.add_mul]
  have width := covers.width
  change (depth + levels + headersOpen t.frames t.pending) * t.unit ≤ max 0 (t.expected + levels * t.unit)
  omega

theorem coversWithin {other pending : Int} {frames : List Int} (waiting : 0 ≤ pending)
    (each : ∀ frame ∈ frames, 0 ≤ frame)
    (within : other + headersOpen frames pending ≤ depth + headersOpen t.frames t.pending) :
    Covers other { t with frames, pending } :=
  ⟨covers.unit, waiting, each, Int.le_trans (Int.mul_le_mul_of_nonneg_right within covers.unit) covers.width⟩

theorem coversPush : Covers depth t.push := by
  refine coversWithin covers (Int.le_refl 0) ?_ ?_
  · intro frame mem
    rcases List.mem_cons.mp mem with saved | earlier
    · rw [saved]
      exact covers.pending
    · exact covers.frames frame earlier
  · simp only [headersOpen, List.sum_cons]
    omega

theorem coversPop : Covers depth t.pop := by
  have waiting := covers.pending
  have each := covers.frames
  rw [popFrame]
  cases saved : t.frames with
  | nil =>
    refine coversWithin covers (Int.le_refl 0) (by simp) ?_
    simp only [headersOpen, saved, List.tail_nil, List.headD_nil, List.sum_nil]
    omega
  | cons frame frames =>
    rw [saved] at each
    refine coversWithin covers (each frame (by simp)) (fun other mem => each other (List.mem_of_mem_tail mem)) ?_
    simp only [headersOpen, saved, List.tail_cons, List.headD_cons, List.sum_cons]
    omega

theorem coversRelease : Covers depth t.releasePending := by
  unfold releasePending
  split
  · refine coversWithin (coversShift covers (-t.pending)) (Int.le_refl 0) covers.frames ?_
    simp only [headersOpen, shift]
    omega
  · exact covers

theorem coversBraces (text : List Char) : Covers depth (text.foldl brace t) := by
  induction text generalizing t with
  | nil => exact covers
  | cons c rest ih =>
    refine ih ?_
    unfold brace
    split
    · exact coversPush covers
    · split
      · exact coversPop covers
      · exact covers

theorem coversOutdented (text : List Char) : Covers (depth - leading text) (t.outdented text) := by
  unfold outdented leading
  split
  · exact coversShift covers (-1)
  · rwa [Int.sub_zero]

end

section
variable {depth : Int} {t : Tracker Int}

theorem betweenEnter (between : Between depth t) (text : List Char) :
    Covers (depth - leading text) (t.enter text) := by
  have entry := enterEntry t text
  generalize t.enter text = entered at entry ⊢
  cases between with
  | counted covers =>
    have outdented := coversOutdented covers text
    cases entry with
    | opener waits opens more =>
      refine coversWithin (coversAwaiting outdented false) (Int.le_sub_one_of_lt more) outdented.frames ?_
      simp only [headersOpen]
      omega
    | block waits opens none => exact coversPop (coversAwaiting outdented false)
    | body more =>
      have deeper := coversAwaiting (coversShift outdented 1) false
      exact coversWithin deeper deeper.pending deeper.frames (Int.add_le_add_right (by omega) _)
    | plain none other => exact outdented
  | @header s covers =>
    have outdented := coversOutdented covers text
    have same : ({ s with awaiting := true, pending := s.pending + 1 } : Tracker Int).outdented text =
        { s.outdented text with awaiting := true, pending := (s.outdented text).pending + 1 } := by
      unfold Tracker.outdented
      split
      · rfl
      · rfl
    have waiting : 0 ≤ (s.outdented text).pending := outdented.pending
    rw [same] at entry
    cases entry with
    | opener waits opens more =>
      refine coversWithin (coversAwaiting outdented false) (Int.le_sub_one_of_lt more) outdented.frames ?_
      simp only [headersOpen]
      omega
    | block waits opens none => exact absurd (Int.lt_add_one_of_le waiting) none
    | body more =>
      refine coversWithin (coversAwaiting (coversShift outdented 1) false) (Int.le_of_lt more) outdented.frames ?_
      simp only [headersOpen, shift]
      omega
    | plain none other => exact absurd (Int.lt_add_one_of_le waiting) none

theorem betweenFinish (covers : Covers depth t) (ending : Ending) : Between depth (t.finish ending) := by
  cases ending with
  | nothing => exact .counted covers
  | header => exact .header covers
  | wrapped => exact .counted (coversContinuation (coversPush (coversAwaiting covers true)) _)
  | closing =>
    refine .counted (coversRelease (coversPop ?_))
    split
    · exact coversAwaiting covers false
    · exact covers
  | release => exact .counted (coversRelease covers)

theorem betweenSettle (covers : Covers depth t) (text : List Char) : Between depth (t.settle text) := by
  rw [settleFinish]
  exact betweenFinish covers _

def worth (text : List Char) : Int := text.count '{' - text.count '}'

theorem worthAppend (text more : List Char) : worth (text ++ more) = worth text + worth more := by
  simp only [worth, List.count_append]
  omega

theorem betweenLeave {text : List Char} (covers : Covers (depth - leading text) t) :
    Between (depth + worth text) (t.leave text) := by
  have raised : Covers (depth - leading text) (if t.awaiting then
      { t with continuation := Width.wider t.continuation t.expected } else t) := by
    split
    · exact coversContinuation covers _
    · exact covers
  have moved := coversBraces (coversShift raised (worth text + leading text)) text
  have lands : depth - leading text + (worth text + leading text) = depth + worth text := by omega
  rw [lands] at moved
  exact betweenSettle moved text

theorem betweenFeed (between : Between depth t) (text : List Char) :
    Between (depth + worth text) (t.feed text) :=
  betweenLeave (betweenEnter between text)

theorem betweenRun (between : Between depth t) (texts : List (List Char)) :
    Between (depth + worth texts.flatten) (t.run texts) := by
  induction texts generalizing depth t with
  | nil => simpa [worth, run] using between
  | cons text rest ih =>
    have later := ih (betweenFeed between text)
    rwa [Int.add_assoc, ← worthAppend, ← List.flatten_cons] at later

end
end IndentLint.Layout.Tracker
