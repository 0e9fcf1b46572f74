import IndentLint.Proofs.Layout.Tracker
import Mathlib.Algebra.Ring.Divisibility.Basic
import Mathlib.Algebra.Ring.Int.Defs

/-! What every tracker keeps that counts in whole columns: its widths are multiples of the unit and
not negative, and neither are the counts that it saves. -/
namespace IndentLint.Layout.Tracker

def Multiple (unit width : Int) : Prop := 0 ≤ width ∧ unit ∣ width

theorem multipleZero (unit : Int) : Multiple unit 0 := ⟨Int.le_refl 0, Int.dvd_zero unit⟩

theorem multipleMax {unit a b : Int} (ha : Multiple unit a) (hb : Multiple unit b) :
    Multiple unit (max a b) := by
  rcases Int.le_total a b with h | h
  · rwa [Int.max_eq_right h]
  · rwa [Int.max_eq_left h]

theorem multipleShift {unit width : Int} (h : Multiple unit width) (levels : Int) :
    Multiple unit (Width.shift width levels unit) := by
  have moved : unit ∣ width + levels * unit := Int.dvd_add h.2 (Int.dvd_mul_left levels unit)
  change Multiple unit (max 0 (width + levels * unit))
  rcases Int.le_total 0 (width + levels * unit) with up | down
  · rw [Int.max_eq_right up]
    exact ⟨up, moved⟩
  · rw [Int.max_eq_left down]
    exact multipleZero unit

structure Bounded (u : Int) (t : Tracker Int) : Prop where
  unit : t.unit = u
  expected : Multiple u t.expected
  continuation : Multiple u t.continuation
  pending : 0 ≤ t.pending
  frames : ∀ frame ∈ t.frames, 0 ≤ frame

variable {u : Int} {t : Tracker Int}

theorem boundedStart (u : Int) (unitFixed : Bool) : Bounded u (start u unitFixed) :=
  ⟨rfl, multipleZero u, multipleZero u, Int.le_refl 0, by simp [start]⟩

theorem boundedPush (h : Bounded u t) : Bounded u t.push := by
  refine ⟨h.unit, h.expected, h.continuation, Int.le_refl 0, ?_⟩
  intro frame mem
  rcases List.mem_cons.mp mem with rfl | saved
  · exact h.pending
  · exact h.frames frame saved

theorem boundedPop (h : Bounded u t) : Bounded u t.pop := by
  unfold pop
  split
  · exact ⟨h.unit, h.expected, h.continuation, Int.le_refl 0, h.frames⟩
  · rename_i frame frames saved
    refine ⟨h.unit, h.expected, h.continuation, h.frames frame (by simp [saved]), ?_⟩
    intro other mem
    exact h.frames other (by simp [saved, mem])

theorem boundedShift (h : Bounded u t) (levels : Int) : Bounded u (t.shift levels) := by
  refine ⟨h.unit, ?_, h.continuation, h.pending, h.frames⟩
  change Multiple u (Width.shift t.expected levels t.unit)
  rw [h.unit]
  exact multipleShift h.expected levels

theorem boundedAwaiting (h : Bounded u t) (awaiting : Bool) : Bounded u { t with awaiting } :=
  ⟨h.unit, h.expected, h.continuation, h.pending, h.frames⟩

theorem boundedPending (h : Bounded u t) {pending : Int} (sign : 0 ≤ pending) :
    Bounded u { t with pending } :=
  ⟨h.unit, h.expected, h.continuation, sign, h.frames⟩

theorem boundedOpenContinuation (h : Bounded u t) : Bounded u t.openContinuation := by
  have pushed := boundedPush (boundedAwaiting h true)
  exact ⟨pushed.unit, pushed.expected, pushed.expected, pushed.pending, pushed.frames⟩

theorem boundedReleasePending (h : Bounded u t) : Bounded u t.releasePending := by
  unfold releasePending
  split
  · exact boundedPending (boundedShift h _) (Int.le_refl 0)
  · exact h

theorem boundedEnter (h : Bounded u t) (text : List Char) : Bounded u (t.enter text) := by
  have closer : Bounded u (if (Text.trim text).head? = some '}' then t.shift (-1) else t) := by
    split
    · exact boundedShift h _
    · exact h
  simp only [enter]
  generalize (if (Text.trim text).head? = some '}' then t.shift (-1) else t) = s at closer ⊢
  split
  · split
    · rename_i waits
      have fewer : 0 ≤ s.pending - 1 := Int.le_sub_one_of_lt waits
      exact boundedPending (boundedAwaiting closer false) fewer
    · exact boundedPop (boundedAwaiting closer false)
  · split
    · exact boundedAwaiting (boundedShift closer 1) false
    · exact closer

theorem boundedBraces (h : Bounded u t) (text : List Char) : Bounded u (text.foldl brace t) := by
  induction text generalizing t with
  | nil => exact h
  | cons c rest ih =>
    refine ih ?_
    unfold brace
    split
    · exact boundedPush h
    · split
      · exact boundedPop h
      · exact h

theorem boundedFinish (h : Bounded u t) (ending : Ending) : Bounded u (t.finish ending) := by
  cases ending with
  | nothing => exact h
  | header =>
    have more : 0 ≤ t.pending + 1 := Int.le_add_one h.pending
    exact boundedAwaiting (boundedPending h more) true
  | wrapped => exact boundedOpenContinuation h
  | closing =>
    refine boundedReleasePending (boundedPop ?_)
    split
    · exact boundedAwaiting h false
    · exact h
  | release => exact boundedReleasePending h

theorem boundedSettle (h : Bounded u t) (text : List Char) : Bounded u (t.settle text) := by
  rw [settleFinish]
  exact boundedFinish h _

theorem boundedLeave (h : Bounded u t) (text : List Char) : Bounded u (t.leave text) := by
  have widened : Bounded u (if t.awaiting then
      { t with continuation := Width.wider t.continuation t.expected } else t) := by
    split
    · exact ⟨h.unit, h.expected, multipleMax h.continuation h.expected, h.pending, h.frames⟩
    · exact h
  exact boundedSettle (boundedBraces (boundedShift widened _) text) text

theorem boundedTarget (h : Bounded u t) : Multiple u t.target.width := by
  unfold target
  split
  · exact h.continuation
  · exact h.expected

end IndentLint.Layout.Tracker
