import IndentLint.Proofs.Layout.Tracker
import IndentLint.Proofs.Text.Respaced

/-! Trackers on another scale. Where a change of widths keeps what is done with them, it keeps
everything that a tracker does: which lines wait, continue and close never depends on a width, nor on
how many spaces stand between the words of a line. -/
namespace IndentLint.Layout
open Text (Respaced respacedTrim respacedHead respacedLast respacedCount)

structure Rescales {α β : Type} [Width α] [Width β] (f : α → β) : Prop where
  zero : f Width.zero = Width.zero
  shift : ∀ width levels unit, f (Width.shift width levels unit) = Width.shift (f width) levels (f unit)
  wider : ∀ a b, f (Width.wider a b) = Width.wider (f a) (f b)

theorem rescalesTimes {k : Int} (nonneg : 0 ≤ k) : Rescales (fun width : Int => width * k) := by
  have wider : ∀ a b : Int, max a b * k = max (a * k) (b * k) := by
    intro a b
    rcases Int.le_total a b with h | h
    · rw [Int.max_eq_right h, Int.max_eq_right (Int.mul_le_mul_of_nonneg_right h nonneg)]
    · rw [Int.max_eq_left h, Int.max_eq_left (Int.mul_le_mul_of_nonneg_right h nonneg)]
  refine ⟨Int.zero_mul k, ?_, wider⟩
  intro width levels unit
  change max 0 (width + levels * unit) * k = max 0 (width * k + levels * (unit * k))
  rw [wider, Int.zero_mul, Int.add_mul, Int.mul_assoc]

section
variable {α β : Type} (f : α → β)

def Target.rescale (target : Target α) : Target β := ⟨f target.width, target.atLeast⟩

def Tracker.rescale (t : Tracker α) : Tracker β :=
  ⟨t.frames, t.pending, t.awaiting, f t.expected, f t.continuation, f t.unit, t.unitFixed⟩

end

namespace Tracker
variable {α β : Type} {f : α → β}

theorem rescaleAwaiting (t : Tracker α) : (t.rescale f).awaiting = t.awaiting := rfl

theorem rescalePending (t : Tracker α) : (t.rescale f).pending = t.pending := rfl

theorem rescalePush (t : Tracker α) : t.push.rescale f = (t.rescale f).push := rfl

theorem rescalePop (t : Tracker α) : t.pop.rescale f = (t.rescale f).pop := by
  obtain ⟨frames, pending, awaiting, expected, continuation, unit, unitFixed⟩ := t
  cases frames with
  | nil => rfl
  | cons frame frames => rfl

theorem rescaleTarget (t : Tracker α) : t.target.rescale f = (t.rescale f).target := by
  unfold target
  rw [rescaleAwaiting]
  split
  · rfl
  · rfl

theorem rescaleBraces (t : Tracker α) (text : List Char) :
    (text.foldl brace t).rescale f = text.foldl brace (t.rescale f) := by
  induction text generalizing t with
  | nil => rfl
  | cons c rest ih =>
    have first : (brace t c).rescale f = brace (t.rescale f) c := by
      unfold brace
      split
      · exact rescalePush t
      · split
        · exact rescalePop t
        · rfl
    rw [List.foldl_cons, ih, first, List.foldl_cons]

variable [Width α] [Width β] (rescales : Rescales f)
include rescales

theorem rescaleStart (unit : α) (unitFixed : Bool) :
    (start unit unitFixed).rescale f = start (f unit) unitFixed := by
  simp only [start, rescale, rescales.zero]

theorem rescaleShift (t : Tracker α) (levels : Int) :
    (t.shift levels).rescale f = (t.rescale f).shift levels := by
  simp only [shift, rescale, rescales.shift]

theorem rescaleReleasePending (t : Tracker α) :
    t.releasePending.rescale f = (t.rescale f).releasePending := by
  have release := rescaleShift rescales t (-t.pending)
  unfold releasePending
  rw [rescalePending, ← release]
  split
  · rfl
  · rfl

theorem rescaleEnter (t : Tracker α) (text : List Char) :
    (t.enter text).rescale f = (t.rescale f).enter text := by
  have closer : (if (Text.trim text).head? = some '}' then t.shift (-1) else t).rescale f =
      if (Text.trim text).head? = some '}' then (t.rescale f).shift (-1) else t.rescale f := by
    split
    · exact rescaleShift rescales t (-1)
    · rfl
  simp only [enter, ← closer]
  generalize (if (Text.trim text).head? = some '}' then t.shift (-1) else t) = s
  have deeper := rescaleShift rescales s 1
  rw [rescaleAwaiting, rescalePending, ← deeper]
  split
  · split
    · rfl
    · exact rescalePop { s with awaiting := false }
  · split
    · rfl
    · rfl

theorem rescaleFinish (t : Tracker α) (ending : Ending) :
    (t.finish ending).rescale f = (t.rescale f).finish ending := by
  cases ending with
  | nothing => rfl
  | header => rfl
  | wrapped => rfl
  | closing =>
    have closed : (if t.pending = 0 then { t with awaiting := false } else t).rescale f =
        if (t.rescale f).pending = 0 then { t.rescale f with awaiting := false } else t.rescale f := by
      rw [rescalePending]
      split
      · rfl
      · rfl
    simp only [finish]
    rw [rescaleReleasePending rescales, rescalePop, closed]
  | release => exact rescaleReleasePending rescales t

theorem rescaleSettle (t : Tracker α) (text : List Char) :
    (t.settle text).rescale f = (t.rescale f).settle text := by
  rw [settleFinish, rescaleFinish rescales, settleFinish]
  rfl

theorem rescaleLeave (t : Tracker α) (text : List Char) :
    (t.leave text).rescale f = (t.rescale f).leave text := by
  have widened : (if t.awaiting then
        { t with continuation := Width.wider t.continuation t.expected } else t).rescale f =
      if t.awaiting then
        { t.rescale f with continuation := Width.wider (f t.continuation) (f t.expected) }
      else t.rescale f := by
    split
    · simp only [rescale, rescales.wider]
    · rfl
  simp only [leave]
  rw [rescaleSettle rescales, rescaleBraces, rescaleShift rescales, widened]
  rfl

theorem rescaleFeed (t : Tracker α) (text : List Char) :
    (t.feed text).rescale f = (t.rescale f).feed text := by
  rw [feed, rescaleLeave rescales, rescaleEnter rescales, feed]

end Tracker

section
variable {text other : List Char} (same : Respaced text other)
include same

theorem hasControlWordRespaced : hasControlWord other = hasControlWord text :=
  Text.respacedHasWord controlWordsProper same

theorem parensBalancedRespaced : parensBalanced other = parensBalanced text := by
  rw [parensBalanced, respacedCount (by decide) same, respacedCount (by decide) same, parensBalanced]

theorem startsWithAccessRespaced : startsWithAccess other = startsWithAccess text :=
  Text.respacedStartsWithWord accessWords same

end

namespace Tracker
variable {α : Type} {text other : List Char} (same : Respaced text other)
include same

theorem endingRespaced (awaiting : Bool) : ending awaiting other = ending awaiting text := by
  simp only [ending]
  rw [hasControlWordRespaced same, parensBalancedRespaced same, startsWithAccessRespaced (respacedTrim same),
    respacedLast (respacedTrim same), respacedCount (by decide) same, respacedCount (by decide) same]

theorem foldlBraceRespaced (t : Tracker α) : other.foldl brace t = text.foldl brace t := by
  have spaces : ∀ (t : Tracker α) (n : Nat), (List.replicate n ' ').foldl brace t = t := by
    intro t n
    exact foldlBraceNone t (Source.absentSpaces (by decide) n) (Source.absentSpaces (by decide) n)
  induction same generalizing t with
  | nil => rfl
  | cons c _ ih => exact ih (brace t c)
  | gap _ _ _ ih => rw [List.foldl_append, spaces, ih, List.foldl_append, spaces]

variable [Width α]

theorem enterRespaced (t : Tracker α) : t.enter other = t.enter text := by
  simp only [enter]
  rw [respacedHead (respacedTrim same)]

theorem leaveRespaced (t : Tracker α) : t.leave other = t.leave text := by
  simp only [leave]
  rw [respacedHead (respacedTrim same), respacedCount (by decide) same, respacedCount (by decide) same,
    foldlBraceRespaced same, settleFinish, endingRespaced same, ← settleFinish]

theorem feedRespaced (t : Tracker α) : t.feed other = t.feed text := by
  rw [feed, enterRespaced same, leaveRespaced same, feed]

end Tracker
end IndentLint.Layout
