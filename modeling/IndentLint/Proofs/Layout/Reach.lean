import IndentLint.Proofs.Layout.Bounds

/-! How far the widths of a tracker grow. A line adds at most one level for each of its characters, and one
for a header before it. -/
namespace IndentLint.Layout.Tracker

structure Reach (u width : Int) (t : Tracker Int) : Prop where
  bounded : t.Bounded u
  expected : t.expected ≤ width
  continuation : t.continuation ≤ width

theorem reachStart (u : Int) (unitFixed : Bool) : Reach u 0 (start u unitFixed) :=
  ⟨boundedStart u unitFixed, Int.le_refl 0, Int.le_refl 0⟩

section
variable {u width : Int} {t : Tracker Int} (reach : t.Reach u width)
include reach

theorem reachWider {wider : Int} (le : width ≤ wider) : t.Reach u wider :=
  ⟨reach.bounded, Int.le_trans reach.expected le, Int.le_trans reach.continuation le⟩

theorem reachTarget : t.target.width ≤ width := by
  unfold target
  split
  · exact reach.continuation
  · exact reach.expected

theorem reachPush : t.push.Reach u width := ⟨boundedPush reach.bounded, reach.expected, reach.continuation⟩

theorem reachPop : t.pop.Reach u width := by
  have bounded := boundedPop reach.bounded
  unfold pop at bounded ⊢
  split at bounded
  all_goals exact ⟨bounded, reach.expected, reach.continuation⟩

theorem reachAwaiting (awaiting : Bool) : Reach u width { t with awaiting } :=
  ⟨boundedAwaiting reach.bounded awaiting, reach.expected, reach.continuation⟩

theorem reachPending {pending : Int} (sign : 0 ≤ pending) : Reach u width { t with pending } :=
  ⟨boundedPending reach.bounded sign, reach.expected, reach.continuation⟩

theorem reachOpenContinuation : t.openContinuation.Reach u width :=
  ⟨boundedOpenContinuation reach.bounded, reach.expected, reach.expected⟩

theorem reachWidened : Reach u width (if t.awaiting then
    { t with continuation := Width.wider t.continuation t.expected } else t) := by
  split
  · have wider := multipleMax reach.bounded.continuation reach.bounded.expected
    exact ⟨⟨reach.bounded.unit, reach.bounded.expected, wider, reach.bounded.pending, reach.bounded.frames⟩,
      reach.expected, Int.max_le.mpr ⟨reach.continuation, reach.expected⟩⟩
  · exact reach

theorem reachBraces (text : List Char) : (text.foldl brace t).Reach u width := by
  induction text generalizing t with
  | nil => exact reach
  | cons c rest ih =>
    refine ih ?_
    unfold brace
    split
    · exact reachPush reach
    · split
      · exact reachPop reach
      · exact reach

variable (above : 0 ≤ u)
include above

theorem reachShift {levels most : Int} (le : levels ≤ most) (up : 0 ≤ most) :
    (t.shift levels).Reach u (width + most * u) := by
  have steps : levels * u ≤ most * u := Int.mul_le_mul_of_nonneg_right le above
  have rise : 0 ≤ most * u := Int.mul_nonneg up above
  have low := reach.bounded.expected.1
  have high := reach.expected
  refine ⟨boundedShift reach.bounded levels, ?_, ?_⟩
  · change max 0 (t.expected + levels * t.unit) ≤ width + most * u
    rw [reach.bounded.unit]
    omega
  · have before := reach.continuation
    change t.continuation ≤ width + most * u
    omega

theorem reachBack {levels : Int} (down : levels ≤ 0) : (t.shift levels).Reach u width := by
  have shifted := reachShift reach above down (Int.le_refl 0)
  rwa [Int.zero_mul, Int.add_zero] at shifted

theorem reachRelease : t.releasePending.Reach u width := by
  unfold releasePending
  split
  · exact reachPending (reachBack reach above (by omega)) (Int.le_refl 0)
  · exact reach

theorem reachFinish (ending : Ending) : (t.finish ending).Reach u width := by
  cases ending with
  | nothing => exact reach
  | header => exact reachAwaiting (reachPending reach (Int.le_add_one reach.bounded.pending)) true
  | wrapped => exact reachOpenContinuation reach
  | closing =>
    refine reachRelease (reachPop ?_) above
    split
    · exact reachAwaiting reach false
    · exact reach
  | release => exact reachRelease reach above

theorem reachEnter (text : List Char) : (t.enter text).Reach u (width + u) := by
  have closer : (t.outdented text).Reach u width := by
    unfold outdented
    split
    · exact reachBack reach above (by decide)
    · exact reach
  have wider := reachWider closer (Int.le_add_of_nonneg_right above)
  have entry := enterEntry t text
  generalize t.outdented text = outdented at closer wider entry
  generalize t.enter text = entered at entry ⊢
  cases entry with
  | opener waits opens more => exact reachPending (reachAwaiting wider false) (by omega)
  | block => exact reachPop (reachAwaiting wider false)
  | body =>
    have deeper := reachShift closer above (Int.le_refl 1) (by decide)
    rw [Int.one_mul] at deeper
    exact reachAwaiting deeper false
  | plain => exact wider

theorem reachLeave (text : List Char) : (t.leave text).Reach u (width + text.length * u) := by
  have opens : text.count '{' ≤ text.length := List.count_le_length
  have moved : (text.count '{' : Int) - text.count '}' +
      (if (Text.trim text).head? = some '}' then 1 else 0) ≤ text.length := by
    split
    · rename_i closer
      have member := (Text.trimSublist text).subset (List.mem_of_head? closer)
      have closes := List.count_pos_iff.mpr member
      omega
    · omega
  unfold leave
  rw [settleFinish]
  exact reachFinish (reachBraces (reachShift (reachWidened reach) above moved (Int.natCast_nonneg _)) text)
    above _

end

end IndentLint.Layout.Tracker
