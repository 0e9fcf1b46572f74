import IndentLint.Proofs.Levels

/-! Lines that continue a wrapped statement. The least width of such a line is fixed where the statement is
opened, and every line of the statement can only raise it, whatever braces the line holds. So the targets of a
run of such lines never move to the left. -/
namespace IndentLint
open Layout (Tracker Target)
open Source (Line)

namespace Layout.Tracker

section
variable {α : Type} (t : Tracker α)

theorem targetAtLeast : t.target.atLeast = t.awaiting := by
  unfold target
  split
  · rename_i waits
    exact waits.symm
  · rename_i idle
    exact (Bool.eq_false_iff.mpr idle).symm

theorem targetContinuation (waits : t.awaiting = true) : t.target.width = t.continuation := by
  rw [target, if_pos waits]

theorem bracesWaiting (text : List Char) :
    (text.foldl brace t).continuation = t.continuation ∧ (text.foldl brace t).awaiting = t.awaiting := by
  induction text generalizing t with
  | nil => exact ⟨rfl, rfl⟩
  | cons c rest ih =>
    have first : (brace t c).continuation = t.continuation ∧ (brace t c).awaiting = t.awaiting := by
      unfold brace
      split
      · exact ⟨rfl, rfl⟩
      · split
        · rw [popFrame]
          exact ⟨rfl, rfl⟩
        · exact ⟨rfl, rfl⟩
    rw [List.foldl_cons, (ih _).1, (ih _).2]
    exact first

end

section
variable {α : Type} [Width α] (t : Tracker α) (text : List Char)

theorem enterContinuation : (t.enter text).continuation = t.continuation := by
  obtain ⟨expected, width⟩ := outdentedWidth t text
  have entry := enterEntry t text
  rw [width] at entry
  generalize t.enter text = entered at entry ⊢
  cases entry with
  | opener waits opens more => rfl
  | block waits opens none => rw [popFrame]
  | body more => rfl
  | plain none other => rfl

theorem enterAwaiting : (t.enter text).awaiting = true ↔
    t.awaiting = true ∧ ¬ 0 < t.pending ∧ (Text.trim text).head? ≠ some '{' := by
  obtain ⟨expected, width⟩ := outdentedWidth t text
  have entry := enterEntry t text
  rw [width] at entry
  generalize t.enter text = entered at entry ⊢
  cases entry with
  | opener waits opens more => simp [opens]
  | block waits opens none => simp [popFrame, opens]
  | body more =>
    have waits : 0 < t.pending := more
    simp [waits]
  | plain none other =>
    have noneWait : ¬ 0 < t.pending := none
    exact ⟨fun waits => ⟨waits, noneWait, other waits⟩, fun continues => continues.1⟩

end

section
variable {α : Type} [Width α]

theorem releaseContinuation (t : Tracker α) : t.releasePending.continuation = t.continuation := by
  unfold releasePending
  split
  · rfl
  · rfl

theorem settleContinuation {t : Tracker α} (waits : t.awaiting = true) (text : List Char) :
    (t.settle text).continuation = t.continuation := by
  have ends : ending true text = .closing ∨ ending true text = .release := by
    simp only [ending, Bool.not_true, Bool.false_and, Bool.true_and, Bool.false_eq_true, if_false]
    split
    · exact .inl rfl
    · exact .inr rfl
  rw [settleFinish, waits]
  rcases ends with closing | release
  · rw [closing, finish, releaseContinuation, popFrame]
    split
    · rfl
    · rfl
  · rw [release, finish, releaseContinuation]

theorem leaveContinuation {t : Tracker α} (waits : t.awaiting = true) (text : List Char) :
    (t.leave text).continuation = Width.wider t.continuation t.expected := by
  simp only [leave, if_pos waits]
  generalize (text.count '{' : Int) - text.count '}' + (if (Text.trim text).head? = some '}' then 1 else 0) = levels
  obtain ⟨raised, waiting⟩ := bracesWaiting
    (({ t with continuation := Width.wider t.continuation t.expected } : Tracker α).shift levels) text
  rw [settleContinuation (waiting.trans waits), raised]
  rfl

end

/- Of two lines that both continue a statement, the second one is expected no further to the left. -/
def Follows (first second : Target Int) : Prop :=
  first.atLeast = true → second.atLeast = true → first.width ≤ second.width

theorem feedFollows (t : Tracker Int) (first second : List Char) :
    Follows (t.enter first).target ((t.feed first).enter second).target := by
  intro continues goesOn
  rw [targetAtLeast] at continues goesOn
  rw [targetContinuation _ continues, targetContinuation _ goesOn, enterContinuation (t.feed first), feed,
    leaveContinuation continues]
  exact Int.le_max_left _ _

theorem targetsFollow (t : Tracker Int) (texts : List (List Char)) : (t.targets texts).IsChain Follows := by
  induction texts generalizing t with
  | nil => exact .nil
  | cons first rest ih =>
    have later := ih (t.feed first)
    cases rest with
    | nil => exact .singleton _
    | cons second rest => exact .cons_cons (feedFollows t first second) later

end Layout.Tracker

theorem trackTargets {α : Type} [Layout.Width α] (t : Tracker α) (lines : List Line) :
    (track t lines).map Prod.snd = t.targets ((lines.filter Line.isCheckable).map Line.visible) := by
  induction lines generalizing t with
  | nil => rfl
  | cons line rest ih =>
    cases checkable : line.isCheckable with
    | true =>
      rw [trackCheckable checkable, List.filter_cons_of_pos checkable, List.map_cons, ih]
      rfl
    | false =>
      rw [trackSkipped checkable, List.filter_cons_of_neg (by simp [checkable]), ih]

open Layout.Tracker in
theorem continuationsNeverRecede (u : Int) (unitFixed : Bool) :
    (∀ texts, ((start u unitFixed).targets texts).IsChain Follows) ∧
      (∀ fed text, (((start u unitFixed).run fed).enter text).target.atLeast = true ↔
        ((start u unitFixed).run fed).awaiting = true ∧ ((start u unitFixed).run fed).pending = 0 ∧
          (Text.trim text).head? ≠ some '{') ∧
      ∀ (o : Options) (texts : List (List Char)), ((o.tracked texts).map Prod.snd).IsChain Follows := by
  refine ⟨targetsFollow _, ?_, ?_⟩
  · intro fed text
    have nonneg := (boundedRun (boundedStart u unitFixed) fed).pending
    have none : ¬ 0 < ((start u unitFixed).run fed).pending ↔ ((start u unitFixed).run fed).pending = 0 := by
      omega
    rw [targetAtLeast, enterAwaiting, none]
  · intro o texts
    rw [Options.tracked]
    split
    · rw [trackTargets]
      exact targetsFollow _ _
    · exact .nil

example : ((Layout.Tracker.start (4 : Int) true).targets
    ["x = f(".toList, "a \x7b b".toList, "c".toList, "\x7d d".toList, "e;".toList]).map
      (fun target => (target.width, target.atLeast)) =
    [(0, false), (0, true), (0, true), (4, true), (4, true)] := by decide

end IndentLint
