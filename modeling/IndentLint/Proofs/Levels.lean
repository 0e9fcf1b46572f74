import IndentLint.Proofs.Tracking

/-! Widths in whole levels. Whatever lines a tracker is fed, its widths stay multiples of the unit that
was fixed for it, so that every width a report asks for is a number of whole levels. -/
namespace IndentLint
open Layout (Tracker Target)
open Report (Assessment)
open Source (Line)

namespace Layout.Tracker

variable {u : Int} {t : Tracker Int}

theorem boundedFeed (h : Bounded u t) (text : List Char) : Bounded u (t.feed text) :=
  boundedLeave (boundedEnter h text) text

theorem boundedRun (h : Bounded u t) (texts : List (List Char)) : Bounded u (t.run texts) := by
  induction texts generalizing t with
  | nil => exact h
  | cons text rest ih => exact ih (boundedFeed h text)

theorem startFixed (u : Int) : (start (0 : Int) false).fixUnit? u = some (start u true) := rfl

end Layout.Tracker

namespace Options

theorem trackedEnabled {o : Options} {texts : List (List Char)} {pair : Line × Target Int}
    (mem : pair ∈ o.tracked texts) : o.enabled = true := by
  simp only [tracked] at mem
  split at mem
  · rename_i checks
    simp only [Options.checks, Bool.and_eq_true] at checks
    exact checks.1.1
  · simp at mem

theorem assessedTarget {o : Options} {texts : List (List Char)} {a : Assessment Int}
    (mem : a ∈ (analyze o texts).assessments) : ∃ pair ∈ o.tracked texts, pair.2.width = a.expected := by
  rw [analyzeJudge] at mem
  have target := List.mem_map_of_mem (f := fun a => (a.index, a.expected)) mem
  rw [judgedTargets] at target
  obtain ⟨pair, known, same⟩ := List.mem_map.mp target
  exact ⟨pair, known, congrArg Prod.snd same⟩

theorem assessedMultiple {o : Options} {texts : List (List Char)} {a : Assessment Int}
    (mem : a ∈ (analyze o texts).assessments) : Tracker.Multiple (analyze o texts).unit a.expected := by
  obtain ⟨pair, known, same⟩ := assessedTarget mem
  have multiple := trackedMultiples (Tracker.boundedStart _ true) _ pair (trackedOf known)
  rw [analyzeReport, trackedEnabled known, if_pos rfl, ← same]
  exact multiple

end Options

theorem widthsAreWholeLevels (u : Int) (o : Options) (texts : List (List Char)) :
    (∃ fresh, (Tracker.start (0 : Int) false).fixUnit? u = some fresh ∧
        ∀ fed text, ((fresh.run fed).enter text).Bounded u ∧ ((fresh.run fed).feed text).Bounded u) ∧
      (∀ a ∈ (analyze o texts).assessments,
        0 ≤ a.expected ∧ (analyze o texts).unit ∣ a.expected) ∧
      (∀ p ∈ (analyze o texts).problems, 0 ≤ p.expected ∧ (analyze o texts).unit ∣ p.expected) := by
  refine ⟨⟨_, Tracker.startFixed u, ?_⟩, ?_, ?_⟩
  · intro fed text
    have before := Tracker.boundedRun (Tracker.boundedStart u true) fed
    exact ⟨Tracker.boundedEnter before text, Tracker.boundedFeed before text⟩
  · intro a mem
    exact Options.assessedMultiple mem
  · intro p mem
    obtain ⟨a, assessed, found⟩ := List.mem_filterMap.mp mem
    rw [problemEq found]
    exact Options.assessedMultiple assessed

end IndentLint
