import IndentLint.Document.Json.Reader
import IndentLint.Proofs.Document.Merging
import IndentLint.Proofs.Except

/-! Keys of documents. In every mapping that a document read from JSON holds, at any depth, a text is a key
once at most, since the keys are set in turn. -/
namespace IndentLint.Document
open Entries

inductive Distinct : Value → Prop where
  | scalar (s : Scalar) : Distinct (.scalar s)
  | list {items : List Value} (inside : ∀ v ∈ items, Distinct v) : Distinct (.list items)
  | mapping {entries : Entries} (once : ∀ key, Once entries (.text key))
      (inside : ∀ e ∈ entries, Distinct e.2) : Distinct (.mapping entries)
  | set (members : List Scalar) : Distinct (.set members)
  | pair {k v : Value} (key : Distinct k) (value : Distinct v) : Distinct (.pair k v)
  | endless (isList : Bool) : Distinct (.endless isList)

theorem emptyDistinct : Distinct (.mapping []) :=
  .mapping (fun _ => Nat.zero_le 1) fun _ member => absurd member List.not_mem_nil

/-! ### Keys set in turn -/

theorem ofListOnce (entries : List (Scalar × Value)) (key : Scalar) : Once (ofList entries) key := by
  suffices run : ∀ acc, Once acc key → Once (entries.foldl (fun acc e => set acc e.1 e.2) acc) key from
    run [] (Nat.zero_le 1)
  induction entries with
  | nil => exact fun acc once => once
  | cons e rest ih => exact fun acc once => ih _ (onceSet once e.1 e.2)

theorem setHolds {entries : Entries} {k : Scalar} {v : Value} {e : Scalar × Value}
    (member : e ∈ set entries k v) : e ∈ entries ∨ e.2 = v := by
  induction entries with
  | nil => exact .inr (by rw [List.mem_singleton.mp member])
  | cons first rest ih =>
    obtain ⟨own, w⟩ := first
    unfold Entries.set at member
    split at member
    all_goals
      rcases List.mem_cons.mp member with rfl | behind
    · exact .inr rfl
    · exact .inl (List.mem_cons_of_mem _ behind)
    · exact .inl List.mem_cons_self
    · exact (ih behind).imp_left (List.mem_cons_of_mem _)

theorem ofListHolds {entries : List (Scalar × Value)} (inside : ∀ e ∈ entries, Distinct e.2) :
    ∀ e ∈ ofList entries, Distinct e.2 := by
  suffices run : ∀ acc : Entries, (∀ e ∈ acc, Distinct e.2) →
      ∀ e ∈ entries.foldl (fun acc e => set acc e.1 e.2) acc, Distinct e.2 from
    run [] fun e member => absurd member List.not_mem_nil
  induction entries with
  | nil => exact fun acc before => before
  | cons first rest ih =>
    intro acc before
    refine ih (fun e member => inside e (List.mem_cons_of_mem _ member)) _ fun e member => ?_
    rcases setHolds member with old | same
    · exact before e old
    · exact same ▸ inside first List.mem_cons_self

namespace Json

structure Reads (fuel : Nat) : Prop where
  value : ∀ {room s v rest}, value fuel room s = .ok (v, rest) → Distinct v
  items : ∀ {room s vs rest}, items fuel room s = .ok (vs, rest) → ∀ v ∈ vs, Distinct v
  entries : ∀ {room s es rest}, entries fuel room s = .ok (es, rest) → ∀ e ∈ es, Distinct e.2

section
variable {fuel : Nat} (below : Reads fuel) {room : Nat} {s rest : List Char}
include below

theorem valueDistinct {v : Value} (ran : value (fuel + 1) room s = .ok (v, rest)) : Distinct v := by
  unfold value at ran
  split at ran
  · contradiction
  · obtain ⟨_, -, same⟩ := bindOk.mp ran
    cases same
    exact .scalar _
  · contradiction
  · rename_i spent
    cases spent
    split at ran
    · cases ran
      exact .list fun v member => absurd member List.not_mem_nil
    · obtain ⟨_, inner, same⟩ := bindOk.mp ran
      cases same
      exact .list (below.items inner)
  · contradiction
  · rename_i spent
    cases spent
    split at ran
    · cases ran
      exact emptyDistinct
    · obtain ⟨_, inner, same⟩ := bindOk.mp ran
      cases same
      exact .mapping (fun key => ofListOnce _ _) (ofListHolds (below.entries inner))
  · obtain ⟨_, -, same⟩ := bindOk.mp ran
    cases same
    exact .scalar _

theorem itemsDistinct {vs : List Value} (ran : items (fuel + 1) room s = .ok (vs, rest)) :
    ∀ v ∈ vs, Distinct v := by
  unfold items at ran
  obtain ⟨⟨v, behind⟩, first, ran⟩ := bindOk.mp ran
  have here := below.value first
  dsimp only at ran
  split at ran
  · cases ran
    exact List.forall_mem_singleton.mpr here
  · obtain ⟨_, later, same⟩ := bindOk.mp ran
    cases same
    exact List.forall_mem_cons.mpr ⟨here, below.items later⟩
  · contradiction

theorem entriesDistinct {es : List (Scalar × Value)} (ran : entries (fuel + 1) room s = .ok (es, rest)) :
    ∀ e ∈ es, Distinct e.2 := by
  unfold entries at ran
  split at ran
  · contradiction
  · rename_i spent
    cases spent
    obtain ⟨⟨k, behind⟩, -, ran⟩ := bindOk.mp ran
    dsimp only at ran
    split at ran
    · obtain ⟨⟨v, behind⟩, first, ran⟩ := bindOk.mp ran
      have here := below.value first
      dsimp only at ran
      split at ran
      · cases ran
        exact List.forall_mem_singleton.mpr here
      · obtain ⟨_, later, same⟩ := bindOk.mp ran
        cases same
        exact List.forall_mem_cons.mpr ⟨here, below.entries later⟩
      · contradiction
    · contradiction
  · contradiction

end

theorem reads (fuel : Nat) : Reads fuel := by
  induction fuel with
  | zero => constructor <;> intros <;> simp_all [value, items, entries, fail]
  | succ fuel ih => exact ⟨valueDistinct ih, itemsDistinct ih, entriesDistinct ih⟩

theorem readDistinct {text : List Char} {depth : Nat} {v : Value} (ran : read text depth = .ok v) : Distinct v := by
  obtain ⟨⟨inside, rest⟩, inner, ran⟩ := bindOk.mp ran
  dsimp only at ran
  split at ran
  · cases ran
    exact (reads _).value inner
  · contradiction

end Json
end IndentLint.Document
