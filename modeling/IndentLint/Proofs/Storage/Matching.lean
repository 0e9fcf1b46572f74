import IndentLint.Storage.Glob
import Mathlib.Data.List.Basic

/-! What a name pattern describes. A name is described by a pattern if the pieces of the pattern take it off
from the front, one after the other, and nothing is left. The matcher goes over the pieces once, with all that
may be left of the name; of these it looks at the longest only where a piece takes any run of characters. -/
namespace IndentLint.Storage.Glob

inductive Takes : Piece → List Char → List Char → Prop where
  | many (run rest : List Char) : Takes .many (run ++ rest) rest
  | one {piece : Piece} {c : Char} (single : piece ≠ .many) (accepts : piece.accepts c = true)
      (rest : List Char) : Takes piece (c :: rest) rest

inductive Describes : List Piece → List Char → Prop where
  | done : Describes [] []
  | next {piece pieces s rest} (takes : Takes piece s rest) (later : Describes pieces rest) :
      Describes (piece :: pieces) s

theorem describesNil {s : List Char} : Describes [] s ↔ s = [] := by
  constructor
  · rintro ⟨⟩
    rfl
  · rintro rfl
    exact .done

theorem describesCons {piece : Piece} {pieces : List Piece} {s : List Char} :
    Describes (piece :: pieces) s ↔ ∃ rest, Takes piece s rest ∧ Describes pieces rest := by
  constructor
  · intro described
    cases described with
    | next takes later => exact ⟨_, takes, later⟩
  · rintro ⟨rest, takes, later⟩
    exact .next takes later

theorem takesMany {s rest : List Char} : Takes .many s rest ↔ rest <:+ s := by
  constructor
  · intro takes
    cases takes with
    | many run => exact List.suffix_append run rest
    | one single => contradiction
  · rintro ⟨run, rfl⟩
    exact .many run rest

def Falling (left : List (List Char)) : Prop := left.Pairwise fun before after => after <:+ before

theorem tailsSuffix {s rest : List Char} : rest ∈ tails s ↔ rest <:+ s := by
  induction s with
  | nil => simp [tails]
  | cons c s ih => rw [tails, List.mem_cons, ih, List.suffix_cons_iff]

theorem tailsFalling (s : List Char) : Falling (tails s) := by
  induction s with
  | nil => exact List.pairwise_singleton _ _
  | cons c s ih =>
    refine List.pairwise_cons.mpr ⟨fun rest member => ?_, ih⟩
    exact (tailsSuffix.mp member).trans (List.suffix_cons c s)

def take? (piece : Piece) : List Char → Option (List Char)
  | c :: rest => if piece.accepts c then some rest else none
  | [] => none

theorem takeSome {piece : Piece} {s rest : List Char} :
    take? piece s = some rest ↔ ∃ c, s = c :: rest ∧ piece.accepts c = true := by
  cases s with
  | nil => simp [take?]
  | cons c more => simp [take?, Option.ite_none_right_eq_some, and_comm]

theorem advanceTakes {piece : Piece} (single : piece ≠ .many) (left : List (List Char)) :
    advance left piece = left.filterMap (take? piece) := by
  cases piece <;> first | contradiction | rfl

theorem advanceOne {piece : Piece} (single : piece ≠ .many) {left : List (List Char)} {rest : List Char} :
    rest ∈ advance left piece ↔ ∃ c, c :: rest ∈ left ∧ piece.accepts c = true := by
  rw [advanceTakes single, List.mem_filterMap]
  constructor
  · rintro ⟨s, member, taken⟩
    obtain ⟨c, rfl, accepts⟩ := takeSome.mp taken
    exact ⟨c, member, accepts⟩
  · rintro ⟨c, member, accepts⟩
    exact ⟨c :: rest, member, takeSome.mpr ⟨c, rfl, accepts⟩⟩

section
variable {left : List (List Char)} (falling : Falling left)
include falling

theorem fallingHead {longest : List Char} (first : left.head? = some longest) :
    ∀ s ∈ left, s <:+ longest := by
  obtain ⟨later, rfl⟩ := List.head?_eq_some_iff.mp first
  intro s member
  rcases List.mem_cons.mp member with rfl | behind
  · exact List.suffix_refl s
  · exact (List.pairwise_cons.mp falling).1 s behind

theorem advanceMany {rest : List Char} : rest ∈ advance left .many ↔ ∃ s ∈ left, rest <:+ s := by
  unfold advance
  cases first : left.head? with
  | none => simp [List.head?_eq_none_iff.mp first]
  | some longest =>
    rw [Option.map_some, Option.getD_some, tailsSuffix]
    constructor
    · intro ending
      exact ⟨longest, List.mem_of_mem_head? first, ending⟩
    · rintro ⟨s, member, ending⟩
      exact ending.trans (fallingHead falling first s member)

theorem advanceMember {piece : Piece} {rest : List Char} :
    rest ∈ advance left piece ↔ ∃ s ∈ left, Takes piece s rest := by
  by_cases any : piece = .many
  · subst any
    simp only [advanceMany falling, takesMany]
  · rw [advanceOne any]
    constructor
    · rintro ⟨c, member, accepts⟩
      exact ⟨c :: rest, member, .one any accepts rest⟩
    · rintro ⟨s, member, takes⟩
      cases takes with
      | many => contradiction
      | one single accepts => exact ⟨_, member, accepts⟩

theorem advanceFalling (piece : Piece) : Falling (advance left piece) := by
  by_cases any : piece = .many
  · subst any
    unfold advance
    cases left.head? with
    | none => exact .nil
    | some longest => exact tailsFalling longest
  · rw [advanceTakes any]
    refine falling.filterMap _ fun s t ending rest taken more also => ?_
    obtain ⟨c, rfl, -⟩ := takeSome.mp taken
    obtain ⟨e, rfl, -⟩ := takeSome.mp also
    rcases List.suffix_cons_iff.mp ending with same | further
    · exact (List.cons.inj same).2 ▸ List.suffix_refl _
    · exact (List.suffix_cons e _).trans further

end

theorem foldDescribes (pieces : List Piece) {left : List (List Char)} (falling : Falling left) :
    [] ∈ pieces.foldl advance left ↔ ∃ s ∈ left, Describes pieces s := by
  induction pieces generalizing left with
  | nil => simp [describesNil]
  | cons piece pieces ih =>
    rw [List.foldl_cons, ih (advanceFalling falling piece)]
    constructor
    · rintro ⟨rest, member, later⟩
      obtain ⟨s, inside, takes⟩ := (advanceMember falling).mp member
      exact ⟨s, inside, .next takes later⟩
    · rintro ⟨s, inside, described⟩
      obtain ⟨rest, takes, later⟩ := describesCons.mp described
      exact ⟨rest, (advanceMember falling).mpr ⟨s, inside, takes⟩, later⟩

theorem matchesDescribed (pieces : List Piece) (s : List Char) :
    matchesPieces pieces s = true ↔ Describes pieces s := by
  rw [matchesPieces, List.contains_iff_mem, foldDescribes pieces (List.pairwise_singleton _ s)]
  simp

theorem nameDescribed {pattern name : String} :
    nameMatches pattern name = true ↔ Describes (parse pattern) name.toList := matchesDescribed _ _

end IndentLint.Storage.Glob
