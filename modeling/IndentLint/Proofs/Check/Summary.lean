import IndentLint.Check.Diagnostic
import Mathlib.Algebra.GroupWithZero.Nat
import Mathlib.Data.List.Induction
import Mathlib.Data.List.Nodup
import Mathlib.Data.List.Perm.Basic

/-! What a summary says of the failures that it was made of. None is lost and none counted twice, and the order
in which they came shows only in the order of what is listed. -/
namespace IndentLint.Check
open Document (Value)

section
variable {α : Type} [DecidableEq α]

def firsts (xs : List α) : List α := xs.foldl addNew []

def counts (xs : List α) : List (α × Nat) := xs.foldl (fun acc x => countOne x acc) []

theorem firstsConcat (xs : List α) (x : α) : firsts (xs ++ [x]) = addNew (firsts xs) x := List.foldl_concat ..

theorem countsConcat (xs : List α) (x : α) : counts (xs ++ [x]) = countOne x (counts xs) := List.foldl_concat ..

theorem memFirsts {xs : List α} {x : α} : x ∈ firsts xs ↔ x ∈ xs := by
  induction xs using List.reverseRecOn with
  | nil => simp [firsts]
  | append_singleton xs last ih =>
    rw [firstsConcat, addNew, List.mem_append, List.mem_singleton, ← ih]
    split
    · rename_i listed
      constructor
      · exact .inl
      · intro either
        rcases either with before | same
        · exact before
        · exact same ▸ listed
    · simp

theorem firstsDistinct (xs : List α) : (firsts xs).Nodup := by
  induction xs using List.reverseRecOn with
  | nil => exact List.nodup_nil
  | append_singleton xs last ih =>
    rw [firstsConcat, addNew]
    split
    · exact ih
    · rename_i absent
      rw [← List.concat_eq_append]
      exact ih.concat absent

theorem firstsOrder (xs : List α) : (firsts xs).Pairwise fun x y => xs.idxOf x < xs.idxOf y := by
  induction xs using List.reverseRecOn with
  | nil => exact .nil
  | append_singleton xs last ih =>
    have kept {x : α} (listed : x ∈ firsts xs) : (xs ++ [last]).idxOf x = xs.idxOf x :=
      List.idxOf_append_of_mem (memFirsts.mp listed)
    have before : (firsts xs).Pairwise fun x y => (xs ++ [last]).idxOf x < (xs ++ [last]).idxOf y := by
      refine ih.imp_of_mem fun first second => ?_
      rw [kept first, kept second]
      exact id
    rw [firstsConcat, addNew]
    split
    · exact before
    · rename_i absent
      refine List.pairwise_append.mpr ⟨before, List.pairwise_singleton .., fun x listed y same => ?_⟩
      rw [List.mem_singleton.mp same, kept listed, List.idxOf_append_of_notMem fun member =>
        absent (memFirsts.mpr member)]
      have inside := List.idxOf_lt_length_of_mem (memFirsts.mp listed)
      omega

theorem countOneListed (x : α) (of : α → Nat) {xs : List α} (distinct : xs.Nodup) (new : x ∉ xs → of x = 0) :
    countOne x (xs.map fun y => (y, of y)) = (addNew xs x).map fun y => (y, of y + if x = y then 1 else 0) := by
  unfold addNew
  induction xs with
  | nil => simp [countOne, new List.not_mem_nil]
  | cons first rest ih =>
    obtain ⟨apart, distinct⟩ := List.nodup_cons.mp distinct
    rw [List.map_cons, countOne]
    by_cases same : first = x
    · subst same
      have others : rest.map (fun y => (y, of y + if first = y then 1 else 0)) = rest.map fun y => (y, of y) := by
        refine List.map_congr_left fun y member => ?_
        have different : first ≠ y := fun equal => apart (equal ▸ member)
        simp [different]
      simp [others]
    · have behind : x ∉ rest → of x = 0 := fun absent => new (by simp [Ne.symm same, absent])
      rw [if_neg same, ih distinct behind]
      by_cases listed : x ∈ rest
      · simp [listed, Ne.symm same]
      · simp [listed, Ne.symm same]

theorem countsFirsts (xs : List α) : counts xs = (firsts xs).map fun x => (x, xs.count x) := by
  induction xs using List.reverseRecOn with
  | nil => rfl
  | append_singleton xs last ih =>
    have new : last ∉ firsts xs → xs.count last = 0 := fun absent =>
      List.count_eq_zero.mpr fun member => absent (memFirsts.mpr member)
    rw [countsConcat, firstsConcat, ih, countOneListed last _ (firstsDistinct xs) new]
    simp [List.count_append, List.count_singleton]

theorem sumCountOne (x : α) (listed : List (α × Nat)) :
    ((countOne x listed).map Prod.snd).sum = (listed.map Prod.snd).sum + 1 := by
  induction listed with
  | nil => rfl
  | cons first rest ih =>
    obtain ⟨y, n⟩ := first
    unfold countOne
    split
    · simp only [List.map_cons, List.sum_cons]
      omega
    · simp only [List.map_cons, List.sum_cons, ih]
      omega

theorem sumCounts (xs : List α) : ((counts xs).map Prod.snd).sum = xs.length := by
  induction xs using List.reverseRecOn with
  | nil => rfl
  | append_singleton xs last ih => rw [countsConcat, sumCountOne, ih, List.length_append, List.length_singleton]

theorem firstsPermuted {xs ys : List α} (permuted : ys.Perm xs) : (firsts ys).Perm (firsts xs) := by
  refine (List.perm_ext_iff_of_nodup (firstsDistinct ys) (firstsDistinct xs)).mpr fun x => ?_
  rw [memFirsts, memFirsts, permuted.mem_iff]

theorem countsPermuted {xs ys : List α} (permuted : ys.Perm xs) : (counts ys).Perm (counts xs) := by
  have same : (fun y => (y, ys.count y)) = fun x => (x, xs.count x) :=
    funext fun x => by rw [permuted.count_eq]
  rw [countsFirsts, countsFirsts, same]
  exact (firstsPermuted permuted).map _

theorem countsNamed {β : Type} [DecidableEq β] {name : α → β} (injective : ∀ x y, name x = name y → x = y)
    (xs : List α) : counts (xs.map name) = (counts xs).map fun c => (name c.1, c.2) := by
  have one (x : α) (listed : List (α × Nat)) : countOne (name x) (listed.map fun c => (name c.1, c.2)) =
      (countOne x listed).map fun c => (name c.1, c.2) := by
    induction listed with
    | nil => rfl
    | cons first rest ih =>
      obtain ⟨y, n⟩ := first
      rw [List.map_cons, countOne, countOne]
      by_cases same : y = x
      · rw [if_pos same, if_pos (congrArg name same), List.map_cons]
      · rw [if_neg same, if_neg fun equal => same (injective y x equal), ih, List.map_cons]
  induction xs using List.reverseRecOn with
  | nil => rfl
  | append_singleton xs last ih => rw [List.map_append, List.map_singleton, countsConcat, countsConcat, ih, one]

end

namespace Summary

structure Tallies (name : Diagnostic → String) (ds : List Diagnostic) (listed : List (String × Nat)) : Prop where
  distinct : (listed.map Prod.fst).Nodup
  exact : ∀ key n, (key, n) ∈ listed ↔ 0 < n ∧ ds.countP (name · = key) = n
  sum : (listed.map Prod.snd).sum = ds.length

theorem countsTally (name : Diagnostic → String) (ds : List Diagnostic) :
    Tallies name ds (counts (ds.map name)) := by
  have keys : (counts (ds.map name)).map Prod.fst = firsts (ds.map name) := by
    simp [countsFirsts, Function.comp_def]
  have times (key : String) : (ds.map name).count key = ds.countP (name · = key) := by
    rw [List.count_eq_countP, List.countP_map]
    rfl
  refine ⟨keys ▸ firstsDistinct _, fun key n => ?_, (sumCounts _).trans (List.length_map _)⟩
  rw [countsFirsts, List.mem_map, ← times]
  constructor
  · intro listed
    obtain ⟨first, member, same⟩ := listed
    cases same
    exact ⟨List.count_pos_iff.mpr (memFirsts.mp member), rfl⟩
  · intro counted
    obtain ⟨occurs, rfl⟩ := counted
    exact ⟨key, memFirsts.mpr (List.count_pos_iff.mp occurs), rfl⟩

def named (ds : List Diagnostic) : List String := (ds.filterMap (·.path)).filter (· ≠ "")

structure Lists (ds : List Diagnostic) (listed : List String) : Prop where
  distinct : listed.Nodup
  members : ∀ path, path ∈ listed ↔ path ≠ "" ∧ ∃ d ∈ ds, d.path = some path
  order : listed.Pairwise fun path other => (named ds).idxOf path < (named ds).idxOf other

theorem firstsList (ds : List Diagnostic) : Lists ds (firsts (named ds)) := by
  refine ⟨firstsDistinct _, fun path => ?_, firstsOrder _⟩
  rw [memFirsts, named, List.mem_filter, List.mem_filterMap, decide_eq_true_iff]
  exact And.comm

theorem namedCons (d : Diagnostic) (rest : List Diagnostic) : named (d :: rest) = d.path?.toList ++ named rest := by
  unfold named Diagnostic.path?
  rw [List.filterMap_cons]
  cases d.path with
  | none => rfl
  | some path => by_cases empty : path = "" <;> simp [empty, Option.filter_some]

theorem addAll (ds : List Diagnostic) (s : Summary) : ds.foldl add s =
    { total := s.total
      byCategory := (ds.map (·.category)).foldl (fun acc c => countOne c acc) s.byCategory
      bySeverity := (ds.map (·.severity)).foldl (fun acc c => countOne c acc) s.bySeverity
      paths := (named ds).foldl addNew s.paths } := by
  induction ds generalizing s with
  | nil => rfl
  | cons d rest ih =>
    have paths : (add s d).paths = d.path?.toList.foldl addNew s.paths := by
      unfold add
      cases d.path? <;> rfl
    rw [List.foldl_cons, ih, namedCons, List.foldl_append, ← paths]
    rfl

theorem ofParts (ds : List Diagnostic) : of ds =
    ⟨ds.length, counts (ds.map (·.category)), counts (ds.map (·.severity)), firsts (named ds)⟩ :=
  addAll ds _

def document (total : Nat) (categories severities : List (String × Nat)) (paths : List String) : Value :=
  let counted (listed : List (String × Nat)) : Value := .record (listed.map fun c => (c.1, .nat c.2))
  .record [("total_errors", .nat total), ("by_category", counted categories),
    ("by_severity", counted severities), ("files_with_errors", .texts paths)]

theorem categoryNameInjective (x y : Category) (same : x.name = y.name) : x = y := by
  cases x <;> cases y <;> first | rfl | (revert same; decide)

theorem severityNameInjective (x y : Severity) (same : x.name = y.name) : x = y := by
  cases x <;> cases y <;> first | rfl | (revert same; decide)

theorem recordOf {ds : List Diagnostic} (failed : ds ≠ []) : (of ds).record =
    document ds.length (counts (ds.map (·.category.name))) (counts (ds.map (·.severity.name)))
      (firsts (named ds)) := by
  have some : ds.length ≠ 0 := fun none => failed (List.eq_nil_of_length_eq_zero none)
  have byCategory := countsNamed categoryNameInjective (ds.map (·.category))
  have bySeverity := countsNamed severityNameInjective (ds.map (·.severity))
  rw [List.map_map] at byCategory bySeverity
  rw [ofParts, record, if_neg some, document]
  simp only [Function.comp_def] at byCategory bySeverity
  simp only [byCategory, bySeverity, List.map_map, Function.comp_def]

def Conserves (ds : List Diagnostic) : Prop :=
  ∃ categories severities paths,
    (of ds).record = document ds.length categories severities paths ∧
    Tallies (·.category.name) ds categories ∧ Tallies (·.severity.name) ds severities ∧ Lists ds paths ∧
    ∀ ds', ds'.Perm ds → ∃ categories' severities' paths',
      (of ds').record = document ds.length categories' severities' paths' ∧
      categories'.Perm categories ∧ severities'.Perm severities ∧ paths'.Perm paths

theorem summariesConserve {ds : List Diagnostic} (failed : ds ≠ []) : Conserves ds := by
  refine ⟨_, _, _, recordOf failed, countsTally .., countsTally .., firstsList ds, fun ds' permuted => ?_⟩
  have failed' : ds' ≠ [] := by
    intro none
    subst none
    exact failed permuted.symm.eq_nil
  refine ⟨_, _, _, permuted.length_eq ▸ recordOf failed', countsPermuted (permuted.map _),
    countsPermuted (permuted.map _), firstsPermuted ?_⟩
  exact (permuted.filterMap _).filter _

def mixed : List Diagnostic :=
  [{ category := .encoding, severity := .medium, message := none, context := none, path := some "b.c" },
    { category := .permission, severity := .high, message := none, context := none, path := some "" },
    { category := .encoding, severity := .low, message := none, context := none },
    { category := .unknown, severity := .medium, message := none, context := none, path := some "a.c" },
    { category := .tooLarge, severity := .low, message := none, context := none, path := some "b.c" }]

theorem mixedFailuresConserve : mixed ≠ [] ∧ Conserves mixed :=
  have failed : mixed ≠ [] := List.cons_ne_nil _ _
  ⟨failed, summariesConserve failed⟩

end Summary
end IndentLint.Check
