import IndentLint.Document.Merge
import Mathlib.Data.List.Nodup

/-! Entries by their keys. Setting a key and merging are known by what is found afterwards under each key,
as long as what is merged in holds the key once. -/
namespace IndentLint.Document
theorem keyText {k : Scalar} {name : String} : k.key = (Scalar.text name).key ↔ k = .text name := by
  constructor
  · intro same
    have other : (Scalar.text name).key = .other (.text name) := rfl
    rw [other] at same
    cases k with
    | real x =>
      rw [Scalar.key] at same
      split at same <;> cases same
    | moment m =>
      rw [Scalar.key] at same
      split at same <;> cases same
    | bool | int => cases same
    | _ => exact Scalar.Key.other.inj same
  · exact congrArg Scalar.key

namespace Entries

def forms (entries : Entries) : List Scalar := entries.map Prod.fst

def keys (entries : Entries) : List Scalar.Key := entries.map (·.1.key)

def Once (entries : Entries) (key : Scalar) : Prop := (keys entries).count key.key ≤ 1

theorem keysForms (entries : Entries) : keys entries = (forms entries).map Scalar.key := by
  simp [keys, forms]

theorem memKeysText {entries : Entries} {name : String} :
    (Scalar.text name).key ∈ keys entries ↔ .text name ∈ forms entries := by
  simp [keysForms, keyText]

theorem onceText {entries : Entries} {name : String} :
    Once entries (.text name) ↔ (forms entries).count (.text name) ≤ 1 := by
  have same : (fun k : Scalar => k.key == (Scalar.text name).key) = (· == .text name) := by
    funext k
    by_cases text : k = .text name <;> simp [text, keyText]
  rw [Once, keysForms, List.count, List.countP_map, Function.comp_def, same, List.count]

theorem getCons (k key : Scalar) (v : Value) (rest : Entries) :
    get? ((k, v) :: rest) key = if k.key = key.key then some v else get? rest key := by
  by_cases same : k.key = key.key <;> simp [get?, same]

theorem getNone {entries : Entries} {key : Scalar} : get? entries key = none ↔ key.key ∉ keys entries := by
  rw [get?, Option.map_eq_none_iff, List.find?_eq_none, keys, List.mem_map]
  constructor
  · rintro others ⟨e, member, same⟩
    exact others e member (decide_eq_true same)
  · intro absent e member same
    exact absent ⟨e, member, of_decide_eq_true same⟩

theorem getMember {entries : Entries} {key : Scalar} {v : Value} (found : get? entries key = some v) :
    ∃ k, k.key = key.key ∧ (k, v) ∈ entries := by
  obtain ⟨⟨k, w⟩, first, rfl⟩ := Option.map_eq_some_iff.mp found
  exact ⟨k, by simpa using List.find?_some first, List.mem_of_find?_eq_some first⟩

theorem getText {entries : Entries} {name : String} {v : Value} (found : get? entries (.text name) = some v) :
    (.text name, v) ∈ entries := by
  obtain ⟨k, same, member⟩ := getMember found
  rwa [keyText.mp same] at member

theorem getSet (entries : Entries) (k key : Scalar) (v : Value) :
    get? (set entries k v) key = if key.key = k.key then some v else get? entries key := by
  induction entries with
  | nil => simp [set, get?, eq_comm]
  | cons first rest ih =>
    obtain ⟨own, w⟩ := first
    unfold set
    split
    · rename_i replaced
      rw [getCons, getCons]
      split <;> simp_all [eq_comm]
    · rename_i different
      rw [getCons, getCons, ih]
      split <;> simp_all

theorem formsSet (entries : Entries) (k : Scalar) (v : Value) :
    forms (set entries k v) = if k.key ∈ keys entries then forms entries else forms entries ++ [k] := by
  induction entries with
  | nil => rfl
  | cons first rest ih =>
    obtain ⟨own, w⟩ := first
    unfold set
    by_cases replaced : own.key = k.key
    · simp [replaced, keys, forms]
    · have behind : k.key ∈ keys ((own, w) :: rest) ↔ k.key ∈ keys rest := by
        simp [keys, Ne.symm replaced]
      rw [if_neg replaced, show forms ((own, w) :: set rest k v) = own :: forms (set rest k v) from rfl, ih]
      simp only [behind]
      split <;> rfl

theorem keysSet (entries : Entries) (k : Scalar) (v : Value) :
    keys (set entries k v) = if k.key ∈ keys entries then keys entries else keys entries ++ [k.key] := by
  rw [keysForms, formsSet]
  split <;> simp [keysForms]

theorem setMember {entries : Entries} {k key : Scalar} (other : key.key ≠ k.key) (w v : Value) :
    (key, v) ∈ set entries k w ↔ (key, v) ∈ entries := by
  have apart {own : Scalar} (same : own.key = k.key) : key ≠ own := by
    rintro rfl
    exact other same
  induction entries with
  | nil => simp [set, apart rfl]
  | cons first rest ih =>
    obtain ⟨own, old⟩ := first
    unfold set
    split
    · rename_i replaced
      simp [apart replaced]
    · simp only [List.mem_cons, ih]

theorem memKeysSet {entries : Entries} {k : Scalar} {key : Scalar.Key} {v : Value} :
    key ∈ keys (set entries k v) ↔ key ∈ keys entries ∨ key = k.key := by
  rw [keysSet]
  split
  · rename_i member
    constructor
    · exact .inl
    · rintro (before | rfl)
      · exact before
      · exact member
  · simp

theorem onceSet {entries : Entries} {key : Scalar} (once : Once entries key) (k : Scalar) (v : Value) :
    Once (set entries k v) key := by
  unfold Once at once ⊢
  rw [keysSet]
  split
  · exact once
  · rename_i absent
    by_cases same : k.key = key.key
    · rw [← same]
      simp [List.count_eq_zero_of_not_mem absent]
    · simpa [List.count_append, same] using once

theorem setFresh {entries : Entries} {k : Scalar} (absent : k.key ∉ keys entries) (v : Value) :
    set entries k v = entries ++ [(k, v)] := by
  induction entries with
  | nil => rfl
  | cons first rest ih =>
    obtain ⟨own, w⟩ := first
    simp only [keys, List.map_cons, List.mem_cons, not_or] at absent
    rw [set, if_neg (Ne.symm absent.1), ih absent.2, List.cons_append]

theorem onceTail {first : Scalar × Value} {rest : Entries} {key : Scalar}
    (once : Once (first :: rest) key) : Once rest key :=
  Nat.le_trans (List.count_le_count_cons ..) once

theorem onceHead {v : Value} {rest : Entries} {key : Scalar} (once : Once ((key, v) :: rest) key) :
    key.key ∉ keys rest := by
  unfold Once at once
  rw [keys, List.map_cons, List.count_cons_self] at once
  exact List.count_eq_zero.mp (by unfold keys; omega)

theorem newKey {acc rest : Entries} {k : Scalar} {v : Value} (distinct : (keys (acc ++ (k, v) :: rest)).Nodup) :
    k.key ∉ keys acc := by
  intro member
  simp only [keys, List.map_append, List.map_cons, List.nodup_append] at distinct
  exact distinct.2.2 k.key member k.key List.mem_cons_self rfl

theorem ofListDistinct {entries : Entries} (distinct : (keys entries).Nodup) : ofList entries = entries := by
  suffices run : ∀ acc : Entries, (keys (acc ++ entries)).Nodup →
      entries.foldl (fun acc e => set acc e.1 e.2) acc = acc ++ entries from run [] distinct
  clear distinct
  induction entries with
  | nil => simp
  | cons first rest ih =>
    obtain ⟨k, v⟩ := first
    intro acc distinct
    have split : acc ++ (k, v) :: rest = acc ++ [(k, v)] ++ rest := by simp
    rw [List.foldl_cons, setFresh (newKey distinct), ih _ (split ▸ distinct), split]

theorem onceNodup {entries : Entries} (distinct : (keys entries).Nodup) (key : Scalar) : Once entries key :=
  List.nodup_iff_count_le_one.mp distinct key.key

end Entries

open Entries

def overlay (old : Option Value) : Option Value → Option Value
  | none => old
  | some v => some (old.elim v fun before => mergeValue before v)

theorem mergeGet (acc : Entries) {more : Entries} {key : Scalar} (once : Once more key) :
    get? (mergeEntries acc more) key = overlay (get? acc key) (get? more key) := by
  induction more generalizing acc with
  | nil => rw [mergeEntries]; rfl
  | cons first rest ih =>
    obtain ⟨k, v⟩ := first
    rw [mergeEntries, ih _ (onceTail once), getSet, getCons]
    by_cases same : k.key = key.key
    · have own (entries : Entries) : get? entries k = get? entries key := by rw [get?, get?, same]
      have absent : get? rest key = none := by
        rw [← own]
        exact getNone.mpr (onceHead (by rwa [Once, same]))
      rw [if_pos same.symm, if_pos same, absent, own, overlay, overlay]
      cases get? acc key <;> rfl
    · rw [if_neg (Ne.symm same), if_neg same]

theorem mergeKeys {acc more : Entries} {key : Scalar.Key} :
    key ∈ keys (mergeEntries acc more) ↔ key ∈ keys acc ∨ key ∈ keys more := by
  induction more generalizing acc with
  | nil => simp [mergeEntries, keys]
  | cons first rest ih =>
    obtain ⟨k, v⟩ := first
    have head : key ∈ keys ((k, v) :: rest) ↔ key = k.key ∨ key ∈ keys rest := by simp [keys]
    rw [mergeEntries, ih, memKeysSet, head, or_assoc]

theorem mergeMember {acc more : Entries} {key : Scalar} (absent : key.key ∉ keys more) (v : Value) :
    (key, v) ∈ mergeEntries acc more ↔ (key, v) ∈ acc := by
  induction more generalizing acc with
  | nil => rw [mergeEntries]
  | cons first rest ih =>
    obtain ⟨k, w⟩ := first
    rw [keys, List.map_cons, List.mem_cons, not_or] at absent
    rw [mergeEntries, ih absent.2, setMember absent.1]

theorem mergeOnce {acc : Entries} {key : Scalar} (once : Once acc key) (more : Entries) :
    Once (mergeEntries acc more) key := by
  induction more generalizing acc with
  | nil => rwa [mergeEntries]
  | cons first rest ih =>
    obtain ⟨k, v⟩ := first
    rw [mergeEntries]
    exact ih (onceSet once k _)

theorem mergeFresh {acc more : Entries} (distinct : (keys (acc ++ more)).Nodup) :
    mergeEntries acc more = acc ++ more := by
  induction more generalizing acc with
  | nil => rw [mergeEntries, List.append_nil]
  | cons first rest ih =>
    obtain ⟨k, v⟩ := first
    have absent := newKey distinct
    have split : acc ++ (k, v) :: rest = acc ++ [(k, v)] ++ rest := by simp
    rw [mergeEntries, getNone.mpr absent, setFresh absent, ih (split ▸ distinct), split]

end IndentLint.Document
