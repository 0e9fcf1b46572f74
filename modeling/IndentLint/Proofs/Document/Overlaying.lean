import IndentLint.Proofs.Document.Merging

/-! Merging at every depth. Mappings on both sides are merged key by key, and in everything else the later
side counts; keys keep the order and the form in which they first came, and the last values merged in leave no
trace when they are merged in again. -/
namespace IndentLint.Document
open Entries

inductive Keyed : Value → Prop where
  | mapping {entries : Entries} (distinct : (keys entries).Nodup) (inside : ∀ e ∈ entries, Keyed e.2) :
      Keyed (.mapping entries)
  | leaf {v : Value} (plain : v.entries? = none) : Keyed v

def newForms (seen : List Scalar.Key) : List Scalar → List Scalar
  | [] => []
  | k :: rest => if k.key ∈ seen then newForms seen rest else k :: newForms (seen ++ [k.key]) rest

inductive Overlaid : Option Value → Option Value → Option Value → Prop where
  | earlier (old : Option Value) : Overlaid old none old
  | later {old : Option Value} {v : Value} (leaf : old.bind Value.entries? = none ∨ v.entries? = none) :
      Overlaid old (some v) (some v)
  | both {before more after : Entries}
      (order : forms after = forms before ++ newForms (keys before) (forms more))
      (each : ∀ key, Overlaid (get? before key) (get? more key) (get? after key)) :
      Overlaid (some (.mapping before)) (some (.mapping more)) (some (.mapping after))

theorem keyedMapping {entries : Entries} :
    Keyed (.mapping entries) ↔ (keys entries).Nodup ∧ ∀ e ∈ entries, Keyed e.2 := by
  constructor
  · intro keyed
    cases keyed with
    | mapping distinct inside => exact ⟨distinct, inside⟩
    | leaf plain => contradiction
  · rintro ⟨distinct, inside⟩
    exact .mapping distinct inside

theorem keyedScalar (s : Scalar) : Keyed (.scalar s) := .leaf rfl

theorem mergeLeaf {v : Value} (plain : v.entries? = none) (old : Value) : mergeValue old v = v := by
  cases v <;> first | contradiction | rfl

/-! ### Every depth -/

theorem formsMerge (acc more : Entries) :
    forms (mergeEntries acc more) = forms acc ++ newForms (keys acc) (forms more) := by
  induction more generalizing acc with
  | nil => simp [mergeEntries, forms, newForms]
  | cons first rest ih =>
    obtain ⟨k, v⟩ := first
    rw [mergeEntries, ih, formsSet, keysSet, show forms ((k, v) :: rest) = k :: forms rest from rfl, newForms]
    split <;> simp

theorem mergeOverlaid {v : Value} (keyed : Keyed v) (old : Option Value) :
    Overlaid old (some v) (some (old.elim v (mergeValue · v))) := by
  induction keyed generalizing old with
  | @leaf v plain =>
    have same : old.elim v (mergeValue · v) = v := by
      cases old with
      | none => rfl
      | some before => exact mergeLeaf plain before
    rw [same]
    exact .later (.inr plain)
  | @mapping more distinct inside ih =>
    match old with
    | none => exact .later (.inl rfl)
    | some (.mapping before) =>
      refine .both (formsMerge before more) fun key => ?_
      rw [mergeGet before (onceNodup distinct key)]
      cases found : get? more key with
      | none => exact .earlier _
      | some w =>
        obtain ⟨k, -, member⟩ := getMember found
        exact ih (k, w) member (get? before key)
    | some (.scalar _) | some (.list _) | some (.set _) | some (.pair ..) | some (.endless _) =>
      exact .later (.inl rfl)

theorem entriesSame {xs ys : Entries} (distinct : (keys xs).Nodup) (order : forms xs = forms ys)
    (each : ∀ key, get? xs key = get? ys key) : xs = ys := by
  induction xs generalizing ys with
  | nil => exact (List.map_eq_nil_iff.mp order.symm).symm
  | cons first rest ih =>
    obtain ⟨k, v⟩ := first
    match ys with
    | (k', v') :: others =>
      obtain ⟨rfl, behind⟩ : k = k' ∧ forms rest = forms others := List.cons.inj order
      obtain ⟨fresh, later⟩ : k.key ∉ keys rest ∧ (keys rest).Nodup := List.nodup_cons.mp distinct
      have here := each k
      rw [getCons, getCons, if_pos rfl, if_pos rfl] at here
      have same : rest = others := ih later behind fun key => by
        by_cases own : k.key = key.key
        · have absent : key.key ∉ keys rest := own ▸ fresh
          rw [getNone.mpr absent, getNone.mpr (by rwa [keysForms, ← behind, ← keysForms])]
        · have there := each key
          rwa [getCons, getCons, if_neg own, if_neg own] at there
      rw [Option.some.inj here, same]

theorem newFormsDistinct {seen : List Scalar.Key} (distinct : seen.Nodup) (more : List Scalar) :
    (seen ++ (newForms seen more).map Scalar.key).Nodup := by
  induction more generalizing seen with
  | nil => simpa [newForms] using distinct
  | cons k rest ih =>
    rw [newForms]
    split
    · exact ih distinct
    · rename_i fresh
      have longer : (seen ++ [k.key]).Nodup :=
        distinct.append (List.nodup_singleton _) (List.disjoint_singleton.mpr fresh)
      simpa using ih longer

theorem overlaidUnique {old new one other : Option Value} (first : Overlaid old new one)
    (second : Overlaid old new other) (keyed : ∀ v ∈ old, Keyed v) : one = other := by
  induction first generalizing other with
  | earlier old =>
    cases second
    rfl
  | later leaf =>
    cases second with
    | later => rfl
    | both => simp [Value.entries?] at leaf
  | @both before more after order each ih =>
    cases second with
    | later leaf => simp [Value.entries?] at leaf
    | @both _ _ after' order' each' =>
      obtain ⟨distinct, inside⟩ := keyedMapping.mp (keyed _ rfl)
      have distinct : (keys after).Nodup := by
        rw [keysForms, order, List.map_append, ← keysForms]
        exact newFormsDistinct distinct _
      have same : after = after' := entriesSame distinct (order.trans order'.symm) fun key =>
        ih key (each' key) fun v found => by
          obtain ⟨k, -, member⟩ := getMember found
          exact inside _ member
      rw [same]

/-! ### Merging in again -/

theorem setFound {entries : Entries} {k : Scalar} {v : Value} (found : get? entries k = some v) :
    set entries k v = entries := by
  induction entries with
  | nil => contradiction
  | cons first rest ih =>
    obtain ⟨own, w⟩ := first
    rw [getCons] at found
    rw [Entries.set]
    by_cases same : own.key = k.key
    · rw [if_pos same] at found ⊢
      rw [Option.some.inj found]
    · rw [if_neg same] at found ⊢
      rw [ih found]

theorem mergeUnchanged {acc more : Entries}
    (merged : ∀ e ∈ more, ∃ w, get? acc e.1 = some w ∧ mergeValue w e.2 = w) :
    mergeEntries acc more = acc := by
  induction more with
  | nil => rw [mergeEntries]
  | cons first rest ih =>
    obtain ⟨k, v⟩ := first
    obtain ⟨w, found, same⟩ := merged (k, v) List.mem_cons_self
    rw [mergeEntries, found]
    simp only [same]
    rw [setFound found]
    exact ih fun e member => merged e (List.mem_cons_of_mem _ member)

theorem getDistinct {entries : Entries} (distinct : (keys entries).Nodup) {e : Scalar × Value}
    (member : e ∈ entries) : get? entries e.1 = some e.2 := by
  induction entries with
  | nil => contradiction
  | cons first rest ih =>
    obtain ⟨own, w⟩ := first
    obtain ⟨fresh, later⟩ := List.nodup_cons.mp distinct
    rw [getCons]
    rcases List.mem_cons.mp member with rfl | behind
    · exact if_pos rfl
    · have other : own.key ≠ e.1.key := fun same => fresh (List.mem_map.mpr ⟨e, behind, same.symm⟩)
      rw [if_neg other, ih later behind]

theorem mergeAgain {v : Value} (keyed : Keyed v) (old : Option Value) :
    mergeValue (old.elim v (mergeValue · v)) v = old.elim v (mergeValue · v) := by
  induction keyed generalizing old with
  | @leaf v plain =>
    cases old with
    | none => exact mergeLeaf plain v
    | some before => simp [mergeLeaf plain]
  | @mapping more distinct inside ih =>
    have again : mergeValue (.mapping more) (.mapping more) = .mapping more := by
      refine congrArg Value.mapping (mergeUnchanged fun e member => ⟨e.2, ?_, ih e member none⟩)
      exact getDistinct distinct member
    match old with
    | none => exact again
    | some (.mapping before) =>
      refine congrArg Value.mapping (mergeUnchanged fun e member => ⟨_, ?_, ih e member (get? before e.1)⟩)
      rw [mergeGet before (onceNodup distinct e.1), getDistinct distinct member]
      rfl
    | some (.scalar _) | some (.list _) | some (.set _) | some (.pair ..) | some (.endless _) => exact again

/-! ### Lists of values -/

def entriesOf (v : Value) : Entries := v.entries?.getD []

def IsPart (v : Value) : Prop := v.isEmpty = true ∨ ∃ entries, v = .mapping entries

theorem entriesEmpty {v : Value} (empty : v.isEmpty = true) : entriesOf v = [] := by
  cases v with
  | mapping entries => exact List.isEmpty_iff.mp empty
  | _ => rfl

theorem mergeNextEmpty {v : Value} (empty : v.isEmpty = true) (acc : Entries) : mergeNext acc v = .ok acc :=
  if_pos empty

theorem mergeNextPart {v : Value} (part : IsPart v) (acc : Entries) :
    mergeNext acc v = .ok (mergeEntries acc (entriesOf v)) := by
  by_cases empty : v.isEmpty = true
  · rw [mergeNextEmpty empty, entriesEmpty empty, mergeEntries]
  · obtain ⟨entries, rfl⟩ := part.resolve_left empty
    exact if_neg empty

theorem mergeNextOk {v : Value} {acc next : Entries} (merged : mergeNext acc v = .ok next) : IsPart v := by
  by_cases empty : v.isEmpty = true
  · exact .inl empty
  · have unfolded : mergeNext acc v = if v.isEmpty then .ok acc else _ := rfl
    rw [unfolded, if_neg empty] at merged
    cases v with
    | mapping entries => exact .inr ⟨entries, rfl⟩
    | _ => contradiction

def stack (acc : Entries) (values : List Value) : Entries :=
  values.foldl (fun acc v => mergeEntries acc (entriesOf v)) acc

theorem foldParts {values : List Value} (parts : ∀ v ∈ values, IsPart v) (acc : Entries) :
    values.foldlM mergeNext acc = .ok (stack acc values) := by
  induction values generalizing acc with
  | nil => rfl
  | cons v rest ih =>
    rw [List.foldlM_cons, mergeNextPart (parts v List.mem_cons_self)]
    exact ih (fun w member => parts w (List.mem_cons_of_mem v member)) _

theorem distinctMerge {acc : Entries} (distinct : (keys acc).Nodup) (more : Entries) :
    (keys (mergeEntries acc more)).Nodup := by
  rw [keysForms, formsMerge, List.map_append, ← keysForms]
  exact newFormsDistinct distinct _

theorem keyedEntries {v : Value} (keyed : Keyed v) : Keyed (.mapping (entriesOf v)) := by
  cases keyed with
  | mapping distinct inside => exact .mapping distinct inside
  | leaf plain =>
    rw [entriesOf, plain]
    exact .mapping List.nodup_nil fun _ member => absurd member List.not_mem_nil

theorem keyedMerged {v : Value} (keyed : Keyed v) {old : Option Value} (before : ∀ w ∈ old, Keyed w) :
    Keyed (old.elim v (mergeValue · v)) := by
  induction keyed generalizing old with
  | @leaf v plain =>
    cases old with
    | none => exact .leaf plain
    | some w =>
      rw [Option.elim_some, mergeLeaf plain]
      exact .leaf plain
  | @mapping more distinct inside ih =>
    match old with
    | none => exact .mapping distinct inside
    | some (.mapping acc) =>
      obtain ⟨distinctAcc, insideAcc⟩ := keyedMapping.mp (before _ rfl)
      have merged := distinctMerge distinctAcc more
      refine .mapping merged fun e member => ?_
      -- Under different keys an entry is what is found under its key.
      have found := getDistinct merged member
      rw [mergeGet acc (onceNodup distinct e.1)] at found
      have inAcc : ∀ w ∈ get? acc e.1, Keyed w := fun w there => by
        obtain ⟨k, -, listed⟩ := getMember there
        exact insideAcc _ listed
      cases new : get? more e.1 with
      | none =>
        rw [new] at found
        exact inAcc e.2 found
      | some w =>
        obtain ⟨k, -, listed⟩ := getMember new
        rw [new] at found
        exact Option.some.inj found ▸ ih (k, w) listed inAcc
    | some (.scalar _) | some (.list _) | some (.set _) | some (.pair ..) | some (.endless _) =>
      exact .mapping distinct inside

theorem keyedMerge {more acc : Entries} (keyed : Keyed (.mapping more)) (start : Keyed (.mapping acc)) :
    Keyed (.mapping (mergeEntries acc more)) :=
  have before : ∀ w ∈ some (Value.mapping acc), Keyed w := fun _ same => Option.some.inj same ▸ start
  keyedMerged keyed before

theorem mergePair {acc : Entries} (distinct : (keys acc).Nodup) (v : Value) :
    mergeAll [.mapping acc, v] = mergeNext acc v := by
  have first : mergeNext [] (.mapping acc) = .ok acc := by
    cases acc with
    | nil => rfl
    | cons e rest =>
      exact congrArg Except.ok (mergeFresh distinct)
  rw [mergeAll, List.foldlM_cons, first]
  show (mergeNext acc v >>= fun acc => pure acc) = mergeNext acc v
  exact bind_pure _

theorem mergePairs (values : List Value) :
    (values.filter (!·.isEmpty)).foldlM (fun acc v => mergeAll [.mapping acc, v]) [] = mergeAll values := by
  suffices run : ∀ acc : Entries, (keys acc).Nodup →
      (values.filter (!·.isEmpty)).foldlM (fun acc v => mergeAll [.mapping acc, v]) acc =
        values.foldlM mergeNext acc from run [] List.nodup_nil
  induction values with
  | nil => exact fun acc distinct => rfl
  | cons v rest ih =>
    intro acc distinct
    by_cases empty : v.isEmpty = true
    · rw [List.filter_cons_of_neg (by simp [empty]), List.foldlM_cons, mergeNextEmpty empty]
      exact ih acc distinct
    · rw [List.filter_cons_of_pos (by simp [empty]), List.foldlM_cons, List.foldlM_cons, mergePair distinct]
      cases merged : mergeNext acc v with
      | error fault => rfl
      | ok next =>
        rw [mergeNextPart (mergeNextOk merged)] at merged
        exact ih next (Except.ok.inj merged ▸ distinctMerge distinct _)

theorem newFormsAppend (seen : List Scalar.Key) (xs ys : List Scalar) : newForms seen (xs ++ ys) =
    newForms seen xs ++ newForms (seen ++ (newForms seen xs).map Scalar.key) ys := by
  induction xs generalizing seen with
  | nil => simp [newForms]
  | cons k rest ih =>
    rw [List.cons_append, newForms, newForms]
    split
    · exact ih seen
    · simp [ih]

theorem formsStack (acc : Entries) (values : List Value) : forms (stack acc values) =
    forms acc ++ newForms (keys acc) (values.flatMap fun v => forms (entriesOf v)) := by
  induction values generalizing acc with
  | nil => simp [stack, newForms]
  | cons v rest ih =>
    have later := ih (mergeEntries acc (entriesOf v))
    rw [keysForms, formsMerge, List.map_append, ← keysForms, List.append_assoc] at later
    rw [List.flatMap_cons, newFormsAppend]
    exact later

theorem keyedStack {values : List Value} (keyed : ∀ v ∈ values, Keyed v) {acc : Entries}
    (start : Keyed (.mapping acc)) : Keyed (.mapping (stack acc values)) := by
  induction values generalizing acc with
  | nil => exact start
  | cons v rest ih =>
    obtain ⟨here, behind⟩ := List.forall_mem_cons.mp keyed
    exact ih behind (keyedMerge (keyedEntries here) start)

structure DeepMerge (values : List Value) (merged : Entries) : Prop where
  merges : mergeAll values = .ok merged
  pairs : (values.filter (!·.isEmpty)).foldlM (fun acc v => mergeAll [.mapping acc, v]) [] = .ok merged
  order : forms merged = newForms [] (values.flatMap fun v => forms (entriesOf v))
  /- Each value comes over what those before it were merged to, at every depth, and nothing else can
  stand there. -/
  depth : ∀ before v, before ++ [v] <+: values → ∃ acc next, mergeAll before = .ok acc ∧
    mergeAll (before ++ [v]) = .ok next ∧
    ∀ after, Overlaid (some (.mapping acc)) (if v.isEmpty then none else some v) after ↔
      after = some (.mapping next)
  again : ∀ last ∈ values.getLast?, mergeAll (values ++ [last]) = .ok merged

section
variable {v : Value} (keyed : Keyed v)
include keyed

theorem partOverlaid (part : IsPart v) (acc : Entries) :
    Overlaid (some (.mapping acc)) (if v.isEmpty then none else some v)
      (some (.mapping (mergeEntries acc (entriesOf v)))) := by
  by_cases empty : v.isEmpty = true
  · rw [if_pos empty, entriesEmpty empty, mergeEntries]
    exact .earlier _
  · obtain ⟨entries, rfl⟩ := part.resolve_left empty
    rw [if_neg empty]
    exact mergeOverlaid keyed (some (.mapping acc))

theorem mergeEntriesAgain (acc : Entries) :
    mergeEntries (mergeEntries acc (entriesOf v)) (entriesOf v) = mergeEntries acc (entriesOf v) := by
  cases v with
  | mapping entries => exact Value.mapping.inj (mergeAgain keyed (some (.mapping acc)))
  | _ => rfl

end

theorem stackConcat (acc : Entries) (before : List Value) (v : Value) :
    stack acc (before ++ [v]) = mergeEntries (stack acc before) (entriesOf v) := List.foldl_concat ..

theorem mergeAllParts {values : List Value} (parts : ∀ v ∈ values, IsPart v) :
    mergeAll values = .ok (stack [] values) := foldParts parts []

theorem deepMerge {values : List Value} (parts : ∀ v ∈ values, IsPart v) (keyed : ∀ v ∈ values, Keyed v) :
    ∃ merged, DeepMerge values merged := by
  have merges := mergeAllParts parts
  refine ⟨stack [] values, merges, (mergePairs values).trans merges, ?_, ?_, ?_⟩
  · exact formsStack [] values
  · intro before v front
    have inside := front.subset
    have member := inside (List.mem_append_right before List.mem_cons_self)
    refine ⟨stack [] before, stack [] (before ++ [v]),
      mergeAllParts fun w earlier => parts w (inside (List.mem_append_left _ earlier)),
      mergeAllParts fun w within => parts w (inside within), fun after => ?_⟩
    have laid := partOverlaid (keyed v member) (parts v member) (stack [] before)
    have start : Keyed (.mapping (stack [] before)) :=
      keyedStack (fun w earlier => keyed w (inside (List.mem_append_left _ earlier)))
        (.mapping List.nodup_nil fun _ member => absurd member List.not_mem_nil)
    rw [stackConcat]
    constructor
    · intro other
      exact overlaidUnique other laid fun w same => Option.some.inj same ▸ start
    · rintro rfl
      exact laid
  · intro last ends
    obtain ⟨before, rfl⟩ := List.getLast?_eq_some_iff.mp ends
    have member : last ∈ before ++ [last] := List.mem_append_right before List.mem_cons_self
    have all := List.forall_mem_append.mpr ⟨parts, List.forall_mem_singleton.mpr (parts last member)⟩
    rw [mergeAllParts all, stackConcat, stackConcat, mergeEntriesAgain (keyed last member)]

def replaced : List Value :=
  [.record [("a", .record [("x", .int 1), ("y", .record [("z", .int 2)])]), ("b", .int 3)], .null,
    .record [("c", .int 4), ("a", .record [("y", .text "")])], .record [],
    .record [("a", .record [("y", .record [("w", .int 5)]), ("x", .int 6)])],
    .mapping [(.int 1, .text "p")], .mapping [(.bool true, .text "q")]]

theorem replacedMerge : ∃ merged, DeepMerge replaced merged :=
  deepMerge (by simp [replaced, IsPart, Value.isEmpty, Value.record])
    (by simp [replaced, Value.record, keyedMapping, keyedScalar, keys, Scalar.key])

end IndentLint.Document
