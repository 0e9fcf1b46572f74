import IndentLint.Document.Yaml.Reader
import IndentLint.Proofs.Document.Distinct

/-! Keys of documents built from nodes. A key is put where an equal one stands, and two texts are equal keys,
so that no mapping holds a text twice. Nothing that is done to the nodes meanwhile touches what was made. -/
namespace IndentLint.Document.Yaml

/-! ### Keys put in turn -/

def Key.Plain (key : Key) : Prop := ∀ s, key.scalar = .text s → key.origin = none

structure Fit (entries : List (Key × Nat)) : Prop where
  plain : ∀ e ∈ entries, e.1.Plain
  once : ∀ s, (entries.map (·.1.scalar)).count (.text s) ≤ 1

theorem putKeys (entries : List (Key × Nat)) (key : Key) (a : Nat) : (putAt entries key a).map Prod.fst =
    entries.map Prod.fst ++ if entries.any (·.1.same key) then [] else [key] := by
  induction entries with
  | nil => rfl
  | cons first rest ih =>
    obtain ⟨k, old⟩ := first
    rw [List.any_cons]
    unfold putAt
    cases same : k.same key with
    | true => simp
    | false =>
      rw [Bool.false_or]
      exact congrArg (k :: ·) ih

theorem sameTexts {a b : Key} {s : String} (plain : a.Plain) (plain' : b.Plain) (text : a.scalar = .text s)
    (text' : b.scalar = .text s) : a.same b = true := by
  simp [Key.same, plain s text, plain' s text', text, text']

theorem fitPut {entries : List (Key × Nat)} {key : Key} (fit : Fit entries) (plain : key.Plain) (a : Nat) :
    Fit (putAt entries key a) := by
  have keys := putKeys entries key a
  have scalars : (putAt entries key a).map (·.1.scalar) = entries.map (·.1.scalar) ++
      (if entries.any (·.1.same key) then [] else [key]).map Key.scalar := by
    have := congrArg (List.map Key.scalar) keys
    simpa only [List.map_append, List.map_map, Function.comp_def] using this
  constructor
  · intro e member
    have listed : e.1 ∈ (putAt entries key a).map Prod.fst := List.mem_map_of_mem member
    rw [keys, List.mem_append] at listed
    rcases listed with old | new
    · obtain ⟨e', member, same⟩ := List.mem_map.mp old
      exact same ▸ fit.plain e' member
    · split at new
      · contradiction
      · exact List.mem_singleton.mp new ▸ plain
  · intro s
    rw [scalars, List.count_append]
    split
    · exact fit.once s
    · rename_i fresh
      by_cases text : key.scalar = .text s
      · -- A key that is the same text would be equal.
        have absent : (entries.map (·.1.scalar)).count (.text s) = 0 := by
          refine List.count_eq_zero.mpr fun listed => fresh ?_
          obtain ⟨e, member, held⟩ := List.mem_map.mp listed
          exact List.any_eq_true.mpr ⟨e, member, sameTexts (fit.plain e member) plain held text⟩
        simp [absent, text]
      · simpa [text] using fit.once s

/-! ### Steps of building -/

def Made.Sound : Made → Prop
  | .scalar key => key.Plain
  | .mapping entries => Fit entries
  | _ => True

def Sound (b : Building) : Prop := ∀ place m, b.made? place = some m → m.Sound

namespace Build
section
variable {α β : Type}

def Leads (m : Build α) (kind : α → Prop) : Prop :=
  ∀ b a b', Sound b → m b = .ok (a, b') → Sound b' ∧ kind a

def Keeps (m : Build α) : Prop := Leads m fun _ => True

theorem leadsPure {kind : α → Prop} {a : α} (holds : kind a) : Leads (pure a) kind := by
  rintro b a' b' sound ran
  cases ran
  exact ⟨sound, holds⟩

theorem keepsPure (a : α) : Keeps (pure a) := leadsPure trivial

theorem leadsThrow {kind : α → Prop} (fault : Fault) : Leads (throw fault) kind := by
  rintro b a' b' sound ran
  cases ran

theorem leadsBind {m : Build α} {f : α → Build β} {kind : α → Prop} {kind' : β → Prop} (first : Leads m kind)
    (then' : ∀ a, kind a → Leads (f a) kind') : Leads (m >>= f) kind' := by
  intro b c b' sound ran
  obtain ⟨⟨a, between⟩, here, later⟩ := bindOk.mp (show (m b >>= fun r => f r.1 r.2) = .ok (c, b') from ran)
  obtain ⟨sound, holds⟩ := first b a between sound here
  exact then' a holds between c b' sound later

theorem keepsBind {m : Build α} {f : α → Build β} {kind : β → Prop} (first : Keeps m)
    (then' : ∀ a, Leads (f a) kind) : Leads (m >>= f) kind :=
  leadsBind first fun a _ => then' a

theorem leadsStop {f : α → Build β} {kind : β → Prop} (fault : Fault) : Leads (throw fault >>= f) kind :=
  leadsBind (leadsThrow fault : Leads _ fun _ => False) fun _ never => never.elim

theorem leadsIf {c : Prop} [Decidable c] {m m' : Build α} {kind : α → Prop} (yes : Leads m kind)
    (no : Leads m' kind) : Leads (if c then m else m') kind := by
  split
  · exact yes
  · exact no

theorem keepsLift (x : Except Fault α) : Keeps (liftM x) := by
  rintro b a b' sound ran
  obtain ⟨_, -, same⟩ := bindOk.mp (show (x >>= fun a => .ok (a, b)) = .ok (a, b') from ran)
  cases same
  exact ⟨sound, trivial⟩

theorem keepsGet : Keeps get := by
  rintro b a b' sound ran
  cases ran
  exact ⟨sound, trivial⟩

theorem keepsModify {f : Building → Building} (same : ∀ b, (f b).made = b.made) : Keeps (modify f) := by
  rintro b a b' sound ran
  cases ran
  exact ⟨fun place m made => sound place m (by rwa [Building.made?, same] at made), trivial⟩

theorem keepsForM {f : α → Build PUnit} {xs : List α} (each : ∀ x, Keeps (f x)) : Keeps (xs.forM f) := by
  induction xs with
  | nil => exact keepsPure _
  | cons x rest ih => exact keepsBind (each x) fun _ => ih

theorem keepsMapM {f : α → Build β} {xs : List α} (each : ∀ x, Keeps (f x)) : Keeps (xs.mapM f) := by
  induction xs with
  | nil => exact keepsPure _
  | cons x rest ih =>
    rw [List.mapM_cons]
    exact keepsBind (each x) fun _ => keepsBind ih fun _ => keepsPure _

theorem keepsFind {f : α → Build Bool} {xs : List α} (each : ∀ x, Keeps (f x)) : Keeps (xs.findM? f) := by
  induction xs with
  | nil => exact keepsPure _
  | cons x rest ih =>
    unfold List.findM?
    refine keepsBind (each x) fun found => ?_
    cases found with
    | true => exact keepsPure _
    | false => exact ih

theorem leadsFold {f : β → α → Build β} {xs : List α} {kind : β → Prop}
    (each : ∀ acc x, kind acc → Leads (f acc x) kind) {start : β} (holds : kind start) :
    Leads (xs.foldlM f start) kind := by
  induction xs generalizing start with
  | nil => exact leadsPure holds
  | cons x rest ih => exact leadsBind (each start x holds) fun _ => ih

end

/-! ### Nodes -/

theorem keepsNode (place : Nat) : Keeps (node place) := keepsBind keepsGet fun _ => keepsPure _

theorem keepsSetNode (place : Nat) (n : Node) : Keeps (setNode place n) := keepsModify fun _ => rfl

theorem keepsTagAt (place : Nat) : Keeps (tagAt place) := keepsBind (keepsNode place) fun _ => keepsPure _

theorem keepsEntriesAt (place : Nat) : Keeps (entriesAt place) := by
  refine keepsBind (keepsNode place) fun n => ?_
  split
  · exact keepsPure _
  · exact leadsThrow _

theorem keepsSetEntries (place : Nat) (entries : List (Nat × Nat)) : Keeps (setEntries place entries) :=
  keepsBind (keepsNode place) fun _ => keepsSetNode place _

theorem keepsTextAt (fuel place : Nat) : Keeps (textAt fuel place) := by
  induction fuel generalizing place with
  | zero => exact leadsThrow _
  | succ fuel ih =>
    refine keepsBind (keepsNode place) fun n => ?_
    split
    · exact keepsPure _
    · exact leadsThrow _
    · refine keepsBind (keepsFind fun e => keepsBind (keepsTagAt e.1) fun _ => keepsPure _) fun found => ?_
      split
      · exact ih _
      · exact leadsThrow _

theorem keepsUnmark (e : Nat × Nat) : Keeps (unmark e) := by
  exact keepsBind (keepsNode e.1) fun n => leadsIf (keepsSetNode _ _) (keepsPure _)

theorem keepsIsMerge (e : Nat × Nat) : Keeps (isMerge e) := keepsBind (keepsTagAt e.1) fun _ => keepsPure _

/- Entries that are taken over are entries of nodes, at any depth of taking over. -/
theorem keepsFlatten (fuel : Nat) : (∀ place, Keeps (flatten fuel place)) ∧
    (∀ place, Keeps (takeOver fuel place)) ∧ ∀ source, Keeps (entriesOf fuel source) := by
  induction fuel with
  | zero => exact ⟨fun _ => leadsThrow _, fun _ => leadsThrow _, fun _ => leadsThrow _⟩
  | succ fuel ih =>
    obtain ⟨flattens, takes, holds⟩ := ih
    refine ⟨fun place => ?_, fun place => ?_, fun source => ?_⟩
    · exact keepsBind (takes place) fun taken => keepsBind (keepsEntriesAt place) fun own =>
        keepsBind (keepsForM keepsUnmark) fun _ => keepsSetEntries place _
    · refine keepsBind (keepsEntriesAt place) fun entries => ?_
      refine keepsBind (keepsFind keepsIsMerge) fun found => ?_
      split
      · exact keepsPure _
      · exact keepsBind (keepsSetEntries place _) fun _ => keepsBind (holds _) fun _ =>
          keepsBind (takes place) fun _ => keepsPure _
    · refine keepsBind (keepsNode source) fun n => ?_
      split
      · exact keepsBind (flattens source) fun _ => keepsEntriesAt source
      · exact keepsBind (keepsMapM fun item => keepsBind (keepsEntriesAt item) fun _ =>
          keepsBind (flattens item) fun _ => keepsEntriesAt item) fun _ => keepsPure _
      · exact leadsThrow _

/-! ### What is made -/

theorem leadsMade (place : Nat) : Leads (made? place) fun m => ∀ made, m = some made → made.Sound := by
  rintro b a b' sound ran
  cases ran
  exact ⟨sound, sound place⟩

theorem keepsSetMade (place : Nat) {m : Made} (sound : m.Sound) : Keeps (setMade place m) := by
  rintro b a b' before ran
  cases ran
  refine ⟨fun other made found => ?_, trivial⟩
  rw [Building.made?, Array.getElem?_setIfInBounds] at found
  split at found
  · split at found
    · cases found
      exact sound
    · contradiction
  · exact before other made found

theorem leadsScalarAt (place : Nat) : Leads (scalarAt place) Key.Plain := by
  have read (tag : Tag) (text : List Nat) : Leads (do
      let s ← readScalar tag text
      return (⟨s, if s = .real .nan && !isNanWord (text.map Char.ofNat) then some place else none⟩ : Key)) Key.Plain := by
    refine keepsBind (keepsLift _) fun s => leadsPure ?_
    rintro t rfl
    rfl
  refine keepsBind (keepsNode place) fun n => leadsIf (leadsStop _) ?_
  exact keepsBind keepsGet fun b => keepsBind (keepsTextAt _ place) fun text =>
    leadsIf (leadsStop _) (read n.tag text)

theorem keepsMeet (place : Nat) : Keeps (meet place) := by
  have empty {tag : Tag} {m : Made} (chosen : Made.empty? tag = some m) : m.Sound := by
    cases tag <;> cases chosen <;> first | trivial | exact ⟨by simp, by simp⟩
  refine leadsBind (leadsMade place) fun made sound => leadsIf ?_ (keepsPure _)
  refine keepsBind (keepsTagAt place) fun tag => ?_
  split
  · rename_i chosen
    exact keepsBind (keepsSetMade place (empty chosen)) fun _ => keepsModify fun _ => rfl
  · exact leadsBind (leadsScalarAt place) fun key plain => keepsSetMade place plain

theorem leadsKeyAt (place : Nat) : Leads (keyAt place) Key.Plain := by
  refine keepsBind (keepsMeet place) fun _ => leadsBind (leadsMade place) fun made sound => ?_
  split
  · exact leadsPure (sound _ rfl)
  · exact leadsThrow _

theorem leadsMappingAt (place : Nat) : Leads (mappingAt place) Fit := by
  refine keepsBind (keepsEntriesAt place) fun _ => keepsBind keepsGet fun _ => ?_
  refine keepsBind ((keepsFlatten _).1 place) fun _ => keepsBind (keepsEntriesAt place) fun entries => ?_
  refine leadsFold (fun acc e fit => ?_) ⟨by simp, by simp⟩
  exact leadsBind (leadsKeyAt e.1) fun key plain => keepsBind (keepsMeet e.2) fun _ =>
    leadsPure (fitPut fit plain e.2)

theorem keepsPairAt (place : Nat) : Keeps (pairAt place) := by
  refine keepsBind (keepsEntriesAt place) fun entries => ?_
  split
  · exact keepsBind (keepsMeet _) fun _ => keepsBind (keepsMeet _) fun _ => keepsPure _
  · exact leadsThrow _

theorem keepsFill (place : Nat) : Keeps (fill place) := by
  refine keepsBind (keepsNode place) fun n => ?_
  split
  · exact keepsBind (keepsForM keepsMeet) fun _ => keepsSetMade place trivial
  · exact leadsBind (leadsMappingAt place) fun entries fit => keepsSetMade place fit
  · exact leadsBind (leadsMappingAt place) fun entries fit => keepsSetMade place trivial
  · exact keepsBind (keepsMapM keepsPairAt) fun _ => keepsSetMade place trivial
  · exact leadsThrow _

theorem keepsFillAll (levels : Nat) : Keeps (fillAll levels) := by
  induction levels with
  | zero => exact keepsPure _
  | succ levels ih =>
    refine keepsBind keepsGet fun b => leadsIf (keepsPure _) ?_
    exact keepsBind (keepsModify fun _ => rfl) fun _ => keepsBind (keepsForM keepsFill) fun _ => ih

end Build

/-! ### Values -/

theorem optionMapM {α β : Type} {f : α → Option β} {xs : List α} {ys : List β} (mapped : xs.mapM f = some ys) :
    List.Forall₂ (fun x y => f x = some y) xs ys := by
  induction xs generalizing ys with
  | nil =>
    cases mapped
    exact .nil
  | cons x rest ih =>
    rw [List.mapM_cons] at mapped
    obtain ⟨y, here, mapped⟩ := Option.bind_eq_some_iff.mp mapped
    obtain ⟨more, later, same⟩ := Option.bind_eq_some_iff.mp mapped
    cases same
    exact .cons here (ih later)

theorem forallRight {α β : Type} {related : α → β → Prop} {holds : β → Prop} {xs : List α} {ys : List β}
    (along : List.Forall₂ related xs ys) (each : ∀ x y, related x y → holds y) : ∀ y ∈ ys, holds y := by
  induction along with
  | nil => exact fun y member => absurd member List.not_mem_nil
  | cons here _ ih => exact List.forall_mem_cons.mpr ⟨each _ _ here, ih⟩

theorem valueDistinct {known : Nat → Option Value} (distinct : ∀ part v, known part = some v → Distinct v)
    {m : Made} (sound : m.Sound) {v : Value} (given : m.value? known = some v) : Distinct v := by
  cases m with
  | scalar key =>
    cases given
    exact .scalar _
  | list items =>
    obtain ⟨values, mapped, same⟩ := Option.bind_eq_some_iff.mp given
    cases same
    exact .list (forallRight (optionMapM mapped) distinct)
  | mapping entries =>
    obtain ⟨values, mapped, same⟩ := Option.bind_eq_some_iff.mp given
    cases same
    have along := (optionMapM mapped).imp fun e entry given =>
      (show entry.1 = e.1.scalar ∧ known e.2 = some entry.2 by
        obtain ⟨v, here, same⟩ := Option.bind_eq_some_iff.mp given
        cases same
        exact ⟨rfl, here⟩)
    have forms : Entries.forms values = entries.map (·.1.scalar) := by
      clear mapped given sound
      induction along with
      | nil => rfl
      | cons here _ ih => simpa [Entries.forms, here.1] using ih
    refine .mapping (fun key => ?_) (forallRight along fun e entry given => distinct _ _ given.2)
    rw [Entries.onceText, forms]
    exact sound.once key
  | set members =>
    cases given
    exact .set _
  | pairs entries =>
    obtain ⟨values, mapped, same⟩ := Option.bind_eq_some_iff.mp given
    cases same
    refine .list (forallRight (optionMapM mapped) fun e v given => ?_)
    obtain ⟨k, first, given⟩ := Option.bind_eq_some_iff.mp given
    obtain ⟨w, second, same⟩ := Option.bind_eq_some_iff.mp given
    cases same
    exact .pair (distinct _ _ first) (distinct _ _ second)

namespace Building

def Known (known : Array (Option Value)) : Prop :=
  ∀ (part : Nat) (v : Value), (known[part]?).join = some v → Distinct v

section
variable {b : Building} (sound : Sound b) {known : Array (Option Value)} (distinct : Known known)
include sound distinct

theorem knownLearn : Known (b.learn known) := by
  unfold learn
  generalize (List.range known.size).reverse = places
  induction places generalizing known with
  | nil => exact distinct
  | cons place rest ih =>
    refine ih ?_
    dsimp only
    split
    · exact distinct
    · split
      · rename_i m made
        intro part v given
        rw [Array.getElem?_setIfInBounds] at given
        split at given
        · split at given
          · exact valueDistinct distinct (sound place m made) given
          · contradiction
        · exact distinct part v given
      · exact distinct

theorem knownLearnAll (rounds : Nat) : Known (b.learnAll rounds known) := by
  induction rounds generalizing known with
  | zero => exact distinct
  | succ rounds ih =>
    unfold learnAll
    dsimp only
    split
    · exact distinct
    · exact ih (knownLearn sound distinct)

theorem unrollDistinct (levels place : Nat) : Distinct (b.unroll known levels place) := by
  induction levels generalizing place with
  | zero =>
    unfold unroll
    cases held : (known[place]?).join with
    | none => exact .endless _
    | some v => exact distinct place v held
  | succ levels ih =>
    unfold unroll
    split
    · rename_i v held
      exact distinct place v held
    · cases made : b.made? place with
      | none => exact .scalar _
      | some m =>
        rw [Option.bind_some]
        cases given : m.value? fun part => some (b.unroll known levels part) with
        | none => exact .scalar _
        | some v =>
          refine valueDistinct (fun part w held => ?_) (sound place m made) given
          cases held
          exact ih part

end
end Building

theorem readDistinct {bytes : List UInt8} {v : Value} (ran : read bytes = .ok v) : Distinct v := by
  obtain ⟨⟨root, nodes⟩, -, ran⟩ := bindOk.mp ran
  cases root with
  | none =>
    cases ran
    exact .scalar _
  | some root =>
    obtain ⟨⟨_, b⟩, filled, same⟩ := bindOk.mp ran
    cases same
    -- Nothing is made and nothing known at the start.
    have nothing (α : Type) (n place : Nat) :
        ((Array.replicate n (none : Option α))[place]?).join = none := by
      rw [Array.getElem?_replicate]
      split <;> rfl
    have start : Sound ⟨nodes, mergeCount nodes, Array.replicate nodes.size none, []⟩ := by
      intro place m made
      rw [Building.made?, nothing] at made
      contradiction
    have unknown : Building.Known (Array.replicate b.nodes.size none) := by
      intro part v held
      rw [nothing] at held
      contradiction
    have steps : Build.Keeps (do Build.meet root; Build.fillAll (nodes.size + 1)) :=
      Build.keepsBind (Build.keepsMeet root) fun _ => Build.keepsFillAll _
    obtain ⟨sound, -⟩ := steps _ _ _ start filled
    exact Building.unrollDistinct sound (Building.knownLearnAll sound unknown _) _ root

end IndentLint.Document.Yaml
