import IndentLint.Proofs.Settings.Applied

/-! What stops a judgment and what stops the settings from being applied. The settings are judged one after the
other once every group is a mapping, and a judged document is applied unless an entry is stuck. -/
namespace IndentLint
open Document (Value Entries Scalar)

def Setting.judged : List Setting := Group.all.flatMap Group.validationOrder

theorem validationGrouped {g : Group} : ∀ setting ∈ g.validationOrder, setting.group = g := by cases g <;> decide

namespace Settings

def Grouped (doc : Entries) : Prop := ∀ g : Group, g.entries doc = .ok (groupIn doc g)

def judge (codecs : Codecs) (doc : Entries) (setting : Setting) : Except SettingFault Unit :=
  (valueIn? doc setting).elim (.ok ()) (setting.validate codecs)

variable {codecs : Codecs}

theorem groupFault {doc : Entries} {g : Group} {fault : SettingFault} (refused : g.entries doc = .error fault) :
    fault = .notMapping g := by
  unfold Group.entries at refused
  split at refused
  · contradiction
  · contradiction
  · exact (Except.error.inj refused).symm

theorem ungrouped {doc : Entries} (broken : ¬ Grouped doc) :
    ∃ g, validateDocument doc codecs = .error (.notMapping g) := by
  have stopped : ∃ fault, (Group.all.forM fun g => do let _ ← g.entries doc) = .error fault := by
    cases ran : Group.all.forM fun g => do let _ ← g.entries doc with
    | error fault => exact ⟨fault, rfl⟩
    | ok =>
      refine absurd (fun g => ?_) broken
      obtain ⟨entries, taken, -⟩ := bindOk.mp (forMOk ran (show g ∈ Group.all by cases g <;> decide))
      rw [taken, judgedGroup taken]
  obtain ⟨fault, stopped⟩ := stopped
  obtain ⟨_, g, _, -, -, refused⟩ := forMError.mp stopped
  rcases bindError.mp refused with refused | ⟨_, -, done⟩
  · exact ⟨g, groupFault refused ▸ bindError.mpr (.inl stopped)⟩
  · contradiction

theorem judgedGrouped {doc : Entries} (judged : validateDocument doc codecs = .ok ()) : Grouped doc := by
  by_contra broken
  obtain ⟨g, stopped⟩ := ungrouped broken
  cases stopped.symm.trans judged

theorem judgedInOrder {doc : Entries} (grouped : Grouped doc) :
    validateDocument doc codecs = Setting.judged.forM (judge codecs doc) := by
  have mappings : (Group.all.forM fun g => do let _ ← g.entries doc) = .ok () :=
    forMTotal fun g _ => bindOk.mpr ⟨_, grouped g, rfl⟩
  have group (g : Group) : (do g.validate codecs (← g.entries doc)) = g.validationOrder.forM (judge codecs doc) := by
    rw [grouped g]
    refine forMCongr fun setting member => ?_
    rw [judge, valueIn?, validationGrouped setting member]
    cases Entries.get? (groupIn doc g) (.text setting.key) <;> rfl
  rw [validateDocument, mappings, Setting.judged, forMFlatMap]
  simp only [← group]
  rfl

/-! ### Faults that no message answers -/

theorem findFault {name : String} {fault : Encoding.NameFault} (missing : codecs.find name = .error fault) :
    fault = .unknown name ∨ name.toList.any (·.toNat = 0) = true := by
  unfold Codecs.find at missing
  split at missing
  · rename_i zero
    exact .inr zero
  · split at missing
    · contradiction
    · exact .inl (Except.error.inj missing).symm

/- A name by which no encoding can be asked for: it holds the character zero, or half a pair. -/
inductive Unaskable : Value → Prop where
  | zero {name : String} (holds : name.toList.any (·.toNat = 0) = true) : Unaskable (.text name)
  | unpaired (points : List Nat) : Unaskable (.scalar (.unpaired points))

theorem encodingRefused {v : Value} {fault : SettingFault}
    (refused : Setting.encoding.validate codecs v = .error fault) :
    fault = .invalid .encoding ∨ (∃ points, v = .scalar (.unpaired points)) ∨
      ∃ name cause, v = .text name ∧ codecs.find name = .error cause ∧ fault = .encoding cause := by
  simp only [Setting.validate] at refused
  split at refused
  · rename_i name
    cases found : codecs.find name with
    | ok codec =>
      rw [found] at refused
      contradiction
    | error cause =>
      rw [found] at refused
      exact .inr (.inr ⟨name, cause, rfl, found, (Except.error.inj refused).symm⟩)
  · exact .inr (.inl ⟨_, rfl⟩)
  · exact .inl (Except.error.inj refused).symm

theorem validateUnreported {setting : Setting} {v : Value} {fault : SettingFault}
    (refused : setting.validate codecs v = .error fault) (silent : fault.isReported = false) :
    setting = .encoding ∧ Unaskable v := by
  have needed {ok : Bool} {setting : Setting}
      (refused : (if ok then .ok () else .error (.invalid setting)) = (.error fault : Except SettingFault Unit)) :
      fault = .invalid setting := by
    cases ok with
    | true => contradiction
    | false => exact (Except.error.inj refused).symm
  cases setting with
  | encoding =>
    rcases encodingRefused refused with rfl | ⟨points, rfl⟩ | ⟨name, cause, rfl, missing, rfl⟩
    · contradiction
    · exact ⟨rfl, .unpaired points⟩
    · rcases findFault missing with rfl | zero
      · contradiction
      · exact ⟨rfl, .zero zero⟩
  | _ =>
    rw [needed refused] at silent
    contradiction

def beforeEncoding : List Setting := Setting.judged.takeWhile (· ≠ .encoding)

structure Misnames (codecs : Codecs) (doc : Entries) : Prop where
  grouped : Grouped doc
  before : ∀ setting ∈ beforeEncoding, judge codecs doc setting = .ok ()
  encoding : ∃ v, valueIn? doc .encoding = some v ∧ Unaskable v

theorem judgedUnreported {doc : Entries} :
    (∃ fault, validateDocument doc codecs = .error fault ∧ fault.isReported = false) ↔ Misnames codecs doc := by
  constructor
  · intro ⟨fault, refused, silent⟩
    by_cases grouped : Grouped doc
    · rw [judgedInOrder grouped] at refused
      obtain ⟨before, setting, behind, split, passed, refused⟩ := forMError.mp refused
      cases given : valueIn? doc setting with
      | none =>
        rw [judge, given] at refused
        contradiction
      | some v =>
        rw [judge, given] at refused
        obtain ⟨rfl, unaskable⟩ := validateUnreported refused silent
        refine ⟨grouped, fun setting member => passed setting ?_, v, given, unaskable⟩
        rw [beforeEncoding, split, List.takeWhile_append] at member
        split at member
        · simpa using member
        · exact List.takeWhile_subset _ member
    · obtain ⟨g, stopped⟩ := ungrouped grouped
      cases stopped.symm.trans refused
      contradiction
  · intro ⟨grouped, before, v, given, unaskable⟩
    obtain ⟨fault, refused, silent⟩ : ∃ fault,
        judge codecs doc .encoding = .error fault ∧ fault.isReported = false := by
      rw [judge, given]
      cases unaskable with
      | @zero name holds =>
        have missing : codecs.find name = .error .holdsZero := if_pos holds
        refine ⟨.encoding .holdsZero, ?_, rfl⟩
        simp only [Option.elim, Setting.validate, missing]
        rfl
      | unpaired points => exact ⟨_, rfl, rfl⟩
    rw [judgedInOrder grouped]
    exact ⟨fault, forMError.mpr ⟨beforeEncoding, .encoding, _, rfl, before, refused⟩, silent⟩

/-! ### Entries that cannot be applied -/

def IsText (key : Scalar) : Prop := (∃ s, key = .text s) ∨ ∃ points, key = .unpaired points

/- An entry that stops its group: a key that is no text, or a reserved one that takes no value, or not this one. -/
inductive Stuck : Scalar → Value → Prop where
  | untexted {key : Scalar} {v : Value} (other : ¬ IsText key) : Stuck key v
  | kind (v : Value) : Stuck (.text "__class__") v
  | weak (v : Value) : Stuck (.text "__weakref__") v
  | contents {v : Value} (flat : v.entries? = none) : Stuck (.text replacingKey) v

theorem settingFree (setting : Setting) (v : Value) : ¬ Stuck (.text setting.key) v := by
  intro stuck
  generalize named : Scalar.text setting.key = key at stuck
  cases stuck with
  | untexted other => exact other (.inl ⟨_, named.symm⟩)
  | _ => cases setting <;> exact absurd (Scalar.text.inj named) (by decide)

theorem reservedOnly {key : String} {effect : Reserved} (reserved : Reserved.ofKey? key = some effect) :
    (effect = .kind → key = "__class__") ∧ (effect = .weak → key = "__weakref__") := by
  unfold Reserved.ofKey? at reserved
  repeat' split at reserved
  all_goals cases reserved
  all_goals simp_all

section
variable {g : Group} {s : Settings}

theorem stuckPut {key : String} {v : Value} :
    (∃ cause, s.put? g key v = some (.error cause)) ↔ Stuck (.text key) v := by
  constructor
  · intro ⟨cause, put⟩
    cases named : g.setting? key with
    | some setting => simp [put?, named] at put
    | none =>
      cases reserved : Reserved.ofKey? key with
      | none => simp [put?, named, reserved] at put
      | some effect =>
        cases effect with
        | idle | outline => simp [put?, named, reserved] at put
        | kind => exact (reservedOnly reserved).1 rfl ▸ .kind v
        | weak => exact (reservedOnly reserved).2 rfl ▸ .weak v
        | contents =>
          cases v with
          | mapping entries => simp [put?, named, reserved] at put
          | _ => exact replacingOnly reserved ▸ .contents rfl
  · intro stuck
    cases stuck with
    | untexted other => exact absurd (.inl ⟨key, rfl⟩) other
    | kind | weak => cases g <;> exact ⟨_, rfl⟩
    | contents flat =>
      cases v with
      | mapping => contradiction
      | _ => cases g <;> exact ⟨_, rfl⟩

def Ends {α : Type} (ran : Except LoadFault α) (stuck : Prop) : Prop :=
  (∃ result, ran = .ok result) ∧ ¬ stuck ∨ (∃ cause, ran = .error (.unusable cause)) ∧ stuck

theorem endsReturn {α : Type} (value : α) : Ends (.ok value) False := .inl ⟨⟨value, rfl⟩, id⟩

theorem endsBind {α β : Type} {first : Except LoadFault α} {next : α → Except LoadFault β} {here behind : Prop}
    (ends : Ends first here) (later : ∀ value, Ends (next value) behind) :
    Ends (first >>= next) (here ∨ behind) := by
  rcases ends with ⟨⟨value, ran⟩, free⟩ | ⟨⟨cause, stopped⟩, stuck⟩
  · rcases later value with ⟨⟨result, done⟩, rested⟩ | ⟨⟨cause, stopped⟩, stuck⟩
    · exact .inl ⟨⟨result, bindOk.mpr ⟨value, ran, done⟩⟩, fun either => either.elim free rested⟩
    · exact .inr ⟨⟨cause, bindError.mpr (.inr ⟨value, ran, stopped⟩)⟩, .inr stuck⟩
  · exact .inr ⟨⟨cause, bindError.mpr (.inl stopped)⟩, .inl stuck⟩

theorem endsPut {key : String} {v : Value} {result : Except Unusable Settings}
    (put : s.put? g key v = some result) : Ends (result.mapError .unusable) (Stuck (.text key) v) := by
  cases result with
  | error cause => exact .inr ⟨⟨cause, rfl⟩, stuckPut.mp ⟨cause, put⟩⟩
  | ok after =>
    refine .inl ⟨⟨after, rfl⟩, fun stuck => ?_⟩
    obtain ⟨cause, stopped⟩ := stuckPut.mpr stuck
    cases put.symm.trans stopped

theorem unknownFree {key : String} {v : Value} (put : s.put? g key v = none) : ¬ Stuck (.text key) v := by
  intro stuck
  obtain ⟨cause, stopped⟩ := stuckPut.mpr stuck
  cases put.symm.trans stopped

theorem applyEntriesEnds (s : Settings) (entries : Entries) :
    Ends (applyEntries g s entries) (∃ e ∈ entries, Stuck e.1 e.2) := by
  induction entries generalizing s with
  | nil => exact .inl ⟨⟨_, rfl⟩, by simp⟩
  | cons first rest ih =>
    obtain ⟨key, v⟩ := first
    rw [List.exists_mem_cons_iff]
    cases key with
    | text key =>
      rw [applyEntries]
      cases put : s.put? g key v with
      | none =>
        rw [or_comm]
        exact endsBind (ih s) fun after => .inl ⟨⟨_, rfl⟩, unknownFree put⟩
      | some result => exact endsBind (endsPut put) fun after => ih after
    | unpaired points =>
      have free : ¬ Stuck (.unpaired points) v := by
        rintro (other | _)
        exact other (.inr ⟨points, rfl⟩)
      rw [or_comm]
      exact endsBind (ih s) fun after => .inl ⟨⟨_, rfl⟩, free⟩
    | _ => exact .inr ⟨⟨_, rfl⟩, .inl (.untexted (by simp [IsText]))⟩

end

theorem applyDocumentEnds {doc : Entries} (grouped : Grouped doc) :
    Ends (applyDocument doc) (∃ g, ∃ e ∈ groupIn doc g, Stuck e.1 e.2) := by
  have taken (g : Group) : groupEntries doc g = .ok (groupIn doc g) := by
    have mapping := grouped g
    unfold Group.entries at mapping
    unfold groupEntries
    cases found : Entries.get? doc (.text g.key) with
    | none =>
      rw [found] at mapping
      exact congrArg _ (Except.ok.inj mapping)
    | some v =>
      rw [found] at mapping
      cases v with
      | mapping entries => exact congrArg _ (Except.ok.inj mapping)
      | _ => contradiction
  have run (groups : List Group) (start : Settings × Log) :
      Ends (groups.foldlM (fun (acc : Settings × Log) g => do
        let after ← applyEntries g acc.1 (← groupEntries doc g)
        .ok (after.1, acc.2 ++ after.2)) start) (∃ g ∈ groups, ∃ e ∈ groupIn doc g, Stuck e.1 e.2) := by
    induction groups generalizing start with
    | nil => exact .inl ⟨⟨_, rfl⟩, by simp⟩
    | cons g rest ih =>
      have step : Ends (do
          let after ← applyEntries g start.1 (groupIn doc g)
          .ok (after.1, start.2 ++ after.2)) ((∃ e ∈ groupIn doc g, Stuck e.1 e.2) ∨ False) :=
        endsBind (applyEntriesEnds start.1 (groupIn doc g)) fun after => endsReturn _
      rw [or_false] at step
      rw [List.foldlM_cons, List.exists_mem_cons_iff]
      refine endsBind ?_ ih
      rw [taken]
      exact step
  have all (g : Group) : g ∈ Group.all := by cases g <;> decide
  have ends := run Group.all ({}, [])
  simp only [all, true_and] at ends
  exact ends

end Settings
end IndentLint
