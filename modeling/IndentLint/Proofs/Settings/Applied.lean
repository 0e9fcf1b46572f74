import IndentLint.Proofs.Document.Merging
import IndentLint.Proofs.Except
import IndentLint.Proofs.Settings.Validated
import IndentLint.Settings.Store

/-! Documents applied to the default settings. A setting gets the value that its group has under its key, and
whatever else the document holds changes nothing, unless a group is replaced as a whole. -/
namespace IndentLint
open Document (Value Entries)
open Document.Entries (forms Once)

theorem settingKeyInjective {a b : Setting} (same : a.key = b.key) : a = b := by
  cases a <;> cases b <;> first | rfl | (revert same; decide)

theorem groupKeyInjective {a b : Group} (same : a.key = b.key) : a = b := by
  cases a <;> cases b <;> first | rfl | (revert same; decide)

theorem settingGrouped {g : Group} : ∀ setting ∈ g.settings, setting.group = g := by cases g <;> decide

theorem settingNamed {g : Group} {key : String} {setting : Setting} :
    g.setting? key = some setting ↔ setting.group = g ∧ setting.key = key := by
  constructor
  · intro found
    exact ⟨settingGrouped setting (List.mem_of_find?_eq_some found), by simpa using List.find?_some found⟩
  · rintro ⟨rfl, rfl⟩
    cases found : setting.group.setting? setting.key with
    | none => simpa using List.find?_eq_none.mp found setting (groupHolds setting)
    | some other =>
      have same : other.key = setting.key := by simpa using List.find?_some found
      rw [settingKeyInjective same]

def replacingKey : String := "__dict__"

theorem replacingOnly {key : String} (reserved : Reserved.ofKey? key = some .contents) :
    key = replacingKey := by
  unfold Reserved.ofKey? at reserved
  repeat' split at reserved
  all_goals first | contradiction | assumption

namespace Settings

def groupIn (doc : Entries) (g : Group) : Entries :=
  ((Entries.get? doc (.text g.key)).bind Value.entries?).getD []

def valueIn? (doc : Entries) (setting : Setting) : Option Value :=
  Entries.get? (groupIn doc setting.group) (.text setting.key)

def Stepped (g : Group) (key : String) (v : Value) (s s' : Settings) : Prop :=
  ∀ setting, s'.get setting = if setting.group = g ∧ setting.key = key then .ok v else s.get setting

def Holds (s : Settings) (g : Group) : Prop := ∀ setting, setting.group = g → ∃ v, s.get setting = .ok v

section
variable {g : Group} {s s' : Settings}

/- Of the keys that no setting has, only the one excluded here changes a value. -/
theorem putUnnamed {key : String} {v : Value} (unnamed : g.setting? key = none) (ordinary : key ≠ replacingKey)
    (put : s.put? g key v = some (.ok s')) : s'.get = s.get := by
  unfold put? at put
  simp only [unnamed] at put
  cases reserved : Reserved.ofKey? key with
  | none =>
    simp only [reserved] at put
    split at put
    · cases put
      rfl
    · contradiction
  | some effect =>
    simp only [reserved] at put
    cases effect with
    | idle | outline =>
      cases put
      rfl
    | kind | weak => cases put
    | contents => exact absurd (replacingOnly reserved) ordinary

theorem putStepped {key : String} {v : Value} (ordinary : key ≠ replacingKey)
    (put : s.put? g key v = some (.ok s')) : Stepped g key v s s' := by
  intro other
  cases named : g.setting? key with
  | none =>
    have apart : ¬ (other.group = g ∧ other.key = key) := by
      intro both
      rw [settingNamed.mpr both] at named
      contradiction
    rw [if_neg apart, putUnnamed named ordinary put]
  | some setting =>
    simp only [put?, named] at put
    obtain ⟨-, same⟩ := Option.ite_none_left_eq_some.mp put
    cases same
    obtain ⟨rfl, rfl⟩ := settingNamed.mp named
    rw [getSet]
    by_cases same : other = setting
    · simp [same]
    · have apart : ¬ (other.group = setting.group ∧ other.key = setting.key) :=
        fun both => same (settingKeyInjective both.2)
      rw [if_neg same, if_neg apart]

theorem replacedElsewhere (s : Settings) (entries : Entries) {setting : Setting} (other : setting.group ≠ g) :
    (s.replaceGroup g entries).get setting = s.get setting := by
  have outside : setting ∉ g.settings := fun member => other (settingGrouped setting member)
  simp [get, replaceGroup, outside]

theorem putElsewhere {key : String} {v : Value} (put : s.put? g key v = some (.ok s')) {setting : Setting}
    (other : setting.group ≠ g) : s'.get setting = s.get setting := by
  by_cases ordinary : key = replacingKey
  · have unnamed : g.setting? replacingKey = none := by cases g <;> rfl
    have reserved : Reserved.ofKey? replacingKey = some .contents := rfl
    unfold put? at put
    simp only [ordinary, unnamed, reserved] at put
    cases v with
    | mapping entries =>
      cases put
      exact replacedElsewhere s entries other
    | _ => cases put
  · rw [putStepped ordinary put setting, if_neg fun both => other both.1]

theorem putUnknown {key : String} {v : Value} (holds : s.Holds g) (put : s.put? g key v = none) :
    Stepped g key v s s := by
  intro setting
  rw [if_neg]
  intro both
  obtain ⟨w, given⟩ := holds setting both.1
  have kept : setting ∉ s.missing := by
    intro lost
    simp [get, lost] at given
  simp [put?, settingNamed.mpr both, kept] at put

theorem steppedHolds {key : String} {v : Value} (stepped : Stepped g key v s s') (holds : s.Holds g) :
    s'.Holds g := by
  intro setting grouped
  rw [stepped]
  split
  · exact ⟨v, rfl⟩
  · exact holds setting grouped

theorem applyEntriesCons {k : Document.Scalar} {v : Value} {rest : Entries} {log : Log}
    (ran : applyEntries g s ((k, v) :: rest) = .ok (s', log)) :
    ∃ between more, ((∃ key, k = .text key ∧ (s.put? g key v = some (.ok between) ∨
        s.put? g key v = none ∧ between = s)) ∨ ((∃ points, k = .unpaired points) ∧ between = s)) ∧
      applyEntries g between rest = .ok (s', more) := by
  cases k with
  | text key =>
    unfold applyEntries at ran
    split at ran
    · rename_i result put
      obtain ⟨between, given, later⟩ := bindOk.mp ran
      rw [mapErrorOk.mp given] at put
      exact ⟨between, log, .inl ⟨key, rfl, .inl put⟩, later⟩
    · rename_i put
      obtain ⟨⟨after, more⟩, later, same⟩ := bindOk.mp ran
      cases same
      exact ⟨s, more, .inl ⟨key, rfl, .inr ⟨put, rfl⟩⟩, later⟩
  | unpaired points =>
    obtain ⟨⟨after, more⟩, later, same⟩ := bindOk.mp ran
    cases same
    exact ⟨s, more, .inr ⟨⟨points, rfl⟩, rfl⟩, later⟩
  | _ => contradiction

theorem applyElsewhere {entries : Entries} {log : Log} (ran : applyEntries g s entries = .ok (s', log))
    {setting : Setting} (other : setting.group ≠ g) : s'.get setting = s.get setting := by
  induction entries generalizing s log with
  | nil =>
    cases ran
    rfl
  | cons first rest ih =>
    obtain ⟨k, v⟩ := first
    obtain ⟨between, more, ⟨key, -, put | ⟨-, rfl⟩⟩ | ⟨-, rfl⟩, later⟩ := applyEntriesCons ran
    · rw [ih later, putElsewhere put other]
    · exact ih later
    · exact ih later

theorem applyEntriesValues {entries : Entries} {log : Log} (once : ∀ key, Once entries (.text key))
    (ordinary : .text replacingKey ∉ forms entries) (holds : s.Holds g)
    (ran : applyEntries g s entries = .ok (s', log)) {setting : Setting} (grouped : setting.group = g) :
    s'.get setting = (Entries.get? entries (.text setting.key)).elim (s.get setting) .ok := by
  induction entries generalizing s log with
  | nil =>
    cases ran
    rfl
  | cons first rest ih =>
    obtain ⟨k, v⟩ := first
    have onceLater (key : String) := Document.Entries.onceTail (once key)
    have ordinaryLater : .text replacingKey ∉ forms rest := fun member => ordinary (List.mem_cons_of_mem _ member)
    obtain ⟨between, more, ⟨key, rfl, put⟩ | ⟨⟨points, rfl⟩, rfl⟩, later⟩ := applyEntriesCons ran
    · have different : key ≠ replacingKey := by
        rintro rfl
        exact ordinary List.mem_cons_self
      -- Whether the key is known or not, the rest is applied to stepped settings.
      have stepped : Stepped g key v s between := by
        rcases put with known | ⟨unknown, rfl⟩
        · exact putStepped different known
        · exact putUnknown holds unknown
      rw [ih onceLater ordinaryLater (steppedHolds stepped holds) later, stepped, Document.Entries.getCons]
      by_cases named : key = setting.key
      · subst named
        have absent := Document.Entries.getNone.mpr (Document.Entries.onceHead (once setting.key))
        simp [grouped, absent]
      · simp [Document.keyText, named, Ne.symm named]
    · have other : (Document.Scalar.unpaired points).key ≠ (Document.Scalar.text setting.key).key := by
        simp [Document.keyText]
      rw [ih onceLater ordinaryLater holds later, Document.Entries.getCons, if_neg other]

end

def Unreplaced (doc : Entries) : Prop := ∀ g, .text replacingKey ∉ forms (groupIn doc g)

def GroupsOnce (doc : Entries) : Prop := ∀ g key, Once (groupIn doc g) (.text key)

theorem groupEntriesIn {doc entries : Entries} {g : Group} (taken : groupEntries doc g = .ok entries) :
    entries = groupIn doc g := by
  unfold groupEntries at taken
  unfold groupIn
  split at taken
  · rename_i absent
    cases taken
    rw [absent]
    rfl
  · rename_i found
    cases taken
    rw [found]
    rfl
  · rename_i v other found
    split at taken
    · cases taken
      rw [found]
      cases v <;> first | rfl | exact absurd rfl (other _)
    · contradiction

theorem applyGroupsValues {doc : Entries} {setting : Setting}
    (once : ∀ key, Once (groupIn doc setting.group) (.text key))
    (unreplaced : .text replacingKey ∉ forms (groupIn doc setting.group)) {groups : List Group}
    (distinct : groups.Nodup) {start after : Settings × Log} (holds : start.1.Holds setting.group)
    (ran : groups.foldlM (fun (acc : Settings × Log) g => do
      let (s, log) ← applyEntries g acc.1 (← groupEntries doc g)
      .ok (s, acc.2 ++ log)) start = (.ok after : Except LoadFault (Settings × Log))) :
    after.1.get setting = if setting.group ∈ groups then (valueIn? doc setting).elim (start.1.get setting) .ok
      else start.1.get setting := by
  induction groups generalizing start with
  | nil =>
    cases ran
    rfl
  | cons g rest ih =>
    obtain ⟨absent, apart⟩ := List.nodup_cons.mp distinct
    obtain ⟨between, step, later⟩ := bindOk.mp ran
    obtain ⟨entries, taken, step⟩ := bindOk.mp step
    obtain ⟨⟨s, log⟩, applied, same⟩ := bindOk.mp step
    cases same
    rw [groupEntriesIn taken] at applied
    by_cases grouped : setting.group = g
    · subst grouped
      have values {other : Setting} (alongside : other.group = setting.group) :=
        applyEntriesValues once unreplaced holds applied alongside
      have held : s.Holds setting.group := fun other alongside => by
        rw [values alongside]
        cases Entries.get? (groupIn doc setting.group) (.text other.key) with
        | none => exact holds other alongside
        | some v => exact ⟨v, rfl⟩
      rw [ih apart held later, if_neg absent, values rfl, if_pos List.mem_cons_self]
      rfl
    · have same {other : Setting} (alongside : other.group = setting.group) :
          s.get other = start.1.get other := applyElsewhere applied (alongside ▸ grouped)
      have held : s.Holds setting.group := fun other alongside => by
        rw [same alongside]
        exact holds other alongside
      have inside : setting.group ∈ g :: rest ↔ setting.group ∈ rest := by simp [grouped]
      rw [ih apart held later, same rfl]
      simp only [inside]

theorem applyDocumentValues {doc : Entries} {s : Settings} {log : Log}
    (ran : applyDocument doc = .ok (s, log)) {setting : Setting}
    (once : ∀ key, Once (groupIn doc setting.group) (.text key))
    (unreplaced : .text replacingKey ∉ forms (groupIn doc setting.group)) :
    s.get setting = .ok ((valueIn? doc setting).getD setting.default) := by
  have listed : setting.group ∈ Group.all := by cases setting <;> decide
  have values := applyGroupsValues once unreplaced (by decide) (fun other _ => ⟨other.default, rfl⟩) ran
  rw [values, if_pos listed]
  cases valueIn? doc setting <;> rfl

/-! ### Judged documents -/

theorem judgedGroup {doc entries : Entries} {g : Group} (taken : g.entries doc = .ok entries) :
    entries = groupIn doc g := by
  unfold Group.entries at taken
  unfold groupIn
  split at taken
  · rename_i absent
    cases taken
    rw [absent]
    rfl
  · rename_i found
    cases taken
    rw [found]
    rfl
  · contradiction

theorem judgedValue {codecs : Codecs} {doc : Entries} (judged : validateDocument doc codecs = .ok ())
    {setting : Setting} {v : Value} (given : valueIn? doc setting = some v) : setting.validate codecs v = .ok () := by
  have listed : setting.group ∈ Group.all := by cases setting <;> decide
  obtain ⟨_, -, judged⟩ := bindOk.mp judged
  obtain ⟨entries, taken, judged⟩ := bindOk.mp (forMOk judged listed)
  have checked := forMOk judged (validationOrderHolds setting)
  rwa [judgedGroup taken, show Entries.get? (groupIn doc setting.group) (.text setting.key) = some v from
    given] at checked

theorem defaultJudged {codecs : Codecs} {setting : Setting}
    (known : setting = .encoding → ∃ codec, codecs.find "utf-8" = .ok codec) :
    setting.validate codecs setting.default = .ok () := by
  cases setting with
  | encoding =>
    obtain ⟨codec, found⟩ := known rfl
    simp [Setting.validate, Setting.default, found, bind, Except.bind, Except.mapError]
  | _ => rfl

end Settings
end IndentLint
