import IndentLint.CommandLine.Run
import IndentLint.Proofs.Document.Building
import IndentLint.Proofs.Settings.Applied

/-! Where settings come from. The arguments count before the variables, these before the file, and the file
before the defaults; keys and groups that no setting has take no part. -/
namespace IndentLint
open Document (Value Entries Scalar)
open Document.Entries (forms keys Once)

section
variable {α : Type} {name : α → String} {of : α → Option Value} {xs : List α}

def entriesFor (name : α → String) (of : α → Option Value) (xs : List α) : Entries :=
  xs.filterMap fun x => (of x).map fun v => (.text (name x), v)

theorem memEntriesFor {key : Scalar} (member : key ∈ forms (entriesFor name of xs)) :
    ∃ x ∈ xs, key = .text (name x) := by
  obtain ⟨e, listed, rfl⟩ := List.mem_map.mp member
  obtain ⟨x, inside, given⟩ := List.mem_filterMap.mp listed
  obtain ⟨v, -, rfl⟩ := Option.map_eq_some_iff.mp given
  exact ⟨x, inside, rfl⟩

variable (injective : ∀ x y, name x = name y → x = y)
include injective

theorem getEntriesFor [DecidableEq α] (x : α) (xs : List α) :
    Entries.get? (entriesFor name of xs) (.text (name x)) = if x ∈ xs then of x else none := by
  induction xs with
  | nil => rfl
  | cons y rest ih =>
    unfold entriesFor at ih ⊢
    rw [List.filterMap_cons]
    by_cases same : x = y
    · subst same
      cases given : of x with
      | none => simp [ih, given]
      | some v => simp [Document.Entries.getCons]
    · have apart : name y ≠ name x := fun equal => same (injective x y equal.symm)
      cases of y with
      | none => simp [ih, same]
      | some v => simp [Document.Entries.getCons, Document.keyText, apart, ih, same]

theorem entriesForDistinct (distinct : xs.Nodup) : (keys (entriesFor name of xs)).Nodup := by
  induction xs with
  | nil => exact List.nodup_nil
  | cons y rest ih =>
    obtain ⟨absent, distinct⟩ := List.nodup_cons.mp distinct
    unfold entriesFor at ih ⊢
    rw [List.filterMap_cons]
    cases of y with
    | none => exact ih distinct
    | some v =>
      refine List.nodup_cons.mpr ⟨fun member => ?_, ih distinct⟩
      obtain ⟨x, inside, same⟩ := memEntriesFor (Document.Entries.memKeysText.mp member)
      rw [injective y x (Scalar.text.inj same)] at absent
      exact absent inside

end

namespace Variables

variable (vars : Variables)

theorem groupEntriesFor (g : Group) : vars.groupEntries g =
    entriesFor Setting.key vars.value? (Setting.withVariable.filter (·.group = g)) := rfl

def groupValue? (g : Group) : Option Value :=
  if (vars.groupEntries g).isEmpty then none else some (.mapping (vars.groupEntries g))

theorem entriesForGroups : vars.entries = entriesFor Group.key vars.groupValue? Group.all := by
  refine List.filterMap_congr fun g _ => ?_
  unfold groupValue?
  split <;> simp_all

theorem getGroup (g : Group) : Entries.get? vars.entries (.text g.key) = vars.groupValue? g := by
  rw [entriesForGroups, getEntriesFor fun _ _ => groupKeyInjective, if_pos]
  cases g <;> decide

theorem onceGroup (g : Group) : Once vars.entries (.text g.key) := by
  rw [entriesForGroups]
  exact Document.Entries.onceNodup (entriesForDistinct (fun _ _ => groupKeyInjective) (by decide)) _

theorem valueListed {setting : Setting} {v : Value} (given : vars.value? setting = some v) :
    setting ∈ Setting.withVariable := by
  cases setting <;> first | decide | contradiction

theorem getValue (setting : Setting) :
    Entries.get? (vars.groupEntries setting.group) (.text setting.key) = vars.value? setting := by
  rw [groupEntriesFor, getEntriesFor fun _ _ => settingKeyInjective]
  cases given : vars.value? setting with
  | none => simp
  | some v => simp [valueListed vars given]

theorem valuesDistinct (g : Group) : (keys (vars.groupEntries g)).Nodup := by
  rw [groupEntriesFor]
  exact entriesForDistinct (fun _ _ => settingKeyInjective) (by cases g <;> decide)

theorem valueReplaces {setting : Setting} {v : Value} (given : vars.value? setting = some v) (old : Value) :
    Document.mergeValue old v = v := by
  obtain ⟨text, -, parsed⟩ := Option.bind_eq_some_iff.mp given
  have flat : ∀ entries, v ≠ .mapping entries := by
    rintro entries rfl
    unfold Setting.parse? at parsed
    repeat' split at parsed
    all_goals simp [Setting.parts, Value.int] at parsed
  unfold Document.mergeValue
  split
  · exact absurd rfl (flat _)
  · rfl

end Variables

/- What holds of any library for YAML whose mappings hold a key once. -/
structure Platform.Lawful (p : Platform) : Prop where
  distinct : ∀ {bytes v}, p.readYaml bytes = .ok v → Document.Distinct v

theorem usualLawful : Platform.usual.Lawful := ⟨Document.Yaml.readDistinct⟩

namespace Settings

/-! ### The file and the variables together -/

def settled (entries : Entries) (vars : Variables) : Entries :=
  Document.mergeEntries (Document.mergeEntries [] entries) vars.entries

section
variable {entries : Entries} (distinct : Document.Distinct (.mapping entries)) (vars : Variables)
include distinct

theorem distinctGroups : GroupsOnce entries := by
  cases distinct with
  | mapping once inside =>
    intro g key
    unfold groupIn
    cases found : Entries.get? entries (.text g.key) with
    | none => exact Nat.zero_le 1
    | some v =>
      have below := inside _ (Document.Entries.getText found)
      cases below with
      | mapping once _ => exact once key
      | _ => exact Nat.zero_le 1

theorem settledGroup (g : Group) :
    groupIn (settled entries vars) g = Document.mergeEntries (groupIn entries g) (vars.groupEntries g) := by
  cases distinct with
  | mapping once inside =>
    have alone : Document.mergeEntries [] (vars.groupEntries g) = vars.groupEntries g :=
      Document.mergeFresh (vars.valuesDistinct g)
    have overNothing (v : Option Value) : Document.overlay none v = v := by cases v <;> rfl
    unfold groupIn settled
    rw [Document.mergeGet _ (vars.onceGroup g), Document.mergeGet [] (once g.key), vars.getGroup,
      Variables.groupValue?, show Entries.get? [] (.text g.key) = none from rfl, overNothing]
    split
    · rename_i silent
      rw [List.isEmpty_iff.mp silent, Document.mergeEntries]
      rfl
    · cases Entries.get? entries (.text g.key) with
      | none => exact alone.symm
      | some v =>
        -- What is no mapping is replaced.
        cases v <;> simp [Document.overlay, Document.mergeValue, Value.entries?, alone]

theorem settledValue (setting : Setting) : valueIn? (settled entries vars) setting =
    (vars.value? setting).or (valueIn? entries setting) := by
  have once := Document.Entries.onceNodup (vars.valuesDistinct setting.group) (.text setting.key)
  rw [valueIn?, settledGroup distinct, Document.mergeGet _ once, vars.getValue, valueIn?]
  cases given : vars.value? setting with
  | none => rfl
  | some v =>
    cases Entries.get? (groupIn entries setting.group) (.text setting.key) with
    | none => rfl
    | some old => exact congrArg some (vars.valueReplaces given old)

theorem settledOnce : GroupsOnce (settled entries vars) := by
  intro g key
  rw [settledGroup distinct]
  exact Document.mergeOnce (distinctGroups distinct g key) _

theorem settledUnreplaced {g : Group} (unreplaced : .text replacingKey ∉ forms (groupIn entries g)) :
    .text replacingKey ∉ forms (groupIn (settled entries vars) g) := by
  rw [settledGroup distinct, ← Document.Entries.memKeysText, Document.mergeKeys, Document.Entries.memKeysText,
    Document.Entries.memKeysText]
  rintro (held | given)
  · exact unreplaced held
  · have different (setting : Setting) : setting.key ≠ replacingKey := by cases setting <;> decide
    obtain ⟨setting, -, same⟩ := memEntriesFor (Variables.groupEntriesFor vars g ▸ given)
    exact different setting (Document.Scalar.text.inj same).symm

end

/-! ### Loading -/

def fileEntries (platform : Platform) (d : Storage.Disk) (path : Option String) : Except LoadFault Entries :=
  match (chooseFile d path).1 with
  | some file => loadFile platform d file
  | none => .ok []

theorem loadFileDistinct {platform : Platform} (lawful : platform.Lawful) {d : Storage.Disk} {path : String}
    {entries : Entries} (ran : loadFile platform d path = .ok entries) :
    Document.Distinct (.mapping entries) := by
  unfold loadFile at ran
  dsimp only at ran
  split at ran
  · contradiction
  obtain ⟨bytes, -, ran⟩ := bindOk.mp ran
  obtain ⟨v, parsed, ran⟩ := bindOk.mp ran
  suffices distinct : Document.Distinct v by
    split at ran
    · cases ran
      exact distinct
    · contradiction
  unfold parseFile at parsed
  split at parsed
  · obtain ⟨w, read, same⟩ := bindOk.mp parsed
    have distinct := lawful.distinct (mapErrorOk.mp read)
    cases same
    split
    · exact Document.emptyDistinct
    · exact distinct
  · obtain ⟨text, -, read⟩ := bindOk.mp parsed
    exact Document.Json.readDistinct (mapErrorOk.mp read)

theorem fileDistinct {platform : Platform} (lawful : platform.Lawful) {d : Storage.Disk}
    {path : Option String} {entries : Entries} (content : fileEntries platform d path = .ok entries) :
    Document.Distinct (.mapping entries) := by
  unfold fileEntries at content
  split at content
  · exact loadFileDistinct lawful content
  · cases content
    exact Document.emptyDistinct

def varsUsed (host : Host) (useVariables : Bool) : Variables := if useVariables then host.environment else []

theorem loadRuns (host : Host) (path : Option String) (useVariables check : Bool) :
    (load host path useVariables check).2 = fileEntries host.platform host.disk path >>= fun entries =>
      (settle host.platform.codecs (settled entries (varsUsed host useVariables)) check).map Prod.fst := by
  have used : (varsUsed host useVariables).entries = if useVariables then host.environment.entries else [] := by
    cases useVariables <;> rfl
  unfold load fileEntries settled
  rw [used]
  cases chosen : (chooseFile host.disk path).1 with
  | none =>
    simp only [chosen]
    change _ = (settle _ _ check).map Prod.fst
    generalize settle _ _ check = settles
    cases settles <;> rfl
  | some file =>
    simp only [chosen]
    cases loadFile host.platform host.disk file with
    | error fault => rfl
    | ok entries =>
      change _ = (settle _ _ check).map Prod.fst
      dsimp only
      generalize settle _ _ check = settles
      cases settles <;> rfl

theorem loadSettled {host : Host} {path : Option String} {entries : Entries}
    (content : fileEntries host.platform host.disk path = .ok entries) (useVariables check : Bool) :
    (load host path useVariables check).2 = (settle host.platform.codecs (settled entries (varsUsed host useVariables))
      check).map Prod.fst := by
  rw [loadRuns, content]
  rfl

theorem settleApplied {codecs : Codecs} {doc : Entries} {check : Bool} {result : Settings × Log}
    (settles : settle codecs doc check = .ok result) : applyDocument doc = .ok result := by
  cases check with
  | false => exact settles
  | true =>
    obtain ⟨_, -, applied⟩ := bindOk.mp settles
    exact applied

section
variable {host : Host} {path : Option String} {entries : Entries} {useVariables check : Bool} {log : Log}
  {s : Settings} (content : fileEntries host.platform host.disk path = .ok entries)
  (loaded : load host path useVariables check = (log, .ok s))
include content loaded

theorem loadSettles : ∃ more,
    settle host.platform.codecs (settled entries (varsUsed host useVariables)) check = .ok (s, more) := by
  have ended := (loadSettled content useVariables check).symm.trans (congrArg Prod.snd loaded)
  obtain ⟨⟨_, more⟩, settles, rfl⟩ := mapOk.mp ended
  exact ⟨more, settles⟩

theorem loadValues (distinct : Document.Distinct (.mapping entries)) {setting : Setting}
    (unreplaced : .text replacingKey ∉ forms (groupIn entries setting.group)) :
    s.get setting = .ok ((((varsUsed host useVariables).value? setting).or (valueIn? entries setting)).getD
      setting.default) := by
  obtain ⟨more, settles⟩ := loadSettles content loaded
  rw [applyDocumentValues (settleApplied settles) (settledOnce distinct _ _) (settledUnreplaced distinct _ unreplaced),
    settledValue distinct]

end

end Settings

namespace CommandLine

/-! ### The arguments over both -/

def Globals.said? (g : Globals) (r : CheckRequest) : Setting → Option Value
  | .indentUnit => r.unit.value?
  | .tabWidth => r.tabWidth.value?
  | .styledOutput => if g.plain then some (.bool false) else none
  | _ => none

theorem getSaid (s : Settings) (setting other : Setting) (said : Option Value) :
    (said.elim s (s.set setting)).get other =
      (if other = setting then said else none).elim (s.get other) .ok := by
  cases said with
  | none => simp
  | some v =>
    rw [Option.elim_some, Settings.getSet]
    split <;> rfl

theorem overrideValues (g : Globals) (r : CheckRequest) (s : Settings) (setting : Setting) :
    (g.override (.check r) s).get setting = (g.said? r setting).elim (s.get setting) .ok := by
  have plain (s : Settings) : (if g.plain then s.set .styledOutput (.bool false) else s) =
      (g.said? r .styledOutput).elim s (s.set .styledOutput) := by
    unfold Globals.said?
    split <;> rfl
  unfold Globals.override
  rw [plain, getSaid, getSaid, getSaid]
  cases setting <;> rfl

structure Precedence (host : Host) (g : Globals) (r : CheckRequest) (entries : Entries) (log : Log)
    (s : Settings) : Prop where
  effective : g.run host (.check r) = (r.run host g.verbose (g.override (.check r) s)).map fun ending =>
    { ending with errors := shown host g.verbose log ++ ending.errors }
  values : ∀ setting, (g.override (.check r) s).get setting = .ok ((((g.said? r setting).or
    (host.environment.value? setting)).or (Settings.valueIn? entries setting)).getD setting.default)
  /- What else the file holds makes no difference. -/
  others : ∀ {host' : Host} {entries' : Entries} {log' : Log} {s' : Settings},
    host'.platform.Lawful → host'.environment = host.environment →
    Settings.fileEntries host'.platform host'.disk g.settingsPath = .ok entries' →
    Settings.Unreplaced entries' →
    Settings.load host' g.settingsPath true true = (log', .ok s') →
    (∀ setting, Settings.valueIn? entries' setting = Settings.valueIn? entries setting) →
    ∀ setting, (g.override (.check r) s').get setting = (g.override (.check r) s).get setting

theorem effectiveValues {host : Host} {g : Globals} {entries : Entries} {log : Log} {s : Settings}
    (lawful : host.platform.Lawful)
    (content : Settings.fileEntries host.platform host.disk g.settingsPath = .ok entries)
    (unreplaced : Settings.Unreplaced entries)
    (loaded : Settings.load host g.settingsPath true true = (log, .ok s)) (r : CheckRequest)
    (setting : Setting) : (g.override (.check r) s).get setting = .ok ((((g.said? r setting).or
      (host.environment.value? setting)).or (Settings.valueIn? entries setting)).getD setting.default) := by
  rw [overrideValues, Settings.loadValues content loaded (Settings.fileDistinct lawful content)
    (unreplaced setting.group), Settings.varsUsed, if_pos rfl]
  cases g.said? r setting <;> rfl

theorem settingsByPrecedence {host : Host} {g : Globals} {entries : Entries} {log : Log} {s : Settings}
    (lawful : host.platform.Lawful)
    (content : Settings.fileEntries host.platform host.disk g.settingsPath = .ok entries)
    (unreplaced : Settings.Unreplaced entries)
    (loaded : Settings.load host g.settingsPath true true = (log, .ok s)) (r : CheckRequest) :
    Precedence host g r entries log s := by
  refine ⟨?_, effectiveValues lawful content unreplaced loaded r, ?_⟩
  · unfold Globals.run
    rw [if_pos (show (Command.check r).needsSettings = true from rfl), loaded]
    rfl
  · intro host' entries' log' s' lawful' alike content' unreplaced' loaded' same setting
    rw [effectiveValues lawful content unreplaced loaded,
      effectiveValues lawful' content' unreplaced' loaded', alike, same]

def layered : Host :=
  { disk :=
      { top := .dir [("c.json", .file (utf8Bytes
          "\x7b\"analysis\": \x7b\"tab_width\": 2, \"color\": 9\x7d, \"paint\": \x7b\x7d\x7d"))]
        current := [], home := [] }
    environment := [("INDENTGUARD_MAX_WORKERS", "3")] }

theorem layeredByPrecedence : ∃ entries log s,
    Settings.fileEntries layered.platform layered.disk (some "c.json") = .ok entries ∧
    Settings.load layered (some "c.json") true true = (log, .ok s) ∧
    Precedence layered { settingsPath := some "c.json" } { unit := .number 8 } entries log s := by
  obtain ⟨entries, content, plain⟩ : ∃ entries,
      Settings.fileEntries layered.platform layered.disk (some "c.json") = .ok entries ∧
      (Group.all.all fun g => .text replacingKey ∉ forms (Settings.groupIn entries g)) = true :=
    okHolds (by decide +kernel)
  have unreplaced : Settings.Unreplaced entries := fun g =>
    of_decide_eq_true (List.all_eq_true.mp plain g (by cases g <;> decide))
  obtain ⟨s, loaded, -⟩ : ∃ s, (Settings.load layered (some "c.json") true true).2 = .ok s ∧ true = true :=
    okHolds (by decide +kernel)
  have loaded : Settings.load layered (some "c.json") true true =
    ((Settings.load layered (some "c.json") true true).1, .ok s) := Prod.ext rfl loaded
  exact ⟨entries, _, s, content, loaded, settingsByPrecedence usualLawful content unreplaced loaded _⟩

/- A group holds a value for the tab width, and beside it a key that no setting has. -/
def replacing : Host :=
  { disk :=
      { top := .dir [("c.json", .file (utf8Bytes
          "\x7b\"analysis\": \x7b\"tab_width\": 2, \"__dict__\": \x7b\"tab_width\": 7\x7d\x7d\x7d"))]
        current := [], home := [] } }

theorem unknownKeyReplacesItsGroup : ∃ entries log s,
    Settings.fileEntries replacing.platform replacing.disk (some "c.json") = .ok entries ∧
    (Settings.valueIn? entries .tabWidth).bind Value.int? = some 2 ∧
    Settings.load replacing (some "c.json") true true = (log, .ok s) ∧
    (s.get .tabWidth).toOption.bind Value.int? = some 7 := by
  obtain ⟨entries, content, given⟩ : ∃ entries,
      Settings.fileEntries replacing.platform replacing.disk (some "c.json") = .ok entries ∧
      decide ((Settings.valueIn? entries .tabWidth).bind Value.int? = some 2) = true :=
    okHolds (by decide +kernel)
  obtain ⟨s, loaded, got⟩ : ∃ s, (Settings.load replacing (some "c.json") true true).2 = .ok s ∧
      decide ((s.get .tabWidth).toOption.bind Value.int? = some 7) = true :=
    okHolds (by decide +kernel)
  exact ⟨entries, _, s, content, of_decide_eq_true given, Prod.ext rfl loaded, of_decide_eq_true got⟩

end CommandLine
end IndentLint
