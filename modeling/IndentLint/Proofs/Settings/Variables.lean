import IndentLint.Proofs.Settings.Judging
import IndentLint.Proofs.Settings.Precedence

/-! Settings from variables alone. A variable whose text gives no value leaves the default, with a warning, and so
does one that is not set. Only a whole number that is not above zero is taken at its word, and refused. -/
namespace IndentLint
open Document (Value Entries)
open Document.Entries (keys)

def Setting.numeric : List Setting := [.indentUnit, .tabWidth, .maxFileSize, .maxWorkers]

namespace Variables

variable (vars : Variables)

structure Sunken (setting : Setting) (n : Int) : Prop where
  numeric : setting ∈ Setting.numeric
  read : (vars.text? setting).bind (fun text => Text.Numeral.read? text.toList) = some n
  sunken : n ≤ 0

def accepted? (codecs : Codecs) (setting : Setting) : Option Value :=
  (vars.value? setting).filter fun v => setting.validate codecs v = .ok ()

variable {codecs : Codecs} {vars}

theorem numericValue {setting : Setting} (numeric : setting ∈ Setting.numeric) : vars.value? setting =
    ((vars.text? setting).bind fun text => Text.Numeral.read? text.toList).map Value.int := by
  have parse : setting.parse? = fun text => (Text.Numeral.read? text.toList).map Value.int := by
    simp only [Setting.numeric, List.mem_cons, List.not_mem_nil, or_false] at numeric
    rcases numeric with rfl | rfl | rfl | rfl <;> rfl
  rw [value?, parse, Option.map_bind]
  rfl

theorem numericJudged {setting : Setting} (numeric : setting ∈ Setting.numeric) (n : Int) :
    setting.validate codecs (.int n) = if 0 < n then .ok () else .error (.invalid setting) := by
  simp only [Setting.numeric, List.mem_cons, List.not_mem_nil, or_false] at numeric
  rcases numeric with rfl | rfl | rfl | rfl <;> simp [Setting.validate, Setting.isPositive]

theorem otherJudged {setting : Setting} (other : setting ∉ Setting.numeric) {v : Value}
    (given : vars.value? setting = some v) : setting.validate codecs v = .ok () := by
  obtain ⟨text, -, parsed⟩ := Option.bind_eq_some_iff.mp given
  cases setting with
  | enabled | includePatterns | excludeDirs =>
    cases parsed
    rfl
  | outputFormat =>
    obtain ⟨listed, same⟩ := Option.ite_none_right_eq_some.mp parsed
    cases same
    simpa [Setting.validate, Value.text?] using listed
  | indentUnit | tabWidth | maxFileSize | maxWorkers => exact absurd (by decide) other
  | _ => contradiction

theorem variableJudged {setting : Setting} {v : Value} (given : vars.value? setting = some v) :
    setting.validate codecs v = .ok () ∧ (∀ n, ¬ vars.Sunken setting n) ∨
      setting.validate codecs v = .error (.invalid setting) ∧ ∃ n, vars.Sunken setting n := by
  by_cases numeric : setting ∈ Setting.numeric
  · rw [numericValue numeric] at given
    obtain ⟨n, read, rfl⟩ := Option.map_eq_some_iff.mp given
    rw [numericJudged numeric]
    by_cases above : 0 < n
    · refine .inl ⟨if_pos above, fun m sunken => ?_⟩
      obtain rfl := Option.some.inj (read.symm.trans sunken.read)
      exact absurd above (Int.not_lt.mpr sunken.sunken)
    · exact .inr ⟨if_neg above, n, numeric, read, Int.not_lt.mp above⟩
  · exact .inl ⟨otherJudged numeric given, fun n sunken => numeric sunken.numeric⟩

theorem sunkenValue {setting : Setting} {n : Int} (sunken : vars.Sunken setting n) :
    vars.value? setting = some (.int n) := by
  rw [numericValue sunken.numeric, sunken.read]
  rfl

theorem acceptedValue {setting : Setting} (free : ∀ n, ¬ vars.Sunken setting n) :
    vars.accepted? codecs setting = vars.value? setting := by
  unfold accepted?
  cases given : vars.value? setting with
  | none => rfl
  | some v =>
    rcases variableJudged given with ⟨valid, -⟩ | ⟨-, n, sunken⟩
    · exact Option.filter_some_pos (decide_eq_true valid)
    · exact absurd sunken (free n)

end Variables

namespace Settings

section
variable {codecs : Codecs} (vars : Variables)

theorem variablesAlone : settled [] vars = vars.entries := by
  have distinct : (keys vars.entries).Nodup := by
    rw [Variables.entriesForGroups]
    exact entriesForDistinct (fun _ _ => groupKeyInjective) (by decide)
  rw [settled, Document.mergeEntries]
  exact Document.mergeFresh distinct

theorem variableGroup (g : Group) : groupIn vars.entries g = vars.groupEntries g ∧
    g.entries vars.entries = .ok (vars.groupEntries g) := by
  unfold groupIn Group.entries
  rw [vars.getGroup, Variables.groupValue?]
  cases given : vars.groupEntries g <;> exact ⟨rfl, rfl⟩

theorem variableGrouped : Grouped vars.entries := by
  intro g
  rw [(variableGroup vars g).1, (variableGroup vars g).2]

theorem variableIn (setting : Setting) : valueIn? vars.entries setting = vars.value? setting := by
  rw [← variablesAlone, settledValue Document.emptyDistinct]
  exact Option.or_none

theorem variableUnstuck : ¬ ∃ g, ∃ e ∈ groupIn vars.entries g, Stuck e.1 e.2 := by
  intro ⟨g, e, member, stuck⟩
  rw [(variableGroup vars g).1] at member
  obtain ⟨setting, -, named⟩ := memEntriesFor (List.mem_map_of_mem (f := Prod.fst) member)
  exact settingFree setting e.2 (named ▸ stuck)

theorem judgeRefused {setting : Setting} {fault : SettingFault}
    (refused : judge codecs vars.entries setting = .error fault) :
    fault = .invalid setting ∧ ∃ n, vars.Sunken setting n := by
  rw [judge, variableIn] at refused
  cases given : vars.value? setting with
  | none =>
    rw [given] at refused
    contradiction
  | some v =>
    rw [given] at refused
    rcases Variables.variableJudged given with ⟨valid, -⟩ | ⟨invalid, sunken⟩
    · cases valid.symm.trans refused
    · cases invalid.symm.trans refused
      exact ⟨rfl, sunken⟩

theorem variablesSettle (codecs : Codecs) :
    (∃ result, settle codecs vars.entries true = .ok result) ∧ (∀ setting n, ¬ vars.Sunken setting n) ∨
      ∃ setting n, vars.Sunken setting n ∧
        settle codecs vars.entries true = .error (.setting (.invalid setting)) := by
  cases judged : validateDocument vars.entries codecs with
  | ok =>
    refine .inl ⟨?_, fun setting n sunken => ?_⟩
    · rcases applyDocumentEnds (variableGrouped vars) with ⟨⟨result, applied⟩, -⟩ | ⟨-, stuck⟩
      · exact ⟨result, bindOk.mpr ⟨(), mapErrorOk.mpr judged, applied⟩⟩
      · exact absurd stuck (variableUnstuck vars)
    · have given := Variables.sunkenValue sunken
      have valid := judgedValue judged ((variableIn vars setting).trans given)
      rcases Variables.variableJudged given with ⟨-, free⟩ | ⟨refused, -⟩
      · exact free n sunken
      · cases valid.symm.trans refused
  | error fault =>
    have stopped : settle codecs vars.entries true = .error (.setting fault) := by
      rw [settle, if_pos rfl, judged]
      rfl
    rw [judgedInOrder (variableGrouped vars)] at judged
    obtain ⟨-, setting, -, -, -, refused⟩ := forMError.mp judged
    obtain ⟨rfl, n, sunken⟩ := judgeRefused vars refused
    exact .inr ⟨setting, n, sunken, stopped⟩

end

structure FromVariables (host : Host) : Prop where
  returns : (∃ s, (load host none true true).2 = .ok s) ↔ ∀ setting n, ¬ host.environment.Sunken setting n
  /- A variable without a value that its setting accepts leaves the default. -/
  values : ∀ s, (load host none true true).2 = .ok s → ∀ setting,
    s.get setting = .ok ((host.environment.accepted? host.platform.codecs setting).getD setting.default)
  refuses : ∀ fault, (load host none true true).2 = .error fault → ∃ setting n,
    host.environment.Sunken setting n ∧ fault = .setting (.invalid setting)
  warns : ∀ setting name text, setting.variableName? = some name → host.environment.text? setting = some text →
    setting.parse? text = none →
    ⟨.warning, .settings, "Invalid " ++ name ++ " value, using default"⟩ ∈ (load host none true true).1

section
variable {host : Host} (fileless : findFile? host.disk [] = none)
include fileless

theorem variablesLogged {record : LogRecord} (logged : record ∈ host.environment.log) :
    record ∈ (load host none true true).1 := by
  unfold load chooseFile
  simp only [fileless]
  generalize settle _ _ true = settles
  cases settles with
  | error fault => simpa using logged
  | ok result => simp [logged]

theorem variableWarned {setting : Setting} {name text : String} (named : setting.variableName? = some name)
    (said : host.environment.text? setting = some text) (unread : setting.parse? text = none) :
    ⟨.warning, .settings, "Invalid " ++ name ++ " value, using default"⟩ ∈ (load host none true true).1 := by
  have listed : setting ∈ Setting.withVariable := by cases setting <;> first | decide | contradiction
  refine variablesLogged fileless (List.mem_filterMap.mpr ⟨setting, listed, ?_⟩)
  simp [Variables.warning?, said, named, unread]

theorem unreadableVariablesIgnored : FromVariables host := by
  have content : fileEntries host.platform host.disk none = .ok [] := by
    unfold fileEntries chooseFile
    rw [fileless]
  have ended : (load host none true true).2 =
      (settle host.platform.codecs host.environment.entries true).map Prod.fst := by
    rw [loadSettled content, show varsUsed host true = host.environment from rfl, variablesAlone]
  rcases variablesSettle host.environment host.platform.codecs with ⟨⟨result, settles⟩, free⟩ | ⟨setting, n, sunken, refused⟩
  · have loaded : (load host none true true).2 = .ok result.1 := by
      rw [ended, settles]
      rfl
    refine ⟨⟨fun _ => free, fun _ => ⟨_, loaded⟩⟩, fun s returned setting => ?_, fun fault stopped => ?_,
      fun _ _ _ => variableWarned fileless⟩
    · rw [loadValues content (Prod.ext rfl returned) Document.emptyDistinct List.not_mem_nil,
        Variables.acceptedValue (free setting)]
      exact congrArg (fun v => Except.ok (Option.getD v _)) Option.or_none
    · cases loaded.symm.trans stopped
  · have stopped : (load host none true true).2 = .error (.setting (.invalid setting)) := by
      rw [ended, refused]
      rfl
    refine ⟨⟨fun ⟨s, returned⟩ => ?_, fun free => absurd sunken (free setting n)⟩, fun s returned => ?_,
      fun fault same => ⟨setting, n, sunken, ?_⟩, fun _ _ _ => variableWarned fileless⟩
    · cases stopped.symm.trans returned
    · cases stopped.symm.trans returned
    · cases stopped.symm.trans same
      rfl

end

def misspelt : Host :=
  { disk := { top := .dir [], current := [], home := [] }
    environment :=
      [("INDENTGUARD_TAB_WIDTH", "wide"), ("INDENTGUARD_OUTPUT_FORMAT", "xml"),
        ("INDENTGUARD_INDENT_UNIT", " +2_0 ")] }

theorem misspeltVariablesIgnored : findFile? misspelt.disk [] = none ∧ FromVariables misspelt :=
  have fileless : findFile? misspelt.disk [] = none := by decide
  ⟨fileless, unreadableVariablesIgnored fileless⟩

def narrowed : Host :=
  { disk := { top := .dir [], current := [], home := [] }
    environment := [("INDENTGUARD_TAB_WIDTH", "0")] }

theorem sunkenVariableRefused : findFile? narrowed.disk [] = none ∧
    (load narrowed none true true).2 = .error (.setting (.invalid .tabWidth)) :=
  ⟨by decide, rfl⟩

end Settings
end IndentLint
