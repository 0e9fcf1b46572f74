import IndentLint.Proofs.Check.Carrying
import IndentLint.Proofs.Settings.Precedence

/-! Settings that a check can start from. What was loaded and judged is what every check is run with, so that
none is refused, as long as no group of the file is replaced behind the judgment. -/
namespace IndentLint
open Document (Value Entries)
open Document.Entries (forms)

namespace Settings

def HasJudged (codecs : Codecs) (s : Settings) (setting : Setting) : Prop :=
  ∃ v, s.get setting = .ok v ∧ setting.validate codecs v = .ok ()

theorem loadJudged {host : Host} (lawful : host.platform.Lawful) {path : Option String} {entries : Entries}
    {useVariables : Bool} {log : Log} {s : Settings}
    (content : fileEntries host.platform host.disk path = .ok entries)
    (loaded : load host path useVariables true = (log, .ok s)) {setting : Setting}
    (unreplaced : .text replacingKey ∉ forms (groupIn entries setting.group))
    (known : setting = .encoding → ∃ codec, host.platform.codecs.find "utf-8" = .ok codec) :
    HasJudged host.platform.codecs s setting := by
  have distinct := fileDistinct lawful content
  refine ⟨_, loadValues content loaded distinct unreplaced, ?_⟩
  rw [← settledValue distinct]
  cases given : valueIn? (settled entries (varsUsed host useVariables)) setting with
  | none => exact defaultJudged known
  | some v =>
    obtain ⟨more, settles⟩ := loadSettles content loaded
    obtain ⟨_, judged, -⟩ := bindOk.mp settles
    exact judgedValue (mapErrorOk.mp judged) given

end Settings

namespace CommandLine
open Check (Plan checkText)

inductive Said.IsPositive : Said → Prop where
  | nothing : IsPositive .nothing
  | number {n : Int} (above : 0 < n) : IsPositive (.number n)

structure Ready (room : Nat) (s : Settings) : Prop where
  unit : s.get .indentUnit = .ok .null ∨ ∃ n : Int, 0 < n ∧ s.get .indentUnit = .ok (.int n)
  tabWidth : ∃ n : Int, 0 < n ∧ s.get .tabWidth = .ok (.int n)
  checks : ∃ plan, Plan.ofSettings s room = .ok plan ∧ ∀ (name : Option String) (text : List Char),
    (∃ file, checkText s name text room = .ok file) ↔ plan.Carries (Text.lines text)
  /- With a tab that can be stored these are all texts whose widths are short enough to be shown. -/
  returns : ∀ tab unit : Nat, s.get .tabWidth = .ok (.int tab) → tab ≤ Source.maxCount → tab ≤ room →
    (∀ n : Nat, s.get .indentUnit = .ok (.int n) → n ≤ unit) → ∀ (name : Option String) (text : List Char),
    Text.Numeral.isShowable (Plan.widest tab unit text) = true → ∃ file, checkText s name text room = .ok file

section
variable {codecs : Codecs} {s : Settings}

theorem judgedTab (judged : s.HasJudged codecs .tabWidth) : ∃ n : Int, 0 < n ∧ s.get .tabWidth = .ok (.int n) := by
  obtain ⟨v, got, valid⟩ := judged
  have positive : Setting.isPositive v = true := by simpa [Setting.validate] using valid
  obtain ⟨n, above, rfl⟩ := Check.isPositiveInt positive
  exact ⟨n, above, got⟩

theorem judgedReady (room : Nat) (units : s.HasJudged codecs .indentUnit)
    (tabs : s.HasJudged codecs .tabWidth) (enables : s.HasJudged codecs .enabled) : Ready room s := by
  obtain ⟨unit, gotUnit, judged⟩ := units
  obtain ⟨tab, wide, gotTab⟩ := judgedTab tabs
  obtain ⟨enabled, gotEnabled, -⟩ := enables
  obtain ⟨plan, accepted, ⟨sameTab, sameRoom⟩, sameUnit⟩ := Check.planAccepted judged wide enabled room
  have planned : Plan.ofSettings s room = .ok plan := by
    simp only [Plan.ofSettings, gotUnit, gotTab, gotEnabled, Except.mapError, bind, Except.bind]
    exact accepted
  refine ⟨?_, ⟨tab, wide, gotTab⟩, ⟨plan, planned, Check.checkTextCarried planned⟩, ?_⟩
  · rcases Check.judgedUnit judged with rfl | ⟨n, above, rfl⟩
    · exact .inl gotUnit
    · exact .inr ⟨n, above, gotUnit⟩
  · intro columns most same counted stored small name text shown
    obtain rfl : tab = columns := by simpa using gotTab.symm.trans same
    have roomy : plan.Roomy columns most := by
      refine ⟨Int.ofNat_lt.mp wide, counted, sameRoom ▸ stored, sameTab, fun q member => ?_⟩
      obtain ⟨n, above, rfl, rfl⟩ := sameUnit q member
      obtain ⟨n, rfl⟩ := Int.eq_ofNat_of_zero_le (Int.le_of_lt above)
      exact ⟨n, Int.ofNat_lt.mp above, small n gotUnit, rfl⟩
    exact (Check.checkTextCarried planned name text).mpr (Plan.roomyCarries roomy shown)

end

theorem positiveSaid {said : Said} (positive : said.IsPositive) {v : Value} (given : said.value? = some v) :
    Setting.isPositive v = true := by
  cases positive with
  | nothing => contradiction
  | number above =>
    cases given
    exact decide_eq_true above

section
variable {codecs : Codecs} {s : Settings} {r : CheckRequest} (unit : r.unit.IsPositive) (tab : r.tabWidth.IsPositive) (g : Globals)
include unit tab

theorem overriddenJudged {setting : Setting} (inside : setting.group = .analysis)
    (judged : s.HasJudged codecs setting) : (g.override (.check r) s).HasJudged codecs setting := by
  have said (v : Value) (given : g.said? r setting = some v) : setting.validate codecs v = .ok () := by
    cases setting with
    | indentUnit =>
      obtain ⟨n, above, rfl⟩ := Check.isPositiveInt (positiveSaid unit given)
      simp [Setting.validate, Setting.isPositive, above]
    | tabWidth => simp [Setting.validate, positiveSaid tab given]
    | _ => contradiction
  rw [Settings.HasJudged, overrideValues]
  cases given : g.said? r setting with
  | none => exact judged
  | some v => exact ⟨v, rfl, said v given⟩

end

/- Loaded with judgment, and with arguments above zero: a check can start, unless the group of its settings
is replaced in the file. -/
theorem loadedReady {host : Host} (lawful : host.platform.Lawful) {path : Option String} {entries : Entries}
    {useVariables : Bool} {log : Log} {s : Settings}
    (content : Settings.fileEntries host.platform host.disk path = .ok entries)
    (unreplaced : .text replacingKey ∉ forms (Settings.groupIn entries .analysis))
    (loaded : Settings.load host path useVariables true = (log, .ok s)) {r : CheckRequest}
    (unit : r.unit.IsPositive) (tab : r.tabWidth.IsPositive) (g : Globals) :
    Ready host.platform.room (g.override (.check r) s) := by
  have judged {setting : Setting} (inside : setting.group = .analysis) :
      (g.override (.check r) s).HasJudged host.platform.codecs setting := by
    refine overriddenJudged unit tab g inside (Settings.loadJudged lawful content loaded (inside ▸ unreplaced) ?_)
    rintro rfl
    contradiction
  exact judgedReady _ (judged rfl) (judged rfl) (judged rfl)

def furnished : Host :=
  { disk :=
      { top := .dir [("c.json", .file (utf8Bytes
          "\x7b\"analysis\": \x7b\"tab_width\": 2, \"enabled\": false\x7d, \"logging\": 7\x7d"))]
        current := [], home := [] }
    environment := [("INDENTGUARD_INDENT_UNIT", "3")] }

theorem furnishedReady : ∃ entries log s,
    Settings.fileEntries furnished.platform furnished.disk (some "c.json") = .ok entries ∧
    Settings.load furnished (some "c.json") true true = (log, .ok s) ∧
    Ready furnished.platform.room (Globals.override {} (.check { tabWidth := .number 8 }) s) := by
  obtain ⟨entries, content, plain⟩ : ∃ entries,
      Settings.fileEntries furnished.platform furnished.disk (some "c.json") = .ok entries ∧
      decide (.text replacingKey ∉ forms (Settings.groupIn entries .analysis)) = true :=
    okHolds (by decide +kernel)
  obtain ⟨s, loaded, -⟩ : ∃ s, (Settings.load furnished (some "c.json") true true).2 = .ok s ∧ true = true :=
    okHolds (by decide +kernel)
  have loaded : Settings.load furnished (some "c.json") true true =
    ((Settings.load furnished (some "c.json") true true).1, .ok s) := Prod.ext rfl loaded
  exact ⟨entries, _, s, content, loaded,
    loadedReady usualLawful content (of_decide_eq_true plain) loaded .nothing (.number (by decide)) {}⟩

def tabless : Host :=
  { disk :=
      { top := .dir [("c.json", .file (utf8Bytes
          "\x7b\"analysis\": \x7b\"__dict__\": \x7b\"tab_width\": 0\x7d\x7d\x7d"))]
        current := [], home := [] } }

theorem judgedButRefused : ∃ log s,
    Settings.load tabless (some "c.json") true true = (log, .ok s) ∧
    ∀ name text, checkText s name text tabless.platform.room = .error (.options (.tabWidth (.whole 0))) := by
  obtain ⟨s, loaded, refused⟩ : ∃ s, (Settings.load tabless (some "c.json") true true).2 = .ok s ∧
      decide (Plan.ofSettings s tabless.platform.room = .error (.options (.tabWidth (.whole 0)))) = true :=
    okHolds (by decide +kernel)
  refine ⟨_, s, Prod.ext rfl loaded, fun name text => ?_⟩
  rw [checkText, Check.checkLines, of_decide_eq_true refused]
  rfl

end CommandLine
end IndentLint
