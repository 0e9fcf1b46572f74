import IndentLint.CommandLine.Run
import IndentLint.Proofs.Document.Refusals
import IndentLint.Proofs.Settings.Judging
import IndentLint.Proofs.Settings.Precedence

/-! Settings files that are refused with a message. A file is loaded or refused so, whatever its bytes are, unless
it cannot be read as a document, names an encoding that cannot be asked for, or holds an entry that is stuck. -/
namespace IndentLint
open Document (Value Entries Scalar)

namespace Settings

def Answered {α : Type} (ran : Except LoadFault α) : Prop := ∀ fault, ran = .error fault → fault.isReported = true

theorem answeredBind {α β : Type} {first : Except LoadFault α} {next : α → Except LoadFault β} :
    Answered (first >>= next) ↔ Answered first ∧ ∀ value, first = .ok value → Answered (next value) := by
  constructor
  · intro answered
    exact ⟨fun fault stopped => answered fault (bindError.mpr (.inl stopped)),
      fun value ran fault stopped => answered fault (bindError.mpr (.inr ⟨value, ran, stopped⟩))⟩
  · intro ⟨here, behind⟩ fault stopped
    rcases bindError.mp stopped with stopped | ⟨value, ran, stopped⟩
    · exact here fault stopped
    · exact behind value ran fault stopped

theorem answeredReturn {α : Type} (value : α) : Answered (.ok value) := fun _ stopped => nomatch stopped

theorem answeredError {α : Type} {fault : LoadFault} :
    Answered (.error fault : Except LoadFault α) ↔ fault.isReported = true := by
  constructor
  · exact fun answered => answered fault rfl
  · intro reported other same
    cases same
    exact reported

theorem answeredMap {α β : Type} {f : α → β} {ran : Except LoadFault α} : Answered (ran.map f) ↔ Answered ran := by
  cases ran with
  | ok value => exact iff_of_true (answeredReturn _) (answeredReturn _)
  | error fault => exact answeredError.trans answeredError.symm

/-! ### Reading -/

variable {platform : Platform}

inductive JsonUnread (depth : Nat) (bytes : List UInt8) : Prop where
  | undecodable {fault : DecodeFault} (cut : Encoding.decodeUtf8 bytes = .error fault) : JsonUnread depth bytes
  | longNumeral {text : List Char} {digits : Nat} (decoded : Encoding.decodeUtf8 bytes = .ok text)
      (long : Text.Numeral.maxDigits < digits)
      (read : Document.Json.read (Text.unifyNewlines text) depth = .error (.longNumeral digits)) :
      JsonUnread depth bytes
  | tooDeep {text : List Char} {container : String} (decoded : Encoding.decodeUtf8 bytes = .ok text)
      (read : Document.Json.read (Text.unifyNewlines text) depth = .error (.tooDeep container)) :
      JsonUnread depth bytes

/- The same for YAML: the library stops otherwise than by saying that the text does not follow the format. -/
def YamlUnread (platform : Platform) (bytes : List UInt8) : Prop :=
  ∃ fault, platform.readYaml bytes = .error fault ∧ ∀ detail, fault ≠ .malformed detail

def Unread (platform : Platform) (path : String) (bytes : List UInt8) : Prop :=
  if isYaml path then YamlUnread platform bytes else JsonUnread platform.depth bytes

theorem parsedAnswered {ran : Except Document.Fault Value} : Answered (ran.mapError parseFault) ↔
    ∀ fault, ran = .error fault → ∃ detail, fault = .malformed detail := by
  cases ran with
  | ok v => exact iff_of_true (answeredReturn _) (by simp)
  | error fault =>
    refine answeredError.trans ?_
    cases fault <;> simp [parseFault, LoadFault.isReported]

theorem yamlAnswered (bytes : List UInt8) :
    Answered ((platform.readYaml bytes).mapError parseFault) ↔ ¬ YamlUnread platform bytes := by
  rw [parsedAnswered, YamlUnread]
  push Not
  rfl

theorem jsonAnswered (depth : Nat) (bytes : List UInt8) : Answered (do
    let text ← (Encoding.decodeUtf8 bytes).mapError LoadFault.undecodable
    (Document.Json.read (Text.unifyNewlines text) depth).mapError parseFault) ↔ ¬ JsonUnread depth bytes := by
  cases decoded : Encoding.decodeUtf8 bytes with
  | error fault =>
    have stopped : ¬ Answered (.error (.undecodable fault) : Except LoadFault Value) := fun answered =>
      nomatch answered _ rfl
    exact iff_of_false stopped (not_not.mpr (.undecodable decoded))
  | ok text =>
    refine parsedAnswered.trans ⟨fun foreseen unread => ?_, fun unread fault read => ?_⟩
    · cases unread with
      | undecodable cut => cases decoded.symm.trans cut
      | longNumeral again _ read | tooDeep again read =>
        cases decoded.symm.trans again
        obtain ⟨detail, same⟩ := foreseen _ read
        contradiction
    · cases Document.Json.readRefuses _ _ fault read with
      | malformed detail => exact ⟨detail, rfl⟩
      | longNumeral long => exact absurd (.longNumeral decoded long read) unread
      | tooDeep => exact absurd (.tooDeep decoded read) unread

theorem parseAnswered {path : String} {bytes : List UInt8} :
    Answered (parseFile platform path bytes) ↔ ¬ Unread platform path bytes := by
  unfold parseFile Unread
  split
  · rw [answeredBind, yamlAnswered]
    exact and_iff_left fun v _ => answeredReturn _
  · exact jsonAnswered _ bytes

theorem fileAnswered {d : Storage.Disk} {path : String} :
    Answered (loadFile platform d path) ↔ ∀ bytes, d.read path = .ok bytes → ¬ Unread platform path bytes := by
  unfold loadFile
  dsimp only
  split
  · rename_i absent
    refine iff_of_true (answeredError.mpr rfl) fun bytes read => ?_
    unfold Storage.Disk.read at read
    unfold Storage.Disk.has at absent
    cases found : d.lookup path <;> simp_all
  · have opened : Answered ((d.read path).mapError .unreadable) := by
      cases d.read path with
      | ok bytes => exact answeredReturn _
      | error fault => exact answeredError.mpr rfl
    refine answeredBind.trans ⟨fun answered bytes read => ?_, fun readable => ⟨opened, fun bytes read => ?_⟩⟩
    · exact parseAnswered.mp (answeredBind.mp (answered.2 bytes (mapErrorOk.mpr read))).1
    · refine answeredBind.mpr ⟨parseAnswered.mpr (readable bytes (mapErrorOk.mp read)), fun v parsed => ?_⟩
      split
      · exact answeredReturn _
      · exact answeredError.mpr rfl

/-! ### Settling -/

theorem settleAnswered {codecs : Codecs} {doc : Entries} : Answered (settle codecs doc true) ↔
    ¬ Misnames codecs doc ∧
      (validateDocument doc codecs = .ok () → ¬ ∃ g, ∃ e ∈ groupIn doc g, Stuck e.1 e.2) := by
  have validated : Answered ((validateDocument doc codecs).mapError .setting) ↔ ¬ Misnames codecs doc := by
    rw [← judgedUnreported]
    cases validateDocument doc codecs with
    | ok => exact iff_of_true (answeredReturn _) (by simp)
    | error fault => exact answeredError.trans (by simp [LoadFault.isReported])
  have applied (judged : validateDocument doc codecs = .ok ()) :
      Answered (applyDocument doc) ↔ ¬ ∃ g, ∃ e ∈ groupIn doc g, Stuck e.1 e.2 := by
    rcases applyDocumentEnds (judgedGrouped judged) with ⟨⟨result, ran⟩, free⟩ | ⟨⟨cause, stopped⟩, stuck⟩
    · rw [ran]
      exact iff_of_true (answeredReturn _) free
    · rw [stopped]
      exact iff_of_false (fun answered => nomatch answered _ rfl) (not_not.mpr stuck)
  unfold settle
  rw [if_pos rfl, answeredBind, validated]
  exact and_congr_right fun _ =>
    ⟨fun answered judged => (applied judged).mp (answered () (mapErrorOk.mpr judged)),
      fun free _ ran => (applied (mapErrorOk.mp ran)).mpr (free (mapErrorOk.mp ran))⟩

theorem settledStuck {entries : Entries} (distinct : Document.Distinct (.mapping entries)) (vars : Variables)
    (g : Group) :
    (∃ e ∈ groupIn (settled entries vars) g, Stuck e.1 e.2) ↔ ∃ e ∈ groupIn entries g, Stuck e.1 e.2 := by
  have others {key : Scalar} {v : Value} (stuck : Stuck key v) :
      key.key ∉ Document.Entries.keys (vars.groupEntries g) := by
    intro member
    rw [Document.Entries.keysForms] at member
    obtain ⟨form, listed, same⟩ := List.mem_map.mp member
    obtain ⟨setting, -, rfl⟩ := memEntriesFor (Variables.groupEntriesFor vars g ▸ listed)
    rw [Document.keyText.mp same.symm] at stuck
    exact settingFree setting v stuck
  rw [settledGroup distinct]
  constructor
  · intro ⟨e, member, stuck⟩
    exact ⟨e, (Document.mergeMember (others stuck) e.2).mp member, stuck⟩
  · intro ⟨e, member, stuck⟩
    exact ⟨e, (Document.mergeMember (others stuck) e.2).mpr member, stuck⟩

/-! ### Loading -/

theorem contentAnswered {d : Storage.Disk} {path : Option String} : Answered (fileEntries platform d path) ↔
    ∀ file bytes, (chooseFile d path).1 = some file → d.read file = .ok bytes → ¬ Unread platform file bytes := by
  unfold fileEntries
  cases chosen : (chooseFile d path).1 with
  | none => exact iff_of_true (answeredReturn _) (by simp)
  | some file => simp [fileAnswered, forall_comm (α := String)]

inductive Unanswerable (host : Host) (path : Option String) (useVariables : Bool) : Prop where
  | unread {file : String} {bytes : List UInt8} (chosen : (chooseFile host.disk path).1 = some file)
      (read : host.disk.read file = .ok bytes) (unread : Unread host.platform file bytes) :
      Unanswerable host path useVariables
  | misnames {entries : Entries} (content : fileEntries host.platform host.disk path = .ok entries)
      (misnames : Misnames host.platform.codecs (settled entries (varsUsed host useVariables))) :
      Unanswerable host path useVariables
  | stuck {entries : Entries} {g : Group} {e : Scalar × Value}
      (content : fileEntries host.platform host.disk path = .ok entries)
      (judged : validateDocument (settled entries (varsUsed host useVariables)) host.platform.codecs = .ok ())
      (member : e ∈ groupIn entries g) (stuck : Stuck e.1 e.2) : Unanswerable host path useVariables

theorem loadAnswered {host : Host} (lawful : host.platform.Lawful) (path : Option String)
    (useVariables : Bool) :
    Answered (load host path useVariables true).2 ↔ ¬ Unanswerable host path useVariables := by
  rw [loadRuns, answeredBind, contentAnswered]
  simp only [answeredMap, settleAnswered]
  constructor
  · intro ⟨readable, free⟩ unanswerable
    cases unanswerable with
    | unread chosen read unread => exact readable _ _ chosen read unread
    | misnames content misnames => exact (free _ content).1 misnames
    | @stuck entries g e content judged member stuck =>
      have held := (settledStuck (fileDistinct lawful content) (varsUsed host useVariables) g).mpr
        ⟨e, member, stuck⟩
      exact (free _ content).2 judged ⟨g, held⟩
  · intro answerable
    have readable (file : String) (bytes : List UInt8) (chosen : (chooseFile host.disk path).1 = some file)
        (read : host.disk.read file = .ok bytes) : ¬ Unread host.platform file bytes :=
      fun unread => answerable (.unread chosen read unread)
    refine ⟨readable, fun entries content => ⟨fun misnames => answerable (.misnames content misnames), ?_⟩⟩
    intro judged ⟨g, held⟩
    obtain ⟨e, member, stuck⟩ := (settledStuck (fileDistinct lawful content) _ g).mp held
    exact answerable (.stuck content judged member stuck)

end Settings

namespace CommandLine
open Settings (Answered Unanswerable load)

/- A run ends with a last line on the fault, or in nothing that the program says, which is where the settings
cannot be answered. -/
inductive Closes (unanswerable : Prop) (line : String) : Except Abort Ending → Prop where
  | told {ending : Ending} (answerable : ¬ unanswerable) (code : ending.code = 1)
      (last : ending.errors.getLast? = some line) : Closes unanswerable line (.ok ending)
  | aborted {abort : Abort} (cause : unanswerable) : Closes unanswerable line (.error abort)

structure FileAnswered (host : Host) (path : Option String) : Prop where
  loads : ∀ useVariables, Answered (load host path useVariables true).2 ↔ ¬ Unanswerable host path useVariables
  commands : ∀ {g : Globals} {command : Command} {fault : LoadFault}, g.settingsPath = path →
    command.needsSettings = true → (load host path true true).2 = .error fault →
    Closes (Unanswerable host path true) ("Error: " ++ fault.message) (g.run host command)
  judges : ∀ {file : String} {verbose : Bool} {fault : LoadFault}, path = some file →
    (load host path false true).2 = .error fault →
    Closes (Unanswerable host path false) ("Error: " ++ ("Configuration file is invalid: " ++ fault.message))
      (SettingsRequest.judgeFile host verbose file)

theorem faultCloses {host : Host} (lawful : host.platform.Lawful) {path : Option String}
    {useVariables : Bool} {fault : LoadFault}
    (stopped : (load host path useVariables true).2 = .error fault) (lines : List String) (line : String) :
    Closes (Unanswerable host path useVariables) line (if fault.isReported
      then .ok { code := 1, errors := lines ++ [line], disk := host.disk } else .error (.load fault)) := by
  have answered := Settings.loadAnswered lawful path useVariables
  rw [stopped, Settings.answeredError] at answered
  split
  · rename_i reported
    exact .told (answered.mp reported) rfl (by simp)
  · rename_i unreported
    exact .aborted (not_not.mp fun answerable => unreported (answered.mpr answerable))

theorem filesAnswered {host : Host} (lawful : host.platform.Lawful) (path : Option String) :
    FileAnswered host path where
  loads := Settings.loadAnswered lawful path
  commands := by
    intro g command fault same needs stopped
    subst same
    have loaded : load host g.settingsPath true true = (_, .error fault) := Prod.ext rfl stopped
    unfold Globals.run
    rw [if_pos needs, loaded]
    exact faultCloses lawful stopped _ _
  judges := by
    intro file verbose fault same stopped
    subst same
    have loaded : load host (some file) false true = (_, .error fault) := Prod.ext rfl stopped
    unfold SettingsRequest.judgeFile
    rw [loaded]
    exact faultCloses lawful stopped _ _

def halved : Host :=
  { disk :=
      { top := .dir [("c.json", .file (utf8Bytes
          "\x7b\"discovery\": \x7b\"encoding\": \"\\ud800\"\x7d\x7d"))]
        current := [], home := [] } }

theorem halvedNameAnswered : halved.platform.Lawful ∧
    (load halved (some "c.json") true true).2 = .error (.setting (.encoding (.unpaired [0xd800]))) ∧
    FileAnswered halved (some "c.json") := by
  obtain ⟨fault, stopped, same⟩ : ∃ fault, (load halved (some "c.json") true true).2 = .error fault ∧
      decide (fault = .setting (.encoding (.unpaired [0xd800]))) = true := errorHolds (by decide +kernel)
  exact ⟨usualLawful, of_decide_eq_true same ▸ stopped, filesAnswered usualLawful _⟩

def garbled : Host :=
  { disk := { top := .dir [("c.json", .file [0xff])], current := [], home := [] } }

theorem garbledFileUnanswered : ¬ Answered (load garbled (some "c.json") true true).2 ∧
    ∃ abort, Globals.run { settingsPath := some "c.json" } garbled (.check {}) = .error abort := by
  obtain ⟨fault, stopped, silent⟩ : ∃ fault, (load garbled (some "c.json") true true).2 = .error fault ∧
      (!fault.isReported) = true := errorHolds (by decide +kernel)
  obtain ⟨abort, ended, -⟩ : ∃ abort, Globals.run { settingsPath := some "c.json" } garbled (.check {}) =
      .error abort ∧ true = true := errorHolds (by decide +kernel)
  refine ⟨fun answered => ?_, abort, ended⟩
  rw [answered fault stopped] at silent
  contradiction

end CommandLine
end IndentLint
