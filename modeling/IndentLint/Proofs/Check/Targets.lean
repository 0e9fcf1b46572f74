import IndentLint.Proofs.Check.Texts
import IndentLint.Proofs.Settings.Validated
import IndentLint.Proofs.Storage.Walk

/-! What comes of one file. With validated settings a file of a tree is readable, or its failure is
recorded, and this depends on nothing but what is in it. -/
namespace IndentLint.Check
open Document (Value Entries)
open Number (Quantity)
open Storage

structure Usable (platform : Platform) (s : Settings) (plan : Plan) : Prop where
  accepted : Plan.ofSettings s platform.room = .ok plan
  counted : ∃ n, workers s = .ok n
  limited : ∃ n : Int, 0 < n ∧ s.get .maxFileSize = .ok (.int n)
  encoded : ∃ name codec, s.get .encoding = .ok (.text name) ∧ platform.codecs.find name = .ok codec

theorem isPositiveInt {v : Value} (positive : Setting.isPositive v = true) :
    ∃ n : Int, 0 < n ∧ v = .int n := by
  unfold Setting.isPositive at positive
  split at positive
  · exact ⟨_, by simpa using positive, rfl⟩
  · contradiction

theorem positiveAccepted (fault : Quantity → OptionFault) {n : Int} (above : 0 < n) :
    positive fault (.int n) = .ok (.whole n) := by
  have notPositive : (Quantity.whole n).isNotPositive = false := by
    unfold Quantity.isNotPositive
    split
    · rfl
    · simpa [Quantity.isBelow, Quantity.fraction?, Quantity.whole?] using above
  simp [positive, Value.quantity?, notPositive]

theorem judgedUnit {codecs : Codecs} {v : Value} (judged : Setting.indentUnit.validate codecs v = .ok ()) :
    v = .null ∨ ∃ n : Int, 0 < n ∧ v = .int n := by
  by_cases inferred : v = .null
  · exact .inl inferred
  · have above : Setting.isPositive v = true := by
      simp only [Setting.validate] at judged
      split at judged
      · assumption
      · contradiction
    exact .inr (isPositiveInt above)

theorem planAccepted {codecs : Codecs} {unit : Value}
    (judged : Setting.indentUnit.validate codecs unit = .ok ()) {tab : Int} (wide : 0 < tab) (enabled : Value)
    (room : Nat) : ∃ plan, Plan.of unit (.int tab) enabled room = .ok plan ∧
      (plan.tab = .whole tab ∧ plan.room = room) ∧
      ∀ q ∈ plan.unit, ∃ n : Int, 0 < n ∧ unit = .int n ∧ q = .whole n := by
  have tabs := positiveAccepted .tabWidth wide
  rcases judgedUnit judged with rfl | ⟨n, large, rfl⟩
  · simp [Plan.of, tabs, bind, Except.bind]
  · simp [Plan.of, positiveAccepted .unit large, tabs, bind, Except.bind, Except.map, large]

theorem encodingFound {codecs : Codecs} {v : Value} (judged : Setting.encoding.validate codecs v = .ok ()) :
    ∃ name codec, v = .text name ∧ codecs.find name = .ok codec := by
  simp only [Setting.validate] at judged
  split at judged
  · rename_i name
    obtain ⟨codec, found, -⟩ := bindOk.mp judged
    exact ⟨name, codec, rfl, mapErrorOk.mp found⟩
  · contradiction
  · contradiction

section
variable {platform : Platform} {s : Settings} (valid : s.validate platform.codecs = .ok ())
  (plain : ∀ g, s.outline g = none)
include valid plain

theorem validatedPositive {setting : Setting}
    (kind : setting = .tabWidth ∨ setting = .maxFileSize ∨ setting = .maxWorkers) :
    ∃ n : Int, 0 < n ∧ s.get setting = .ok (.int n) := by
  obtain ⟨v, got, judged⟩ := s.validatedEach valid plain setting
  have positive : Setting.isPositive v = true := by
    rcases kind with rfl | rfl | rfl <;> simpa [Setting.validate] using judged
  obtain ⟨n, above, rfl⟩ := isPositiveInt positive
  exact ⟨n, above, got⟩

theorem validatedUsable : ∃ plan, Usable platform s plan := by
  obtain ⟨tab, wide, tabs⟩ := validatedPositive valid plain (.inl rfl)
  obtain ⟨limit, large, limits⟩ := validatedPositive valid plain (.inr (.inl rfl))
  obtain ⟨n, many, counts⟩ := validatedPositive valid plain (.inr (.inr rfl))
  obtain ⟨enabled, enables, -⟩ := Settings.validatedEach valid plain .enabled
  obtain ⟨unit, units, judged⟩ := Settings.validatedEach valid plain .indentUnit
  obtain ⟨v, encodes, named⟩ := Settings.validatedEach valid plain .encoding
  obtain ⟨plan, accepted, -⟩ := planAccepted judged wide enabled platform.room
  obtain ⟨name, codec, rfl, found⟩ := encodingFound named
  refine ⟨plan, ?_, ⟨.whole n, ?_⟩, ⟨limit, large, limits⟩, ⟨name, codec, encodes, found⟩⟩
  · simp only [Plan.ofSettings, units, tabs, enables, Except.mapError, bind, Except.bind]
    exact accepted
  · simp [workers, counts, Except.mapError, bind, Except.bind, Value.quantity?]

end

structure Reads (codecs : Codecs) (s : Settings) (content : Content) (text : List Char) : Prop where
  opened : content.refusal = none
  decodes : Decodes codecs s content.bytes text

def refusalCategory (r : Refusal) : Category :=
  if r.number = 1 ∨ r.number = 13 then .permission else .fileAccess

theorem refusalKind (r : Refusal) (context : Option String) :
    Category.of (.ofRefusal r) context = .ok (refusalCategory r) := by
  have refined : FailureKind.ofRefusal r =
      (FailureKind.numbered.lookup r.number).elim (.system "OSError") .ofName := by
    cases found : FailureKind.numbered.lookup r.number <;>
      simp [FailureKind.ofRefusal, FailureKind.refine, FailureKind.isNumbered, FailureKind.isSystem, found]
  rw [refined, refusalCategory]
  cases found : FailureKind.numbered.lookup r.number with
  | none =>
    have other : ¬ (r.number = 1 ∨ r.number = 13) := by
      rintro (same | same) <;> simp [same, FailureKind.numbered] at found
    rw [if_neg other]
    rfl
  | some name =>
    obtain ⟨before, behind, split, -⟩ := List.lookup_eq_some_iff.mp found
    have member : (r.number, name) ∈ FailureKind.numbered := by simp [split]
    have each : ∀ e ∈ FailureKind.numbered, Category.of (.ofName e.2) context =
        .ok (if e.1 = 1 ∨ e.1 = 13 then .permission else .fileAccess) := by
      simp only [FailureKind.numbered, List.forall_mem_cons]
      repeat' apply And.intro
      all_goals first | rfl | exact fun e member => absurd member List.not_mem_nil
    exact each _ member

/- Files that no text can be read from, because of their size, of the operating system, of the codec or of
their bytes. -/
inductive Refused (codecs : Codecs) (s : Settings) (content : Content) : Category → Prop where
  | tooLarge {limit} (given : s.get .maxFileSize = .ok limit)
      (above : isTooLarge content.bytes.length limit = .ok true) : Refused codecs s content .tooLarge
  | unreadable {limit value found refusal} (given : s.get .maxFileSize = .ok limit)
      (within : isTooLarge content.bytes.length limit = .ok false) (encoded : s.get .encoding = .ok value)
      (named : codecFor codecs value = .ok found) (kept : content.refusal = some refusal)
      (first : refusal.opens = true → ∃ codec, found = .ok codec) :
      Refused codecs s content (refusalCategory refusal)
  | bytesOnly {limit value name} (given : s.get .maxFileSize = .ok limit)
      (within : isTooLarge content.bytes.length limit = .ok false) (encoded : s.get .encoding = .ok value)
      (named : codecFor codecs value = .ok (.error (.notText name)))
      (opened : ∀ refusal ∈ content.refusal, refusal.opens = true) : Refused codecs s content .encoding
  | undecodable {limit value codec fault} (given : s.get .maxFileSize = .ok limit)
      (within : isTooLarge content.bytes.length limit = .ok false) (encoded : s.get .encoding = .ok value)
      (named : codecFor codecs value = .ok (.ok codec)) (opened : content.refusal = none)
      (broken : codec.decode content.bytes = .error fault) : Refused codecs s content .encoding

theorem refusedUnreadable {codecs : Codecs} {s : Settings} {content : Content} {category : Category}
    (refused : Refused codecs s content category) (text : List Char) : ¬ Reads codecs s content text := by
  rintro ⟨opened, ⟨limit, given, within⟩, value, codec, encoded, named, decoded⟩
  cases refused with
  | tooLarge got above =>
    cases given.symm.trans got
    cases within.symm.trans above
  | unreadable _ _ _ _ kept => cases opened.symm.trans kept
  | bytesOnly _ _ got gotName =>
    cases encoded.symm.trans got
    cases named.symm.trans gotName
  | undecodable _ _ got gotName _ broken =>
    cases encoded.symm.trans got
    cases named.symm.trans gotName
    cases decoded.symm.trans broken

theorem sizeShowable {n : Int} (above : 0 < n) {size : Nat} (below : n < size) (sized : size ≤ maxSize) :
    Text.Numeral.isShowable n = true := by
  have small : maxSize < 10 ^ 19 := by decide
  have digits : 19 ≤ Text.Numeral.maxDigits := by decide
  simp only [Text.Numeral.isShowable, decide_eq_true_eq]
  generalize Text.Numeral.maxDigits = most at digits
  have grows : 10 ^ 19 ≤ Nat.pow 10 most := Nat.pow_le_pow_right (by decide) digits
  omega

section
variable {platform : Platform} {s : Settings} {plan : Plan} (usable : Usable platform s plan)
  {content : Content}
include usable

theorem codecKnown : ∃ value found, s.get .encoding = .ok value ∧ codecFor platform.codecs value = .ok found ∧
    ((∃ codec, found = .ok codec) ∨ ∃ name, found = .error (.notText name)) := by
  obtain ⟨name, codec, encoded, known⟩ := usable.encoded
  have named : codecFor platform.codecs (.text name) =
      .ok (if codec.isText then .ok codec else .error (.notText name)) := by
    simp [codecFor, Codecs.findText, known, bind, Except.bind]
  refine ⟨_, _, encoded, named, ?_⟩
  split
  · exact .inl ⟨codec, rfl⟩
  · exact .inr ⟨name, rfl⟩

theorem readableOrRefused (content : Content) :
    (∃ text, Reads platform.codecs s content text) ∨ ∃ category, Refused platform.codecs s content category := by
  obtain ⟨limit, -, given⟩ := usable.limited
  obtain ⟨value, found, encoded, named, kind⟩ := codecKnown usable
  have judged : isTooLarge content.bytes.length (.int limit) =
    .ok (Quantity.isBelow (.whole limit) (.whole content.bytes.length)) := rfl
  cases large : Quantity.isBelow (.whole limit) (.whole content.bytes.length) with
  | true => exact .inr ⟨_, .tooLarge given (judged.trans (congrArg _ large))⟩
  | false =>
    have within := judged.trans (congrArg Except.ok large)
    cases kept : content.refusal with
    | some refusal =>
      rcases kind with ⟨codec, rfl⟩ | ⟨name, rfl⟩
      · exact .inr ⟨_, .unreadable given within encoded named kept fun _ => ⟨codec, rfl⟩⟩
      · -- A codec that is none for texts is met before the bytes, but after the file is opened.
        cases opens : refusal.opens with
        | true =>
          refine .inr ⟨_, .bytesOnly given within encoded named fun other same => ?_⟩
          rw [kept] at same
          exact Option.some.inj same ▸ opens
        | false => exact .inr ⟨_, .unreadable given within encoded named kept fun opened => by simp [opens] at opened⟩
    | none =>
      rcases kind with ⟨codec, rfl⟩ | ⟨name, rfl⟩
      · cases decoded : codec.decode content.bytes with
        | ok text => exact .inl ⟨text, kept, ⟨_, given, within⟩, _, _, encoded, named, decoded⟩
        | error fault => exact .inr ⟨_, .undecodable given within encoded named kept decoded⟩
      · exact .inr ⟨_, .bytesOnly given within encoded named fun refusal same => by simp [kept] at same⟩

theorem readRefused (sized : content.bytes.length ≤ maxSize) {category : Category}
    (refused : Refused platform.codecs s content category) (trace : Option String) (path : String) :
    ∃ failure, readFile platform.codecs s trace path content = .ok (.error failure) ∧
      Category.of failure.kind (some "file_read") = .ok category := by
  cases refused with
  | tooLarge given above =>
    obtain ⟨limit, positive, limits⟩ := usable.limited
    cases given.symm.trans limits
    have below : limit < content.bytes.length := by
      simpa [isTooLarge, Value.quantity?, Quantity.isBelow, Quantity.fraction?, Quantity.whole?] using above
    have shows := sizeShowable positive below sized
    refine ⟨.tooLarge path s!"{content.bytes.length}" (Value.int limit).display trace, ?_, rfl⟩
    simp [readFile, limits, above, shown, Value.isShowable, Document.Scalar.isShowable, shows, bind,
      Except.bind, Except.mapError, pure, Except.pure]
  | @unreadable limit value found refusal given within encoded named kept first =>
    refine ⟨.unreadable refusal path trace, ?_, refusalKind refusal _⟩
    obtain ⟨value', found', encoded', named', kind⟩ := codecKnown usable
    cases encoded.symm.trans encoded'
    cases named.symm.trans named'
    cases opens : refusal.opens with
    | true =>
      obtain ⟨codec, rfl⟩ := first opens
      simp [readFile, decodeFile, given, within, encoded, named, kept, Option.filter, opens, bind, Except.bind,
        Except.mapError, Except.map, pure, Except.pure]
    | false =>
      rcases kind with ⟨codec, rfl⟩ | ⟨name, rfl⟩ <;>
        simp [readFile, given, within, encoded, named, kept, Option.filter, opens, bind, Except.bind,
          Except.mapError, pure, Except.pure]
  | @bytesOnly limit value name given within encoded named opened =>
    refine ⟨.misnamed (.notText name) trace, ?_, rfl⟩
    have none : content.refusal.filter (!·.opens) = none := by
      simpa [Option.filter_eq_none_iff] using opened
    simp [readFile, given, within, encoded, named, none, bind, Except.bind, Except.mapError, pure, Except.pure]
  | @undecodable limit value codec fault given within encoded named opened broken =>
    refine ⟨.undecodable fault trace, ?_, ?_⟩
    · simp [readFile, decodeFile, given, within, encoded, named, opened, broken, bind, Except.bind,
        Except.mapError, Except.map, pure, Except.pure]
    · cases fault <;> rfl

end

theorem keptSized {d : Disk} (proper : d.top.isProper = true) {file : Place} {content : Content}
    (keeps : d.Keeps file content.node) : content.bytes.length ≤ maxSize := by
  obtain ⟨above, reached⟩ := keeps.reached
  exact nodeProper.mp (reachedProper proper reached).2

section
variable {host : Host} (proper : host.disk.top.isProper = true) (directory : host.disk.top.isFile = false)
  {file : Place} {content : Content} (keeps : host.disk.Keeps file content.node)
include proper directory keeps

theorem pathInfoTarget : pathInfo host (Place.toString file) = .ok
    [(.text "file_exists", .bool true), (.text "is_file", .bool true),
      (.text "file_size", .nat content.bytes.length), (.text "parent_exists", .bool true)] := by
  obtain ⟨above, reached⟩ := keeps.reached
  have steps := namesSteps (reachedProper proper reached).1
  obtain ⟨_, parent, holder⟩ := reachedParent reached
  have shorter : (Place.toString file.dropLast).utf8ByteSize ≤ Disk.maxPath := by
    have fits := keeps.fits
    have less := dropLastWeight file
    rw [toStringSize] at fits ⊢
    omega
  have found := Disk.keepsFind proper directory keeps
  have foundParent := Disk.keepsFind proper directory ⟨⟨_, holder⟩, shorter⟩
  have shownSame (place : Place) : (Storage.Path.mk "/" place).toString = Place.toString place := rfl
  simp only [pathInfo, ofStringToString steps, Path.parent, shownSame, found, foundParent, nodeFile, Node.size,
    nodeContent, bind, Except.bind]
  rfl

theorem diagnoseTarget {failure : Failure} {category : Category}
    (kind : Category.of failure.kind (some "file_read") = .ok category) :
    ∃ d, diagnose host failure (some "file_read") (some (Place.toString file)) [] = .ok d ∧
      d.path = some (Place.toString file) ∧ d.category = category := by
  have nonempty : Place.toString file ≠ "" := by simp [Place.toString]
  simp [diagnose, kind, Option.filter, nonempty, pathInfoTarget proper directory keeps, bind, Except.bind,
    Except.mapError]

end

inductive Verdict (codecs : Codecs) (s : Settings) (plan : Plan) (path : String) (content : Content) :
    Outcome → Prop where
  | checked {text lines} (reads : Reads codecs s content text)
      (split : lines = Text.lines (Text.unifyNewlines text)) :
      Verdict codecs s plan path content
        (.checked ⟨some path, plan.report lines⟩ (plan.notes lines (plan.report lines)))
  | failed {d} (unreadable : ∀ text, ¬ Reads codecs s content text)
      (refused : Refused codecs s content d.category) (named : d.path = some path) :
      Verdict codecs s plan path content (.failed d)

def Checkable (codecs : Codecs) (s : Settings) (plan : Plan) (content : Content) : Prop :=
  ∀ text, Reads codecs s content text → plan.Carries (Text.lines (Text.unifyNewlines text))

theorem checkFileReads {host : Host} {s : Settings} {content : Content} {text : List Char} {plan : Plan}
    (reads : Reads host.platform.codecs s content text)
    (accepted : Plan.ofSettings s host.platform.room = .ok plan) (path : String) :
    let lines := Text.lines (Text.unifyNewlines text)
    checkFile host s path content = (plan.run lines).map fun report =>
      .checked ⟨some path, report⟩ (plan.notes lines report) := by
  obtain ⟨bytes, refusal⟩ := content
  obtain rfl : refusal = none := reads.opened
  exact checkFileDecodes reads.decodes accepted path

section
variable {host : Host} {s : Settings} {plan : Plan} (usable : Usable host.platform s plan)
  (proper : host.disk.top.isProper = true) (directory : host.disk.top.isFile = false) {file : Place}
  {content : Content} (keeps : host.disk.Keeps file content.node)
include usable proper directory keeps

theorem targetRefused {category : Category} (refused : Refused host.platform.codecs s content category) :
    ∃ d, checkFile host s (Place.toString file) content = .ok (.failed d) ∧
      d.path = some (Place.toString file) ∧ d.category = category := by
  have sized := keptSized proper keeps
  obtain ⟨failure, read, kind⟩ := readRefused usable sized refused (some host.trace) (Place.toString file)
  obtain ⟨d, diagnosed, named, recorded⟩ := diagnoseTarget proper directory keeps kind
  exact ⟨d, by simp [checkFile, read, diagnosed, bind, Except.bind], named, recorded⟩

theorem targetVerdict {outcome : Outcome}
    (checked : checkFile host s (Place.toString file) content = .ok outcome) :
    Verdict host.platform.codecs s plan (Place.toString file) content outcome := by
  rcases readableOrRefused usable content with ⟨text, reads⟩ | ⟨category, refused⟩
  · rw [checkFileReads reads usable.accepted] at checked
    obtain ⟨report, ran, rfl⟩ := mapOk.mp checked
    rw [Plan.runCarried (Plan.runReturns ran)] at ran
    cases ran
    exact .checked reads rfl
  · obtain ⟨d, failed, named, kind⟩ := targetRefused usable proper directory keeps refused
    cases failed.symm.trans checked
    exact .failed (refusedUnreadable refused) (kind ▸ refused) named

theorem targetReturns :
    (∃ outcome, checkFile host s (Place.toString file) content = .ok outcome) ↔
      Checkable host.platform.codecs s plan content := by
  constructor
  · rintro ⟨outcome, checked⟩ text reads
    rw [checkFileReads reads usable.accepted] at checked
    obtain ⟨report, ran, -⟩ := mapOk.mp checked
    exact Plan.runReturns ran
  · intro checkable
    rcases readableOrRefused usable content with ⟨text, reads⟩ | ⟨category, refused⟩
    · rw [checkFileReads reads usable.accepted, Plan.runCarried (checkable text reads)]
      exact ⟨_, rfl⟩
    · obtain ⟨d, failed, -⟩ := targetRefused usable proper directory keeps refused
      exact ⟨_, failed⟩

end

theorem targetLocal (s : Settings) {host host' : Host} (proper : host.disk.top.isProper = true)
    (directory : host.disk.top.isFile = false) (proper' : host'.disk.top.isProper = true)
    (directory' : host'.disk.top.isFile = false) (moment : host'.now = host.now)
    (trace : host'.trace = host.trace) (platform : host'.platform = host.platform) {file : Place}
    {content : Content} (keeps : host.disk.Keeps file content.node)
    (keeps' : host'.disk.Keeps file content.node) :
    checkFile host' s (Place.toString file) content = checkFile host s (Place.toString file) content := by
  have nonempty : Place.toString file ≠ "" := by simp [Place.toString]
  have diagnosed (failure : Failure) :
      diagnose host' failure (some "file_read") (some (Place.toString file)) [] =
        diagnose host failure (some "file_read") (some (Place.toString file)) [] := by
    simp only [diagnose, Option.filter, nonempty, ne_eq, not_false_eq_true, decide_true, if_true, moment,
      pathInfoTarget proper directory keeps, pathInfoTarget proper' directory' keeps']
  simp only [checkFile, trace, platform, diagnosed]

end IndentLint.Check
