import IndentLint.Proofs.Document.Saved
import IndentLint.Proofs.Settings.Precedence
import IndentLint.Proofs.Storage.Writing

/-! Saved settings. Settings that passed validation are loaded from the file they were saved to as they
were, unless a whole number in them is too long to be written. -/
namespace IndentLint
open Document (Value Entries)
open Document.Json (Stored texted)

theorem forallMap {α β : Type} {f : α → β} {xs : List α} {ys : List β}
    (along : List.Forall₂ (fun x y => y = f x) xs ys) : ys = xs.map f := by
  rw [← List.forall₂_eq_eq_eq, List.forall₂_map_right_iff]
  exact along.flip

def Short (v : Value) : Prop := ∀ n, v = .int n → Text.Numeral.isShowable n = true

theorem positiveStored {v : Value} (positive : Setting.isPositive v = true) (short : Short v) (room : Nat) :
    Stored room v := by
  unfold Setting.isPositive at positive
  split at positive
  · exact .int (short _ rfl)
  · contradiction

theorem validatedStored {codecs : Codecs} {setting : Setting} {v : Value}
    (valid : setting.validate codecs v = .ok ())
    (texts : setting.fallsBack = false → ∃ xs, v = .texts xs) (short : Short v) (room : Nat) :
    Stored (room + 1) v := by
  have bool (held : v.bool?.isSome = true) : Stored (room + 1) v := by
    unfold Value.bool? at held
    split at held
    · exact .bool _
    · contradiction
  have list (given : ∃ xs, v = .texts xs) : Stored (room + 1) v := by
    obtain ⟨xs, rfl⟩ := given
    refine .list fun w member => ?_
    obtain ⟨x, -, rfl⟩ := List.mem_map.mp member
    exact .text x
  cases setting with
  | enabled | styledOutput | showLines => exact bool (guardOk.mp valid).1
  | includePatterns | excludeDirs | excludeGlobs => exact list (texts rfl)
  | tabWidth | maxFileSize | maxWorkers => exact positiveStored (guardOk.mp valid).1 short _
  | indentUnit =>
    have judged := (guardOk.mp valid).1
    split at judged
    · exact .null
    · exact positiveStored judged short _
  | outputFormat =>
    have judged := (guardOk.mp valid).1
    unfold Value.text? at judged
    split at judged
    · exact .text _
    · contradiction
  | encoding =>
    simp only [Setting.validate] at valid
    split at valid
    · exact .text _
    · contradiction
    · contradiction

namespace Settings

variable {s : Settings} {codecs : Codecs}

def groupRecord (s : Settings) (g : Group) : List (String × Value) :=
  g.settings.map fun setting => (setting.key, s.value setting)

def recorded (s : Settings) : List (String × Value) := Group.all.map fun g => (g.key, .record (s.groupRecord g))

theorem getOk {setting : Setting} {v : Value} (got : s.get setting = .ok v) : v = s.value setting :=
  (Except.ok.inj (refuseOk.mp got).2).symm

theorem documentRecorded {doc : Value} (plain : ∀ g, s.outline g = none) (written : s.document = .ok doc) :
    doc = .record s.recorded := by
  obtain ⟨groups, rfl, along⟩ := documentWritten written
  refine congrArg Value.record (forallMap (along.imp fun g field written => ?_))
  obtain ⟨named, given⟩ := written
  rw [groupDocument, plain] at given
  obtain ⟨fields, gathered, same⟩ := mapOk.mp given
  have values : fields = s.groupRecord g := by
    refine forallMap ((groupFieldsWritten gathered).imp fun setting field written => ?_)
    exact Prod.ext written.1 (getOk written.2)
  exact Prod.ext named (by rw [← same, values])

theorem validatedRecorded (valid : s.validate codecs = .ok ()) (plain : ∀ g, s.outline g = none) :
    s.document = .ok (.record s.recorded) ∧ validateDocument (texted s.recorded) codecs = .ok () := by
  obtain ⟨doc, documented, judged⟩ := bindOk.mp valid
  have documented := mapErrorOk.mp documented
  obtain rfl := documentRecorded plain documented
  exact ⟨documented, judged⟩

theorem validatedValue (valid : s.validate codecs = .ok ()) (plain : ∀ g, s.outline g = none)
    (setting : Setting) :
    s.get setting = .ok (s.value setting) ∧ setting.validate codecs (s.value setting) = .ok () := by
  obtain ⟨v, got, judged⟩ := validatedEach valid plain setting
  obtain rfl := getOk got
  exact ⟨got, judged⟩

theorem documentSame {t : Settings} (outline : ∀ g, t.outline g = s.outline g)
    (same : ∀ setting, t.get setting = s.get setting) : t.document = s.document := by
  unfold document groupDocument groupFields
  simp only [outline, same]

theorem applyRecorded (s : Settings) : ∃ t, applyDocument (texted s.recorded) = .ok (t, []) ∧
    (∀ g, t.outline g = none) ∧ ∀ setting, t.get setting = .ok (s.value setting) := by
  refine ⟨_, rfl, fun g => rfl, fun setting => ?_⟩
  cases setting <;> rfl

theorem recordedStored {room : Nat} (each : ∀ setting, Stored room (s.value setting)) :
    Stored (room + 2) (.record s.recorded) := by
  have apart : (s.recorded.map Prod.fst).Nodup := by
    rw [show s.recorded.map Prod.fst = Group.all.map Group.key from rfl]
    decide
  refine .record apart fun field member => ?_
  obtain ⟨g, -, rfl⟩ := List.mem_map.mp member
  have distinct : ((s.groupRecord g).map Prod.fst).Nodup := by
    rw [show (s.groupRecord g).map Prod.fst = g.settings.map Setting.key by simp [groupRecord]]
    cases g <;> decide
  refine .record distinct fun field member => ?_
  obtain ⟨setting, -, rfl⟩ := List.mem_map.mp member
  exact each setting

theorem recordedShowable (showable : (Value.record s.recorded).isShowable = true) (setting : Setting) :
    (s.value setting).isShowable = true := by
  rw [Document.Json.recordShowable] at showable
  have group := List.all_eq_true.mp showable (setting.group.key, .record (s.groupRecord setting.group))
    (List.mem_map_of_mem (by cases setting <;> decide))
  rw [Document.Json.recordShowable] at group
  exact List.all_eq_true.mp group (setting.key, s.value setting) (List.mem_map_of_mem (groupHolds setting))

/-! ### Files -/

theorem loadFileSaved {platform : Platform} {d : Storage.Disk} {path : String} {fields : List (String × Value)}
    (stored : Stored platform.depth (.record fields)) (json : isYaml path = false)
    (read : d.read path = .ok (utf8Bytes (Document.Json.write .ascii .indented (.record fields)))) :
    loadFile platform d path = .ok (texted fields) := by
  obtain ⟨text, decoded, back⟩ := Document.Json.readSaved .indented stored
  have found : d.has path = true := by
    unfold Storage.Disk.read at read
    unfold Storage.Disk.has
    split at read <;> simp_all
  have parsed : parseFile platform path (utf8Bytes (Document.Json.write .ascii .indented (.record fields))) =
      .ok (.record fields) := by
    rw [parseFile, if_neg (Bool.eq_false_iff.mp json), decoded]
    exact mapErrorOk.mpr back
  rw [loadFile, found, read]
  simp only [Except.mapError, bind, Except.bind, parsed]
  rfl

theorem loadRecorded (host : Host) {path : String} (valid : s.validate host.platform.codecs = .ok ())
    (plain : ∀ g, s.outline g = none) (content : loadFile host.platform host.disk path = .ok (texted s.recorded)) :
    ∃ t, (load host (some path) false true).2 = .ok t ∧ t.document = s.document := by
  have nonempty : path ≠ "" := by
    rintro rfl
    cases content
  have file : fileEntries host.platform host.disk (some path) = .ok (texted s.recorded) := by
    rw [fileEntries, chooseFile, if_neg nonempty]
    exact content
  obtain ⟨t, applied, outline, values⟩ := applyRecorded s
  have apart : (Document.Entries.keys (texted s.recorded)).Nodup := by
    rw [show Document.Entries.keys (texted s.recorded) =
      Group.all.map fun g => (Document.Scalar.text g.key).key from rfl]
    decide
  refine ⟨t, ?_, documentSame (fun g => (outline g).trans (plain g).symm) fun setting => ?_⟩
  · have alone : settled (texted s.recorded) (varsUsed host false) = texted s.recorded := by
      rw [settled, show Document.mergeEntries [] (texted s.recorded) = texted s.recorded from
        Document.mergeFresh apart]
      exact Document.mergeEntries.eq_1 _
    rw [loadSettled file, alone, settle, if_pos rfl, (validatedRecorded valid plain).2, applied]
    rfl
  · rw [values, (validatedValue valid plain setting).1]

theorem saveRecorded (platform : Platform) {d d' : Storage.Disk} {path format : String} {doc : Value}
    (documented : s.document = .ok doc) (opens : d.write path [] = .ok d')
    (other : ["yaml", "yml"].contains format.toLower = false) :
    s.save d path (some format) platform = if doc.isShowable then
      (d.write path (utf8Bytes (Document.Json.write .ascii .indented doc))).mapError .access
      else .error (.unusable .tooLong) := by
  have stepped : s.save d path (some format) platform = ((fileText platform doc format).mapError SaveFault.unusable).bind
      fun text => (d.write path (utf8Bytes text)).mapError .access := by
    rw [save, documented, opens]
    rfl
  rw [stepped, fileText, if_neg (Bool.eq_false_iff.mp other)]
  cases doc.isShowable <;> rfl

theorem saveTooLong (platform : Platform) {d : Storage.Disk} {path format : String}
    (documented : s.document = .ok (.record s.recorded)) (opens : ∃ d', d.write path [] = .ok d')
    (other : ["yaml", "yml"].contains format.toLower = false) {setting : Setting} {n : Int} (held : s.value setting = .int n) (long : Text.Numeral.isShowable n = false) :
    s.save d path (some format) platform = .error (.unusable .tooLong) := by
  obtain ⟨d', opens⟩ := opens
  rw [saveRecorded platform documented opens other, if_neg]
  intro showable
  have shown := recordedShowable showable setting
  rw [held] at shown
  exact Bool.eq_false_iff.mp long shown

/- Settings that passed validation, a file that can be written and read, and a format and a path that are not
those of YAML: the settings come back, or one of their numbers is too long to be written. -/
theorem savedSettingsReload {s : Settings} {host : Host} {path format : String}
    (deep : 3 ≤ host.platform.depth) (valid : s.validate host.platform.codecs = .ok ())
    (plain : ∀ g, s.outline g = none)
    (texts : ∀ setting : Setting, setting.fallsBack = false → ∃ xs, s.get setting = .ok (.texts xs))
    (named : host.disk.current.all Storage.isName = true) (opens : ∃ d, host.disk.write path [] = .ok d)
    (unsealed : host.disk.Unsealed path) (other : ["yaml", "yml"].contains format.toLower = false) (json : isYaml path = false) :
    ((∀ setting n, s.get setting = .ok (.int n) → Text.Numeral.isShowable n = true) →
      ∃ d t doc, s.save host.disk path (some format) host.platform = .ok d ∧
        (load { host with disk := d } (some path) false true).2 = .ok t ∧
        s.document = .ok doc ∧ t.document = .ok doc) ∧
    ((∃ setting n, s.get setting = .ok (.int n) ∧ Text.Numeral.isShowable n = false) →
      s.save host.disk path (some format) host.platform = .error (.unusable .tooLong)) := by
  have documented := (validatedRecorded valid plain).1
  constructor
  · intro short
    obtain ⟨room, deep⟩ := Nat.exists_eq_add_of_le' deep
    have each (setting : Setting) : Stored (room + 1) (s.value setting) := by
      obtain ⟨got, judged⟩ := validatedValue valid plain setting
      refine validatedStored judged (fun list => ?_) (fun n same => ?_) room
      · obtain ⟨xs, held⟩ := texts setting list
        exact ⟨xs, (getOk held).symm⟩
      · exact short setting n (by rw [got, same])
    have stored : Stored host.platform.depth (.record s.recorded) := deep ▸ recordedStored each
    obtain ⟨d', opens⟩ := opens
    obtain ⟨d, written⟩ := Storage.Disk.writtenAny opens
      (utf8Bytes (Document.Json.write .ascii .indented (.record s.recorded)))
    have saved : s.save host.disk path (some format) host.platform = .ok d := by
      rw [saveRecorded host.platform documented opens other, if_pos (Document.Json.storedShowable stored), written]
      rfl
    have content : loadFile host.platform d path = .ok (texted s.recorded) :=
      loadFileSaved stored json (Storage.Disk.writtenRead named unsealed written)
    obtain ⟨t, loaded, same⟩ := loadRecorded { host with disk := d } valid plain content
    exact ⟨d, t, .record s.recorded, saved, loaded, documented, same.trans documented⟩
  · rintro ⟨setting, n, held, long⟩
    exact saveTooLong host.platform documented opens other (getOk held).symm long

def bare : Host := { disk := { top := .dir [], current := [], home := [] } }

def varied : Settings :=
  (({} : Settings).set .excludeGlobs (.texts ["\"é\n", "😀"])).set .tabWidth (.int 18446744073709551616)

theorem variedReload : varied.validate bare.platform.codecs = .ok () ∧ ∃ d t doc,
    varied.save bare.disk "o.json" (some "JSON") bare.platform = .ok d ∧
    (load { bare with disk := d } (some "o.json") false true).2 = .ok t ∧
    varied.document = .ok doc ∧ t.document = .ok doc := by
  have valid : varied.validate bare.platform.codecs = .ok () := by decide +kernel
  have texts (setting : Setting) (list : setting.fallsBack = false) :
      ∃ xs, varied.get setting = .ok (.texts xs) := by
    cases setting <;> first | contradiction | exact ⟨_, rfl⟩
  have short (setting : Setting) (n : Int) (held : varied.get setting = .ok (.int n)) :
      Text.Numeral.isShowable n = true := by
    cases setting <;> cases held <;> decide +kernel
  have opens : ∃ d, bare.disk.write "o.json" [] = .ok d := ⟨_, rfl⟩
  have other : ["yaml", "yml"].contains "JSON".toLower = false := by decide +kernel
  have json : isYaml "o.json" = false := by decide +kernel
  have deep : 3 ≤ bare.platform.depth := by decide
  have unsealed : bare.disk.Unsealed "o.json" := by
    intro bytes refusal found
    cases found
  exact ⟨valid, (savedSettingsReload deep valid (fun _ => rfl) texts rfl opens unsealed other json).1 short⟩

def leastLong : Int := Nat.pow 10 Text.Numeral.maxDigits

def vast : Settings := ({} : Settings).set .tabWidth (.int leastLong)

def hollowing : Entries := Group.all.map fun g => (.text g.key, .mapping [(.text Reserved.outlineKey, .mapping [])])

/- The first group is empty once the settings are written down. -/
def isHollow (s : Settings) : Bool :=
  (s.document.toOption.bind Value.entries?).any fun doc =>
    (Entries.get? doc (.text Group.analysis.key)).any Value.isEmpty

theorem savedSettingsLost :
    (vast.validate bare.platform.codecs = .ok () ∧
      vast.save bare.disk "o.json" (some "json") bare.platform = .error (.unusable .tooLong)) ∧
    ∃ s log, applyDocument hollowing = .ok (s, log) ∧ s.validate bare.platform.codecs = .ok () ∧
      ∃ d t, s.save bare.disk "o.json" (some "json") bare.platform = .ok d ∧
        (load { bare with disk := d } (some "o.json") false true).2 = .ok t ∧ t.document ≠ s.document := by
  have refused : vast.save bare.disk "o.json" (some "json") bare.platform = .error (.unusable .tooLong) :=
    saveTooLong _ rfl ⟨_, rfl⟩ (by decide +kernel) (show vast.value .tabWidth = .int leastLong from rfl)
      (by decide +kernel)
  obtain ⟨⟨s, log⟩, applied, kept⟩ : ∃ r, applyDocument hollowing = .ok r ∧
      (decide (r.1.validate bare.platform.codecs = .ok ()) && isHollow r.1 &&
        (r.1.save bare.disk "o.json" (some "json") bare.platform).toOption.any fun d =>
          (load { bare with disk := d } (some "o.json") false true).2.toOption.any fun t => !isHollow t) = true :=
    okHolds (by decide +kernel)
  simp only [Bool.and_eq_true, decide_eq_true_eq] at kept
  obtain ⟨⟨valid, emptied⟩, back⟩ := kept
  obtain ⟨d, saved, back⟩ := okHolds back
  obtain ⟨t, loaded, filled⟩ := okHolds back
  have apart : t.document ≠ s.document := by
    intro same
    rw [isHollow, same, ← isHollow, emptied] at filled
    exact absurd filled (by decide)
  exact ⟨⟨by decide +kernel, refused⟩, s, log, applied, valid, d, t, saved, loaded, apart⟩

end Settings
end IndentLint
