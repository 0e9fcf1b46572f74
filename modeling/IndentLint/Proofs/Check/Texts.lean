import IndentLint.Check.Run
import IndentLint.Proofs.Check.Outcomes
import IndentLint.Proofs.Except
import IndentLint.Proofs.Storage.Walk
import IndentLint.Proofs.Text.Newlines
import IndentLint.Proofs.Text.Trim

/-! A file beside its text. What is read from a file are the lines of its text with unified newlines,
and what is checked of a line is what stands before its end. So a file and its text are checked alike,
and if the text cannot be checked, the file stops the check for the same reason. -/
namespace IndentLint
open Source (Line)

namespace Source

def SameRaw (text other : List Char) : Prop :=
  Text.dropEndWhile isTerminator other = Text.dropEndWhile isTerminator text

theorem endedSameRaw {text other : List Char} (ended : Text.Ended text other) : SameRaw text other := by
  rcases ended with rfl | rfl
  · rfl
  · exact Text.dropEndWhileDropsEnding (by simp [isTerminator])

section
variable {texts others : List (List Char)} (same : List.Forall₂ SameRaw texts others)
include same

theorem readFromSameRaw (tab : Nat) (inside : Bool) (index : Nat) :
    Line.readFrom tab inside index others = Line.readFrom tab inside index texts := by
  induction same generalizing inside index with
  | nil => rfl
  | @cons text other rest more first later ih =>
    have read : Line.read tab inside index other = Line.read tab inside index text := by
      simp only [Line.read, show Text.dropEndWhile isTerminator other = _ from first]
    simp only [Line.readFrom, read, ih]

theorem expandsTabSameRaw (inside : Bool) : expandsTab inside others = expandsTab inside texts := by
  induction same generalizing inside with
  | nil => rfl
  | @cons text other rest more first later ih =>
    simp only [expandsTab, show Text.dropEndWhile isTerminator other = _ from first, ih]

theorem checkTabsSameRaw (tab : Number.Quantity) (inside : Bool) (room : Nat) :
    checkTabs tab inside others room = checkTabs tab inside texts room := by
  unfold checkTabs
  rw [expandsTabSameRaw same]

end
end Source

theorem analyzeSameRaw {texts others : List (List Char)} (same : List.Forall₂ Source.SameRaw texts others)
    (o : Options) : analyze o others = analyze o texts := by
  simp only [analyze, Source.readLines, Source.readFromSameRaw same, same.length_eq]

namespace Check
open Storage (Path)

namespace Plan

section
variable {texts others : List (List Char)} (same : List.Forall₂ Source.SameRaw texts others) (p : Plan)
include same

theorem linesSameRaw : p.lines others = p.lines texts := Source.readFromSameRaw same _ _ _

theorem reportSameRaw : p.report others = p.report texts := by
  simp only [report, analyzeSameRaw same, linesSameRaw same, same.length_eq]

theorem isShowableSameRaw (report : Report Number.Quantity) :
    p.isShowable others report = p.isShowable texts report := by
  unfold isShowable
  rw [linesSameRaw same]

theorem runSameRaw : p.run others = p.run texts := by
  simp only [run, Source.checkTabsSameRaw same, reportSameRaw same, isShowableSameRaw same]

end

end Plan

theorem checkLinesPlan {s : Settings} {room : Nat} {plan : Plan} (accepted : Plan.ofSettings s room = .ok plan)
    (path : Option String) (lines : List (List Char)) :
    checkLines s path lines room = (plan.run lines).map (⟨path, ·⟩) := by
  simp only [checkLines, accepted, bind, Except.bind]
  cases plan.run lines <;> rfl

theorem checkTextUnified {text : List Char} (paired : Text.PairedCr text) (s : Settings)
    (path : Option String) (room : Nat) :
    checkText s path text room = checkText s path (Text.unifyNewlines text) room := by
  have same := (Text.linesUnified paired).imp fun _ _ => Source.endedSameRaw
  simp only [checkText, checkLines, Plan.runSameRaw same]

structure Decodes (codecs : Codecs) (s : Settings) (bytes : List UInt8) (text : List Char) : Prop where
  limit : ∃ limit, s.get .maxFileSize = .ok limit ∧ isTooLarge bytes.length limit = .ok false
  encoding : ∃ value codec, s.get .encoding = .ok value ∧ codecFor codecs value = .ok (.ok codec) ∧
    codec.decode bytes = .ok text

theorem readFileDecodes {codecs : Codecs} {s : Settings} {bytes : List UInt8} {text : List Char}
    (decodes : Decodes codecs s bytes text) (trace : Option String) (path : String) :
    readFile codecs s trace path { bytes } = .ok (.ok (Text.lines (Text.unifyNewlines text))) := by
  obtain ⟨limit, size, within⟩ := decodes.limit
  obtain ⟨value, codec, given, found, decoded⟩ := decodes.encoding
  simp [readFile, decodeFile, size, within, given, found, decoded, bind, Except.bind, Except.mapError,
    Except.map, pure, Except.pure]

section
variable {host : Host} {s : Settings} {bytes : List UInt8} {text : List Char} {plan : Plan}
  (decodes : Decodes host.platform.codecs s bytes text)
  (accepted : Plan.ofSettings s host.platform.room = .ok plan)
include decodes accepted

theorem checkFileDecodes (path : String) :
    let lines := Text.lines (Text.unifyNewlines text)
    checkFile host s path { bytes } = (plan.run lines).map fun report =>
      .checked ⟨some path, report⟩ (plan.notes lines report) := by
  intro lines
  simp only [checkFile, readFileDecodes decodes, accepted, bind, Except.bind]
  cases plan.run lines <;> rfl

end

theorem metadataReturns {s : Settings} {room : Nat} {plan : Plan} (accepted : Plan.ofSettings s room = .ok plan)
    (host : Host) (path : Path) : ∃ about, metadata host s path = .ok about := by
  simp only [Plan.ofSettings, bindOk, mapErrorOk] at accepted
  obtain ⟨unit, units, tab, tabs, enabled, enables, -⟩ := accepted
  simp [metadata, units, tabs, enables, Except.mapError, bind, Except.bind]

theorem checkPathFile {host : Host} {s : Settings} {path : String} {content : Storage.Content}
    {about : Document.Entries}
    (regular : host.disk.find (Path.ofString path).toString = .ok (some content.node))
    (described : metadata host s (.ofString path) = .ok about) :
    checkPath host s path = (workers s).bind fun _ =>
      (checkFile host s (Path.ofString path).toString content).map fun outcome =>
        (gather about host.elapsed [] [outcome], outcome.log) := by
  simp only [checkPath, regular, described, targets, Storage.nodeContent, Except.mapError, bind, Except.bind]
  cases workers s with
  | error fault => rfl
  | ok n =>
    simp only [checkFiles, List.length_singleton, le_refl, decide_true, Bool.or_true, if_true,
      List.mapM_cons, List.mapM_nil, bind, Except.bind]
    cases checkFile host s (Path.ofString path).toString content with
    | error fault => rfl
    | ok outcome => simp [pure, Except.pure, Except.map]

/- A file that holds a text, by whatever codec, is checked as the text is, once the number of workers is
known: there is one result, with the report on the text with unified newlines, and no failure. Where every CR stands
before an LF this is the report on the text itself. The check returns just when the plan carries the
lines. -/
theorem fileCheckedAsItsText {host : Host} {s : Settings} {path : String} {bytes : List UInt8}
    {text : List Char} {plan : Plan}
    (regular : host.disk.find (Path.ofString path).toString = .ok (some (.file bytes)))
    (decodes : Decodes host.platform.codecs s bytes text)
    (accepted : Plan.ofSettings s host.platform.room = .ok plan) (name : Option String) :
    ((checkPath host s path).map (fun r => (r.1.files, r.1.failures, r.1.success)) =
      (workers s).bind fun _ =>
        (checkText s name (Text.unifyNewlines text) host.platform.room).map fun file =>
          ([⟨some (Path.ofString path).toString, file.report⟩], [], some true)) ∧
    (Text.PairedCr text → checkText s name text host.platform.room =
      checkText s name (Text.unifyNewlines text) host.platform.room) ∧
    ((∃ r, checkPath host s path = .ok r) ↔
      (∃ n, workers s = .ok n) ∧ plan.Carries (Text.lines (Text.unifyNewlines text))) := by
  obtain ⟨about, described⟩ := metadataReturns accepted host (.ofString path)
  have content : host.disk.find (Path.ofString path).toString = .ok (some (Storage.Content.node { bytes })) :=
    regular
  have whole := checkPathFile content described
  rw [checkFileDecodes decodes accepted] at whole
  refine ⟨?_, fun paired => checkTextUnified paired s name _, ?_⟩
  · rw [whole, checkText, checkLinesPlan accepted]
    cases workers s with
    | error fault => rfl
    | ok n => cases plan.run (Text.lines (Text.unifyNewlines text)) <;> rfl
  · rw [whole]
    constructor
    · rintro ⟨r, returned⟩
      obtain ⟨n, counted, rest⟩ := bindOk.mp returned
      obtain ⟨outcome, checked, -⟩ := mapOk.mp rest
      obtain ⟨report, ran, -⟩ := mapOk.mp checked
      exact ⟨⟨n, counted⟩, Plan.runReturns ran⟩
    · rintro ⟨⟨n, counted⟩, carries⟩
      rw [counted, Plan.runCarried carries]
      exact ⟨_, rfl⟩

def cyrillic : Codec where
  decode bytes := .ok (bytes.map fun b => Char.ofNat (if b < 0xc0 then b.toNat else b.toNat + 0x350))

def pairedText : List Char := "а\r\n б\r\n".toList

def pairedFile : Host :=
  { disk := { top := .dir [("a.c", .file [0xe0, 13, 10, 32, 0xe1, 13, 10])], current := [], home := [] }
    platform := { Platform.usual with codecs := fun name => if name = "cp1251" then some cyrillic else none } }

def inCyrillic : Settings := ({} : Settings).set .encoding (.text "cp1251")

theorem pairedFileCheckedAsItsText :
    Text.PairedCr pairedText ∧
    (checkPath pairedFile inCyrillic "a.c").map (fun r => (r.1.files, r.1.failures, r.1.success)) =
      (checkText inCyrillic none pairedText pairedFile.platform.room).map fun file =>
        ([⟨some "a.c", file.report⟩], [], some true) := by
  have paired : Text.PairedCr pairedText := by decide
  have checked := @fileCheckedAsItsText pairedFile inCyrillic "a.c" _ pairedText
    { unit := none, tab := .whole 4, enabled := true } rfl ⟨⟨_, rfl, rfl⟩, _, _, rfl, rfl, rfl⟩ rfl none
  refine ⟨paired, ?_⟩
  rw [checked.1, checked.2.1 paired, show workers inCyrillic = .ok (.whole 1) from rfl]
  simp only [Except.bind, show (Path.ofString "a.c").toString = "a.c" from rfl]

def wideTabs : Settings := ({} : Settings).set .tabWidth (.int 9223372036854775808)

def tabbedText : List Char := "\tx;\n".toList

def tabbedFile : Host :=
  { disk := { top := .dir [("b.c", .file [9, 120, 59, 10])], current := [], home := [] } }

theorem wideTabStopsItsFile :
    wideTabs.validate tabbedFile.platform.codecs = .ok () ∧
    Plan.ofSettings wideTabs tabbedFile.platform.room =
      .ok { unit := none, tab := .whole 9223372036854775808, enabled := true } ∧
    (∃ bytes, tabbedFile.disk.find (Path.ofString "b.c").toString = .ok (some (.file bytes)) ∧
      Decodes tabbedFile.platform.codecs wideTabs bytes tabbedText) ∧
    checkPath tabbedFile wideTabs "b.c" = .error (.tab .uncountable) :=
  ⟨rfl, rfl, ⟨_, rfl, ⟨_, rfl, rfl⟩, _, _, rfl, rfl, rfl⟩, rfl⟩

end Check
end IndentLint
