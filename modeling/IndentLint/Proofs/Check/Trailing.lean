import IndentLint.Check.Plan
import IndentLint.Proofs.Report.Marks
import IndentLint.Proofs.Source.Noise

/-! Noise at the ends of lines. A check reports the same with and without it, as long as the tabs that it
brings into scanned text can be expanded. -/
namespace IndentLint
open Source (Line Marked)

namespace Source

def leftIn (inside : Bool) (text : List Char) : Option Mode :=
  modeAfter (.ofComment inside) (Text.dropEndWhile isTerminator text)

inductive Trailed : Bool → List (List Char) → List (List Char) → Prop
  | nil (inside : Bool) : Trailed inside [] []
  | cons {inside : Bool} {text noise : List Char} {rest others : List (List Char)}
      (line : Noise (leftIn inside text) noise)
      (later : Trailed (decide (leftIn inside text = some .comment)) rest others) :
      Trailed inside (text :: rest) ((text ++ noise) :: others)

theorem trailedLength {inside : Bool} {texts others : List (List Char)} (trailed : Trailed inside texts others) :
    others.length = texts.length := by
  induction trailed with
  | nil inside => rfl
  | cons _ _ ih => rw [List.length_cons, ih, List.length_cons]

theorem readOpens (tab : Nat) (inside : Bool) (index : Nat) (text : List Char) :
    (Line.read tab inside index text).2 = decide (leftIn inside text = some .comment) :=
  scanOpens tab _ (quotedInside inside)

theorem indentFits (tab : Nat) (inside : Bool) (index : Nat) (text : List Char) :
    (Line.read tab inside index text).1.indent ≤ width tab (Line.read tab inside index text).1.raw := by
  have scanned : (Line.read tab inside index text).1.visible.length ≤
      (scan tab (.ofComment inside) (Line.read tab inside index text).1.raw).1.length :=
    (List.rdropWhile_prefix Text.isBlank _).length_le
  have spaces := (List.takeWhile_prefix (l := (Line.read tab inside index text).1.visible) (· = ' ')).length_le
  exact Nat.le_trans spaces (Nat.le_trans scanned (scanFits tab _ (quotedInside inside)))

theorem readTrailed (tab : Nat) {inside : Bool} {text noise : List Char}
    (line : Noise (leftIn inside text) noise) (index : Nat) :
    Marked (Line.read tab inside index text).1 (Line.read tab inside index (text ++ noise)).1 ∧
      (Line.read tab inside index (text ++ noise)).2 = (Line.read tab inside index text).2 := by
  obtain ⟨rest, harmless, raw⟩ := rawTrailed text line
  have fits := indentFits tab inside index text
  have stripped := stripTrailed tab inside harmless
  refine ⟨⟨rfl, ?_, ?_⟩, ?_⟩
  · simp only [Line.read, raw, stripped]
  · intro column within
    have reached : column ≤ (width tab (Line.read tab inside index text).1.raw : Int) := by omega
    simp only [Line.offset, Line.read, raw] at reached ⊢
    exact offsetAppend tab reached rest
  · simp only [Line.read, raw, stripped]

theorem readFromTrailed (tab : Nat) {inside : Bool} {texts others : List (List Char)}
    (trailed : Trailed inside texts others) (index : Nat) :
    List.Forall₂ Marked (Line.readFrom tab inside index texts).1 (Line.readFrom tab inside index others).1 := by
  induction trailed generalizing index with
  | nil inside => exact .nil
  | @cons inside text noise rest others line _ ih =>
    obtain ⟨marked, opens⟩ := readTrailed tab line index
    have later := ih (index + 1)
    rw [← readOpens tab inside index text] at later
    simp only [Line.readFrom, opens]
    exact .cons marked later

theorem expandsTrailed {inside : Bool} {texts others : List (List Char)} (trailed : Trailed inside texts others)
    (expands : expandsTab inside texts = true) : expandsTab inside others = true := by
  induction trailed with
  | nil inside => exact expands
  | @cons inside text noise rest others line _ ih =>
    obtain ⟨more, harmless, raw⟩ := rawTrailed text line
    obtain ⟨out, -, gives⟩ := scanTrailed 1 (quotedInside inside) harmless
    have opens : (scan 1 (.ofComment inside) (Text.dropEndWhile isTerminator text)).2 =
        decide (leftIn inside text = some .comment) := scanOpens 1 _ (quotedInside inside)
    simp only [expandsTab, Bool.or_eq_true, bne_iff_ne] at expands ⊢
    rw [raw]
    rcases expands with here | later
    · exact .inl (tabbedTrailed (quotedInside inside) harmless here)
    · right
      rw [opens] at later
      rw [gives, opens]
      exact ih later

end Source

namespace Check
open Source (Trailed)

namespace Plan

section
variable {texts others : List (List Char)} (trailed : Trailed false texts others)
include trailed

theorem analyzeTrailed (o : Options) : analyze o others = analyze o texts := by
  unfold analyze Source.readLines
  rw [reportMarked o (Source.readFromTrailed o.tabWidth trailed 0), Source.trailedLength trailed]

theorem linesTrailed (p : Plan) : List.Forall₂ Marked (p.lines texts).1 (p.lines others).1 :=
  Source.readFromTrailed _ trailed 0

theorem assessByTrailed (p : Plan) (unit : Number.Quantity) :
    assessBy unit (p.lines others).1 = assessBy unit (p.lines texts).1 := by
  have marked := linesTrailed trailed p
  simp only [assessBy, assessLinesMarked quantityColumnsReach marked, marked.length_eq]

theorem reportTrailed (p : Plan) : p.report others = p.report texts := by
  simp only [report, analyzeTrailed trailed, assessByTrailed trailed, Source.trailedLength trailed]

theorem isShowableTrailed (p : Plan) (report : Report Number.Quantity) :
    p.isShowable others report = p.isShowable texts report := by
  unfold isShowable
  rw [Source.hasBlockMarked (linesTrailed trailed p)]

theorem runSameTabs {p : Plan}
    (tabs : p.enabled = true →
      Source.checkTabs p.tab false others p.room = Source.checkTabs p.tab false texts p.room) :
    p.run others = p.run texts := by
  simp only [run, reportTrailed trailed, isShowableTrailed trailed]
  cases enabled : p.enabled with
  | false => rfl
  | true => simp only [tabs enabled]

end

/- The noise brings the first tab that is expanded, of a width that no text allows. -/
structure Stopped (p : Plan) (texts others : List (List Char)) : Prop where
  enabled : p.enabled = true
  before : Source.expandsTab false texts = false
  behind : Source.expandsTab false others = true
  raised : ∃ fault, Source.tabFault? p.tab p.room = some fault ∧ p.run others = .error (.tab fault)

theorem runTrailed {texts others : List (List Char)} (trailed : Trailed false texts others) (p : Plan) :
    p.run others = p.run texts ∨ p.Stopped texts others := by
  cases found : Source.tabFault? p.tab p.room with
  | none =>
    left
    apply runSameTabs trailed
    simp [Source.checkTabs, found]
  | some fault =>
    have before := Source.expandsTrailed trailed
    by_cases same : Source.expandsTab false others = Source.expandsTab false texts
    · left
      apply runSameTabs trailed
      simp only [Source.checkTabs, found, same, implies_true]
    · have plain : Source.expandsTab false texts = false := by
        by_contra expands
        rw [Bool.not_eq_false] at expands
        exact same ((before expands).trans expands.symm)
      have tabbed : Source.expandsTab false others = true := by
        by_contra expands
        rw [Bool.not_eq_true] at expands
        exact same (expands.trans plain.symm)
      cases enabled : p.enabled with
      | false =>
        left
        apply runSameTabs trailed
        simp [enabled]
      | true =>
        refine .inr ⟨enabled, plain, tabbed, fault, found, ?_⟩
        simp [run, enabled, Source.checkTabs, found, tabbed, Except.mapError, bind, Except.bind]

theorem trailingNoiseUnreported {texts others : List (List Char)} (trailed : Trailed false texts others) :
    (∀ o : Options, analyze o others = analyze o texts) ∧
      ∀ p : Plan, p.run others = p.run texts ∨ p.Stopped texts others :=
  ⟨analyzeTrailed trailed, runTrailed trailed⟩

/- Lines that end in code, in a literal behind an escape, in a comment, in half of a marker, and behind a
line comment. Braces are written as \x7b and \x7d here. -/
def mixedEnds : List (List Char) :=
  ["a \x7b\r\n".toList, "  s = \"\\".toList, "   t; /* *".toList, "x */ c /".toList, "\x7d // e\n".toList]

def mixedEndsTrailed : List (List Char) :=
  ["a \x7b\r\n".toList ++ ("\t".toList ++ '/' :: '/' :: "\x7d".toList), "  s = \"\\".toList ++ "\t\n ".toList,
    "   t; /* *".toList ++ "\u2003".toList, "x */ c /".toList ++ ([' '] ++ '/' :: '/' :: "*\"".toList),
    "\x7d // e\n".toList ++ ([' '] ++ '/' :: '/' :: "\x7b\n".toList)]

theorem mixedEndsUnreported :
    Trailed false mixedEnds mixedEndsTrailed ∧ analyze {} mixedEndsTrailed = analyze {} mixedEnds ∧
      (analyze {} mixedEnds).violations.map (fun a => (a.index, a.start, a.stop)) = [(3, 2, 5), (4, 0, 0)] := by
  have trailed : Trailed false mixedEnds mixedEndsTrailed :=
    .cons (.remark (by decide) (by decide) (by decide) _) (.cons (.blank (by decide))
      (.cons (.blank (by decide)) (.cons (.remark (by decide) (by decide) (by decide) _)
        (.cons (.remark (by decide) (by decide) (by decide) _) (.nil _)))))
  exact ⟨trailed, (trailingNoiseUnreported trailed).1 {}, by decide⟩

theorem trailingTabStops :
    let texts := ["a \x7b".toList, "  b;".toList, "\x7d".toList]
    let others := ["a \x7b".toList, "  b;".toList ++ "\t".toList, "\x7d".toList]
    ∃ plan, Plan.of (.int 2) (.int 9223372036854775808) (.bool true) = .ok plan ∧ Trailed false texts others ∧
      (plan.run texts).isOk = true ∧ plan.run others = .error (.tab .uncountable) := by
  intro texts others
  have trailed : Trailed false texts (["a \x7b".toList ++ [], "  b;".toList ++ "\t".toList, "\x7d".toList ++ []]) :=
    .cons (.blank (by decide)) (.cons (.blank (by decide)) (.cons (.blank (by decide)) (.nil _)))
  exact ⟨{ unit := some (.whole 2), tab := .whole 9223372036854775808, enabled := true }, rfl, trailed,
    by decide +kernel, rfl⟩

end Plan
end Check
end IndentLint
