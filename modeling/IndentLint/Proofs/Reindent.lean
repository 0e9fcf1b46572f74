import IndentLint.Proofs.Check.Outcomes
import IndentLint.Proofs.Except
import IndentLint.Proofs.Layout.Tracker
import IndentLint.Proofs.Report.Runs
import IndentLint.Proofs.Source.Baseline
import IndentLint.Proofs.Source.Expanding
import IndentLint.Proofs.Source.Lead
import IndentLint.Proofs.Source.Reading

/-! Other indentation before the same lines. Targets come from what stands behind the indentation,
so they are the same however the lines are indented, and lines moved to their targets stay there. -/
namespace IndentLint.Source

namespace Line

def reindent (l : Line) (indent text : List Char) : List Char :=
  if l.isCheckable then indent ++ text.drop l.lead.length else text

end Line

theorem rawReindented {text lead body : List Char}
    (raw : Text.dropEndWhile isTerminator text = lead ++ body) (nonempty : body ≠ [])
    (indent : List Char) :
    Text.dropEndWhile isTerminator (indent ++ text.drop lead.length) = indent ++ body := by
  obtain ⟨ending, parts, terminators⟩ := Text.dropEndWhileSplit isTerminator text
  have behind : text.drop lead.length = body ++ ending := by
    rw [parts, raw, List.append_assoc, List.drop_left]
  obtain ⟨c, last, stops⟩ := Text.dropEndWhileLast (s := text) (p := isTerminator) (by simp [raw, nonempty])
  have bodyLast : body.getLast? = some c := by
    rw [raw, List.getLast?_append_of_ne_nil _ nonempty] at last
    exact last
  have kept : Text.dropEndWhile isTerminator (body ++ ending) = body :=
    (Text.dropEndWhileDropsEnding terminators).trans (Text.dropEndWhileOfLast bodyLast stops)
  rw [behind, Text.dropEndWhileAppend _ _ _ (by rw [kept]; exact nonempty), kept]

theorem readReindented (tab : Nat) {inside : Bool} {index : Nat} {text indent : List Char}
    (checkable : (Line.read tab inside index text).1.isCheckable = true)
    (blank : Indentation (Line.read tab inside index text).1.lead) (spaced : Indentation indent) :
    ∃ core, core.head? ≠ some ' ' ∧
      (Line.read tab inside index text).1.visible =
        pad (width tab (Line.read tab inside index text).1.lead) core ∧
      (Line.read tab inside index ((Line.read tab inside index text).1.reindent indent text)).1.visible =
        pad (width tab indent) core ∧
      (Line.read tab inside index ((Line.read tab inside index text).1.reindent indent text)).2 =
        (Line.read tab inside index text).2 := by
  obtain ⟨body, parts, shown, starts⟩ := readParts tab (checkableVisible checkable) blank
  have nonempty := stripNonempty shown
  have whole : Text.dropEndWhile isTerminator text =
      (Line.read tab inside index text).1.lead ++ body := parts
  have read := stripIndented tab blank shown
  rw [Line.reindent, if_pos checkable]
  generalize (Line.read tab inside index text).1.lead = lead at whole read ⊢
  have moved := stripIndented tab spaced shown
  refine ⟨(strip tab inside body).1, starts, ?_, ?_, ?_⟩
  · simp only [Line.read, whole, read]
  · simp only [Line.read, rawReindented whole nonempty, moved]
  · simp only [Line.read, whole, rawReindented whole nonempty, moved, read]

structure Reindented (tab : Nat) (indents : Nat → List Char) (line other : Line) : Prop where
  index : other.index = line.index
  shifted : Shifted line other
  indent : line.isCheckable = true → other.indent = width tab (indents line.index)

def reindentAll (indents : Nat → List Char) (lines : List Line) (texts : List (List Char)) :
    List (List Char) :=
  List.zipWith (fun line text => line.reindent (indents line.index) text) lines texts

theorem reindentAllCons (indents : Nat → List Char) (line : Line) (lines : List Line) (text : List Char)
    (texts : List (List Char)) :
    reindentAll indents (line :: lines) (text :: texts) =
      line.reindent (indents line.index) text :: reindentAll indents lines texts := rfl

section
variable (tab : Nat) {indents : Nat → List Char} (spaced : ∀ index, Indentation (indents index))
include spaced

theorem readLineReindented (inside : Bool) (index : Nat) (text : List Char)
    (blank : (Line.read tab inside index text).1.isCheckable = true →
      Indentation (Line.read tab inside index text).1.lead) :
    Reindented tab indents (Line.read tab inside index text).1
        (Line.read tab inside index ((Line.read tab inside index text).1.reindent (indents index) text)).1 ∧
      (Line.read tab inside index ((Line.read tab inside index text).1.reindent (indents index) text)).2 =
        (Line.read tab inside index text).2 := by
  cases checkable : (Line.read tab inside index text).1.isCheckable with
  | false =>
    have kept : (Line.read tab inside index text).1.reindent (indents index) text = text := by
      simp [Line.reindent, checkable]
    rw [kept]
    exact ⟨⟨rfl, shiftedSame rfl, by simp [checkable]⟩, rfl⟩
  | true =>
    obtain ⟨core, starts, before, after, flag⟩ :=
      readReindented tab checkable (blank checkable) (spaced index)
    refine ⟨⟨rfl, ⟨_, _, core, before, after⟩, ?_⟩, flag⟩
    intro _
    rw [Line.indent, after, indentPad starts]
    rfl

theorem readFromReindented (inside : Bool) (index : Nat) (texts : List (List Char))
    (blank : ∀ line ∈ (Line.readFrom tab inside index texts).1,
      line.isCheckable = true → Indentation line.lead) :
    List.Forall₂ (Reindented tab indents) (Line.readFrom tab inside index texts).1
      (Line.readFrom tab inside index
        (reindentAll indents (Line.readFrom tab inside index texts).1 texts)).1 := by
  induction texts generalizing inside index with
  | nil => exact .nil
  | cons text rest ih =>
    obtain ⟨first, flag⟩ :=
      readLineReindented tab spaced inside index text (blank _ (List.mem_cons_self ..))
    have later := ih (Line.read tab inside index text).2 (index + 1)
      (fun line mem => blank line (List.mem_cons_of_mem _ mem))
    rw [readFromCons, reindentAllCons, readFromCons, readIndex, flag]
    exact .cons first later

end

def spaces (columns : Nat → Nat) (index : Nat) : List Char := List.replicate (columns index) ' '

theorem expandsSpaced (tab : Nat) {columns : Nat → Nat} {inside : Bool} {index : Nat} {texts : List (List Char)}
    (blank : ∀ line ∈ (Line.readFrom tab inside index texts).1,
      line.isCheckable = true → Indentation line.lead)
    (expands : expandsTab inside
      (reindentAll (spaces columns) (Line.readFrom tab inside index texts).1 texts) = true) :
    expandsTab inside texts = true := by
  induction texts generalizing inside index with
  | nil => contradiction
  | cons text rest ih =>
    have here := blank _ (List.mem_cons_self ..)
    have spaced (index : Nat) : Indentation (spaces columns index) := indentationSpaces _
    obtain ⟨-, flag⟩ := readLineReindented tab spaced inside index text here
    rw [readFromCons, reindentAllCons, readIndex, expandsCons tab inside index, flag, Bool.or_eq_true] at expands
    rw [expandsCons tab inside index, Bool.or_eq_true]
    refine expands.imp (fun line => ?_) (ih fun line member => blank line (List.mem_cons_of_mem _ member))
    cases checkable : (Line.read tab inside index text).1.isCheckable with
    | false => simpa only [Line.reindent, checkable, Bool.false_eq_true, if_false] using line
    | true =>
      obtain ⟨body, parts, shown, -⟩ := readParts tab (checkableVisible checkable) (here checkable)
      rw [Line.reindent, if_pos checkable, rawReindented parts (stripNonempty shown)] at line
      rw [show Text.dropEndWhile isTerminator text = _ ++ body from parts]
      exact expandsIndented (here checkable) line

end IndentLint.Source

namespace IndentLint
open Layout (Tracker Target Width)
open Source (Line Reindented Shifted)

theorem trackReindented {α : Type} [Width α] {tab : Nat} {indents : Nat → List Char}
    {lines others : List Line} (reindented : List.Forall₂ (Reindented tab indents) lines others)
    (t : Tracker α) :
    List.Forall₂ (fun pair other => Reindented tab indents pair.1 other.1 ∧ other.2 = pair.2)
      (track t lines) (track t others) := by
  induction reindented generalizing t with
  | nil => exact .nil
  | @cons line other rest more first _ ih =>
    obtain ⟨m, n, core, before, after⟩ := first.shifted
    have entered : t.enter other.visible = t.enter line.visible := by
      rw [before, after, Tracker.enterPad, Tracker.enterPad]
    have left : ∀ t : Tracker α, t.leave other.visible = t.leave line.visible := by
      intro t
      rw [before, after, Tracker.leavePad, Tracker.leavePad]
    simp only [track, Source.isCheckableShifted first.shifted, entered, left]
    split
    · exact .cons ⟨first, rfl⟩ (ih _)
    · exact ih t

section
variable {tab : Nat} {indents : Nat → List Char} {pairs others : List (Line × Target Int)}
  (same : List.Forall₂ (fun pair other => Reindented tab indents pair.1 other.1 ∧ other.2 = pair.2)
    pairs others)
include same

theorem targetsReindented :
    others.map (fun pair => (pair.1.index, pair.2)) = pairs.map fun pair => (pair.1.index, pair.2) := by
  induction same with
  | nil => rfl
  | cons first _ ih => rw [List.map_cons, first.1.index, first.2, ih, List.map_cons]

theorem alignedReindented
    (moved : ∀ pair ∈ pairs, pair.1.isCheckable = true ∧ 0 ≤ pair.2.width ∧
      indents pair.1.index = List.replicate pair.2.width.toNat ' ') :
    ∀ pair ∈ others, Report.direction pair.1.indent pair.2 = .aligned := by
  induction same with
  | nil => simp
  | @cons pair other rest more first _ ih =>
    intro moving mem
    rcases List.mem_cons.mp mem with rfl | later
    · obtain ⟨checkable, nonneg, spaces⟩ := moved pair (by simp)
      have indent := first.1.indent checkable
      rw [spaces, Source.widthSpaces] at indent
      rw [alignedIff, first.2, indent, Int.toNat_of_nonneg nonneg]
      simp
    · exact ih (fun pair mem => moved pair (by simp [mem])) moving later

end

namespace Options

def reindented (o : Options) (indents : Nat → List Char) (texts : List (List Char)) :
    List (List Char) :=
  Source.reindentAll indents (o.lines texts) texts

section
variable {o : Options} {texts : List (List Char)}
  (blank : ∀ line ∈ o.lines texts, line.isCheckable = true → Source.Indentation line.lead)
  {indents : Nat → List Char} (spaced : ∀ index, Source.Indentation (indents index))
include blank spaced

theorem linesReindented : List.Forall₂ (Reindented o.tabWidth indents) (o.lines texts)
    (o.lines (o.reindented indents texts)) :=
  Source.readFromReindented o.tabWidth spaced false 0 texts blank

variable {u : Nat} (explicit : o.unit = some u)
include explicit

theorem trackedReindented :
    List.Forall₂ (fun pair other => Reindented o.tabWidth indents pair.1 other.1 ∧ other.2 = pair.2)
      (o.tracked texts) (o.tracked (o.reindented indents texts)) := by
  have lines := linesReindented blank spaced
  have blocks := Source.hasBlockShifted (lines.imp fun _ _ same => same.shifted)
  have unit : ∀ lines, o.unitFor lines = u := by simp [Options.unitFor, explicit]
  simp only [tracked, checks, unit, blocks]
  split
  · exact trackReindented lines _
  · exact .nil

theorem assessedReindented :
    (analyze o (o.reindented indents texts)).assessments.map (fun a => (a.index, a.expected)) =
      (analyze o texts).assessments.map fun a => (a.index, a.expected) := by
  have targets := targetsReindented (trackedReindented blank spaced explicit)
  have widths := congrArg (List.map fun pair => (pair.1, pair.2.width)) targets
  rw [List.map_map, List.map_map] at widths
  rw [o.analyzeJudge, o.analyzeJudge, judgedTargets, judgedTargets]
  exact widths

theorem trackedAligned
    (moved : ∀ a ∈ (analyze o texts).assessments,
      indents a.index = List.replicate a.expected.toNat ' ') :
    ∀ pair ∈ o.tracked (o.reindented indents texts),
      Report.direction pair.1.indent pair.2 = .aligned := by
  apply alignedReindented (trackedReindented blank spaced explicit)
  intro pair mem
  have assessed := List.mem_map_of_mem (f := fun pair => (pair.1.index, pair.2.width)) mem
  rw [← judgedTargets .aligned, ← analyzeJudge] at assessed
  obtain ⟨a, found, same⟩ := List.mem_map.mp assessed
  obtain ⟨index, expected⟩ := Prod.mk.inj same
  refine ⟨trackedCheckable mem, trackedNonneg mem, ?_⟩
  rw [← index, ← expected]
  exact moved a found

end
end Options

structure Resettled (p : Check.Plan) (o : Options) (texts : List (List Char)) : Prop where
  targets : ∀ indents : Nat → List Char, (∀ index, Source.Indentation (indents index)) →
    (o.tracked (o.reindented indents texts)).map (fun pair => (pair.1.index, pair.2)) =
      (o.tracked texts).map fun pair => (pair.1.index, pair.2)
  /- The same lines are assessed with the same widths, unless the indentation keeps the report back. -/
  widths : ∀ indents : Nat → List Char, (∀ index, Source.Indentation (indents index)) →
    ∀ r, p.run texts = .ok r →
      (∃ s, p.run (o.reindented indents texts) = .ok s ∧
        s.assessments.map (fun a => (a.index, a.expected)) = r.assessments.map fun a => (a.index, a.expected)) ∨
      ∃ fault, p.Withheld (o.reindented indents texts) fault ∧
        p.run (o.reindented indents texts) = .error fault
  /- With the expected spaces nothing is left to report, and nothing keeps the report back. -/
  settles : ∀ columns : Nat → Nat, ∀ r, p.run texts = .ok r →
    (∀ a ∈ r.assessments, a.expected = .whole (columns a.index)) →
    ∃ s, p.run (o.reindented (Source.spaces columns) texts) = .ok s ∧ s.problems = [] ∧ s.violations = []

theorem reindentationSettles {p : Check.Plan} {o : Options} (options : p.options? = some o) {u : Nat}
    (explicit : o.unit = some u) {texts : List (List Char)}
    (blank : ∀ line ∈ o.lines texts, line.isCheckable = true → Source.Indentation line.lead) :
    Resettled p o texts where
  targets indents spaced := targetsReindented (Options.trackedReindented blank spaced explicit)
  widths indents spaced r returned := by
    rcases p.runEnds (o.reindented indents texts) with ⟨-, moved⟩ | withheld
    · refine .inl ⟨_, moved, ?_⟩
      have same := congrArg (List.map fun pair => (pair.1, Number.Quantity.whole pair.2))
        (Options.assessedReindented blank spaced explicit)
      rw [List.map_map, List.map_map] at same
      rw [Check.Plan.runReport returned, Check.Plan.reportOptions options, Check.Plan.reportOptions options,
        Report.widthsMap, Report.widthsMap]
      exact same
    · exact .inr withheld
  settles columns r returned expected := by
    have carries := Check.Plan.runReturns returned
    have spaced (index : Nat) : Source.Indentation (Source.spaces columns index) := Source.indentationSpaces _
    have quiet : (analyze o (o.reindented (Source.spaces columns) texts)).violations = [] := by
      apply o.violationsOfAligned _ (Options.trackedAligned blank spaced explicit ?_)
      intro a assessed
      rw [Check.Plan.runReport returned, Check.Plan.reportOptions options] at expected
      have whole := expected _ (List.mem_map_of_mem assessed)
      rw [show a.expected = columns a.index from Number.Quantity.whole.inj whole, Int.toNat_natCast]
      rfl
    have silent := (o.problemsEmptyIff _).mpr quiet
    have unit : (analyze o (o.reindented (Source.spaces columns) texts)).unit = (analyze o texts).unit := by
      rw [o.analyzeReport, o.analyzeReport, Options.unitFor, Options.unitFor, explicit]
      rfl
    have blocks := Source.hasBlockShifted
      ((Options.linesReindented blank spaced).imp fun _ _ same => same.shifted)
    have moved : p.Carries (o.reindented (Source.spaces columns) texts) := by
      constructor
      · intro enabled
        exact Check.Plan.tabsFewer (carries.tabs enabled) (Source.expandsSpaced o.tabWidth blank)
      · have shown := ((Check.Plan.showableOptions options texts).mp carries.widths).1
        rw [Check.Plan.showableOptions options, unit, blocks, silent]
        exact ⟨shown, fun _ member => absurd member List.not_mem_nil⟩
    refine ⟨_, Check.Plan.runCarried moved, ?_, ?_⟩
    · rw [Check.Plan.reportOptions options, Report.problemsMap, silent, List.map_nil]
    · rw [Check.Plan.reportOptions options, Report.violationsMap, quiet, List.map_nil]

def raggedTexts : List (List Char) :=
  ["\tclass A \x7b /* \x7b".toList, " x */".toList, "@Deprecated".toList, "      if (x) // \x7b\r\n".toList,
    "call(a,\n".toList, "\t b);\n".toList, " \t\x7d else \x7b".toList, "'\x7d'; \x7d".toList, "   \x7d \x7d".toList]

def raggedOptions : Options := { unit := some 2, tabWidth := 8 }

def raggedPlan : Check.Plan := { unit := some (.whole 2), tab := .whole 8, enabled := true }

def settledColumns (index : Nat) : Nat := [0, 0, 0, 2, 4, 4, 0, 2, 0].getD index 0

theorem raggedTextsSettle :
    (∀ line ∈ raggedOptions.lines raggedTexts, line.isCheckable = true → Source.Indentation line.lead) ∧
      ∃ r s, raggedPlan.run raggedTexts = .ok r ∧ r.problems.map (·.index) = [0, 4, 6, 7, 8] ∧
        raggedPlan.run (raggedOptions.reindented (Source.spaces settledColumns) raggedTexts) = .ok s ∧
        s.problems = [] ∧ s.violations = [] := by
  have blank : ∀ line ∈ raggedOptions.lines raggedTexts,
      line.isCheckable = true → Source.Indentation line.lead := by
    unfold Source.Indentation
    decide
  have settles := reindentationSettles (p := raggedPlan) (o := raggedOptions) rfl rfl blank
  obtain ⟨r, returned, shown⟩ : ∃ r, raggedPlan.run raggedTexts = .ok r ∧
      (decide (r.problems.map (·.index) = [0, 4, 6, 7, 8]) &&
        r.assessments.all fun a => decide (a.expected = .whole (settledColumns a.index))) = true :=
    okHolds (by decide +kernel)
  rw [Bool.and_eq_true, decide_eq_true_eq, List.all_eq_true] at shown
  obtain ⟨s, moved, quiet⟩ := settles.settles settledColumns r returned
    fun a member => of_decide_eq_true (shown.2 a member)
  exact ⟨blank, r, s, returned, shown.1, moved, quiet⟩

/- A line that is moved by a tab takes the verdicts on all lines with it. -/
theorem tabbedIndentStops :
    let texts := ["a \x7b".toList, "x;".toList, "\x7d".toList]
    let indents (index : Nat) : List Char := if index = 1 then ['\t'] else []
    ∃ p o, Check.Plan.of (.int 4) (.int 9223372036854775808) (.bool true) = .ok p ∧ p.options? = some o ∧
      o.unit = some 4 ∧
      (∀ line ∈ o.lines texts, line.isCheckable = true → Source.Indentation line.lead) ∧
      (∀ index, Source.Indentation (indents index)) ∧
      (∃ r, p.run texts = .ok r ∧ r.assessments.map (·.index) = [0, 1, 2]) ∧
      p.run (o.reindented indents texts) = .error (.tab .uncountable) := by
  intro texts indents
  have spaced (index : Nat) : Source.Indentation (indents index) := by
    intro c member
    simp only [indents] at member
    split at member
    · exact .inr (List.mem_singleton.mp member)
    · contradiction
  obtain ⟨r, returned, assessed⟩ :
      ∃ r, Check.Plan.run { unit := some (.whole 4), tab := .whole 9223372036854775808, enabled := true } texts =
        .ok r ∧ decide (r.assessments.map (·.index) = [0, 1, 2]) = true :=
    okHolds (by decide +kernel)
  refine ⟨_, { unit := some 4, tabWidth := 9223372036854775808 }, rfl, rfl, rfl, ?_, spaced,
    ⟨r, returned, of_decide_eq_true assessed⟩, ?_⟩
  · unfold Source.Indentation
    decide +kernel
  · decide +kernel

end IndentLint
