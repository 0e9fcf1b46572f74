import IndentLint.Proofs.Report.Marks
import IndentLint.Proofs.Source.Offsets
import IndentLint.Proofs.Source.Reading
import IndentLint.Proofs.Tracking

/-! What is marked in a line. A mark ends at the first visible character. It begins there too if the line is
aligned, at the margin if the line is indented too little, and at the first offset that has reached the target
if it is indented too much. -/
namespace IndentLint
open Layout (Target Width)
open Report (Assessment Direction)
open Source (Line roles offsetOf width strip isTerminator)

structure Highlighted (tab : Nat) (inside : Bool) (raw : List Char) (a : Assessment Int) : Prop where
  order : a.start ≤ a.stop
  within : a.stop < raw.length
  detected : width tab (raw.take a.stop) = a.detected
  first : ∃ c, c ≠ ' ' ∧ raw[a.stop]? = some c ∧ (strip tab inside raw).1[a.detected]? = some c ∧
    ∀ column < a.detected, (strip tab inside raw).1[column]? = some ' '
  before : ∀ i < a.stop, raw[i]? = some ' ' ∨ raw[i]? = some '\t' ∨
    (roles (.ofComment inside) raw)[i]? = some .comment
  aligned : a.status = .aligned → a.start = a.stop
  under : a.status = .under → a.start = 0
  reached : a.status = .over → a.expected ≤ width tab (raw.take a.start)
  least : a.status = .over → ∀ o < a.start, width tab (raw.take o) < a.expected
  overshoot : a.status = .over → width tab (raw.take a.start) < a.expected + tab

theorem spacesBefore {s : List Char} {column : Nat} (before : column < (s.takeWhile (· = ' ')).length) :
    s[column]? = some ' ' := by
  have space : (s.takeWhile (· = ' '))[column] = ' ' := by
    simpa using List.mem_takeWhile_imp (List.getElem_mem before)
  have begins : s.takeWhile (· = ' ') <+: s := List.takeWhile_prefix _
  rw [List.getElem?_eq_some_iff]
  exact ⟨Nat.lt_of_lt_of_le before begins.length_le, (begins.getElem before).symm.trans space⟩

section
variable (line : Line) (target : Target Int) (last : Direction)

theorem assessStop : (Report.assess last line target).stop = line.offset line.indent := by
  change (Assessment.highlight line line.indent (Report.direction line.indent target) target.width).2 = _
  cases deviates : Report.direction line.indent target with
  | aligned => rfl
  | «over» => exact Nat.max_eq_right (Source.offsetMono line.tabWidth (overReaches columnsReach deviates) line.raw)
  | under => exact Nat.max_eq_right (Source.offsetMono line.tabWidth (Int.natCast_nonneg line.indent) line.raw)

theorem assessStart : (Report.assess last line target).start =
    match Report.direction line.indent target with
    | .aligned => line.offset line.indent
    | .over => line.offset target.width
    | .under => 0 := by
  change (Assessment.highlight line line.indent (Report.direction line.indent target) target.width).1 = _
  cases Report.direction line.indent target with
  | aligned => rfl
  | «over» => rfl
  | under => exact Source.offsetZero line.tabWidth line.raw

end

theorem assessHighlighted {line : Line} {target : Target Int} (positive : 0 < line.tabWidth) {inside : Bool}
    (stripped : line.visible = (strip line.tabWidth inside line.raw).1)
    (visible : Source.FirstVisible inside line) (nonneg : 0 ≤ target.width) (last : Direction) :
    Highlighted line.tabWidth inside line.raw (Report.assess last line target) := by
  obtain ⟨c, shown, notSpace, here, -⟩ := visible.here
  have stop := assessStop line target last
  have start := assessStart line target last
  have within : line.offset line.indent < line.raw.length := (List.getElem?_eq_some_iff.mp here).1
  have order : (Report.assess last line target).start ≤ line.offset line.indent := by
    rw [start]
    split
    · exact Nat.le_refl _
    · exact Source.offsetMono line.tabWidth (overReaches columnsReach ‹_›) line.raw
    · exact Nat.zero_le _
  have overStart (deviates : Report.direction line.indent target = .over) :
      (Report.assess last line target).start = offsetOf line.tabWidth target.width line.raw := by
    rw [start, deviates]
    rfl
  have bound : -(line.tabWidth : Int) < target.width := by omega
  exact {
    order := by rwa [stop]
    within := by rwa [stop]
    detected := by
      rw [stop]
      exact Source.visibleLands positive inside line.raw (stripped ▸ shown) notSpace
    first := by
      rw [stop, ← stripped]
      exact ⟨c, notSpace, here, shown, fun column left => spacesBefore left⟩
    before := by
      rw [stop]
      exact visible.before
    aligned := by
      intro deviates
      rw [start, stop, show Report.direction line.indent target = .aligned from deviates]
    under := by
      intro deviates
      rw [start, show Report.direction line.indent target = .under from deviates]
    reached := by
      intro deviates
      rw [overStart deviates] at order ⊢
      exact Source.offsetReaches _ _ _ (Nat.lt_of_le_of_lt order within)
    least := by
      intro deviates o left
      rw [overStart deviates] at left
      exact Source.offsetLeast line.tabWidth left
    overshoot := by
      intro deviates
      rw [overStart deviates]
      exact Source.offsetOvershoot positive line.raw bound }

section
variable {α : Type} [Width α]

theorem judgedMember {last : Direction} {pairs : List (Line × Target α)} {a : Assessment α}
    (mem : a ∈ judge last pairs) : ∃ before, ∃ pair ∈ pairs, a = Report.assess before pair.1 pair.2 := by
  induction pairs generalizing last with
  | nil => simp [judge] at mem
  | cons pair rest ih =>
    rw [judge] at mem
    rcases List.mem_cons.mp mem with first | later
    · exact ⟨last, pair, List.mem_cons_self, first⟩
    · obtain ⟨before, other, known, same⟩ := ih later
      exact ⟨before, other, List.mem_cons_of_mem pair known, same⟩

end

theorem readMember {tab : Nat} {inside : Bool} {index : Nat} {texts : List (List Char)} {line : Line}
    (mem : line ∈ (Line.readFrom tab inside index texts).1) :
    ∃ i text, texts[i]? = some text ∧
      line = (Line.read tab (Line.readFrom tab inside index (texts.take i)).2 (index + i) text).1 := by
  induction texts generalizing inside index with
  | nil => simp [Line.readFrom] at mem
  | cons text rest ih =>
    rw [Source.readFromCons] at mem
    rcases List.mem_cons.mp mem with first | later
    · exact ⟨0, text, rfl, first⟩
    · obtain ⟨i, other, found, same⟩ := ih later
      refine ⟨i + 1, other, found, ?_⟩
      rw [same, List.take_succ_cons, Nat.add_assoc, Nat.add_comm 1]
      rfl

theorem assessedRead {o : Options} {texts : List (List Char)} {a : Assessment Int}
    (mem : a ∈ (analyze o texts).assessments) : ∃ last target text, texts[a.index]? = some text ∧
      let line := (Line.read o.tabWidth (Source.readLines o.tabWidth false (texts.take a.index)).2 a.index text).1
      a = Report.assess last line target ∧ line.isCheckable = true ∧ 0 ≤ target.width := by
  rw [o.analyzeJudge] at mem
  obtain ⟨last, ⟨line, target⟩, tracked, assessed⟩ := judgedMember mem
  obtain ⟨known, checkable⟩ := List.mem_filter.mp (Options.trackedMember tracked)
  obtain ⟨i, text, found, read⟩ := readMember known
  rw [Nat.zero_add] at read
  have index : a.index = i := by
    rw [assessed, read]
    rfl
  subst index
  exact ⟨last, target, text, found, by rw [assessed, read]; rfl, read ▸ checkable, Options.trackedNonneg tracked⟩

theorem highlightsMarkIndentation (o : Options) (texts : List (List Char)) :
    ∀ a ∈ (analyze o texts).assessments, ∃ text, texts[a.index]? = some text ∧
      Highlighted o.tabWidth (Source.readLines o.tabWidth false (texts.take a.index)).2
        (Text.dropEndWhile isTerminator text) a := by
  intro a mem
  obtain ⟨last, target, text, found, assessed, checkable, nonneg⟩ := assessedRead mem
  have visible := Source.readFirst o.tabWidth_pos _ _ _ (Source.checkableVisible checkable)
  have highlighted := assessHighlighted o.tabWidth_pos rfl visible nonneg last
  rw [← assessed] at highlighted
  exact ⟨text, found, highlighted⟩

def straddledTexts : List (List Char) :=
  ["a \x7b".toList, "  b; /* k".toList, " \tz */ c;".toList, "\x7d\r\n".toList]

theorem straddledTextsMarked :
    let a : Assessment Int := ⟨2, .over, 10, 2, 2, 7, true⟩
    a ∈ (analyze {} straddledTexts).assessments ∧
      width 4 (" \tz */ c;".toList.take 2) = 5 ∧ Highlighted 4 true " \tz */ c;".toList a := by
  intro a
  have mem : a ∈ (analyze {} straddledTexts).assessments := by decide
  obtain ⟨text, found, highlighted⟩ := highlightsMarkIndentation {} straddledTexts a mem
  cases Option.some.inj found
  exact ⟨mem, by decide, highlighted⟩

end IndentLint
