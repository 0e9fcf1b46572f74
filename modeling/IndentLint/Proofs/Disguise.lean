import IndentLint.Proofs.Report.Marks
import IndentLint.Proofs.Source.Scan

/-! What stands inside comments and literals. A position is neutral when it is visited inside a
comment or a literal, or never because a line comment began before it, and when it does not end
what it is in. Characters there can be put for others without any trace in a report. -/
namespace IndentLint.Source

def neutral : Mode → List Char → List Bool
  | .comment, [] => []
  | .comment, '*' :: '/' :: rest => false :: false :: neutral .code rest
  | .comment, _ :: rest => true :: neutral .comment rest
  | .literal _, [] => []
  | .literal quote, '\\' :: _ :: rest => false :: true :: neutral (.literal quote) rest
  | .literal quote, c :: rest =>
    if c = quote then false :: neutral .code rest else true :: neutral (.literal quote) rest
  | .code, [] => []
  | .code, '/' :: '/' :: rest => false :: false :: rest.map fun _ => true
  | .code, '/' :: '*' :: rest => false :: false :: neutral .comment rest
  | .code, c :: rest =>
    if isQuote c then false :: neutral (.literal c) rest else false :: neutral .code rest

def harmless (c : Char) : Prop := c ∉ ['\t', '\r', '\n', '*', '/', '\\', '"', '\'']

/- What may stand at a position: its own character, or another one if the position is neutral. -/
def Shows (place : Char × Bool) (c : Char) : Prop :=
  c = place.1 ∨ place.2 = true ∧ place.1 ≠ '\t' ∧ harmless c

def Disguises (mode : Mode) (raw other : List Char) : Prop :=
  List.Forall₂ Shows (raw.zip (neutral mode raw)) other

instance decidableShows (place : Char × Bool) (c : Char) : Decidable (Shows place c) := by
  unfold Shows harmless
  infer_instance

instance decidableDisguises (mode : Mode) (raw other : List Char) : Decidable (Disguises mode raw other) := by
  unfold Disguises
  infer_instance

theorem neutralLength (mode : Mode) (raw : List Char) : (neutral mode raw).length = raw.length := by
  fun_induction neutral mode raw <;> simp_all

theorem showsOwn {c d : Char} (shows : Shows (c, false) d) : d = c := by
  rcases shows with same | ⟨neutral, _⟩
  · exact same
  · contradiction

theorem showsWidth {place : Char × Bool} {c : Char} (shows : Shows place c) (tab : Nat) :
    charWidth tab c = charWidth tab place.1 := by
  rcases shows with rfl | ⟨_, notTab, fine⟩
  · rfl
  · have other : c ≠ '\t' := by
      rintro rfl
      exact fine (by decide)
    simp [charWidth, notTab, other]

theorem showsReserved {place : Char × Bool} {c : Char} (shows : Shows place c) (risky : ¬ harmless c) :
    c = place.1 := by
  rcases shows with same | ⟨_, _, fine⟩
  · exact same
  · exact absurd fine risky

theorem headReserved {rest : List Char} {mask : List Bool} {c : Char} {others : List Char}
    (shows : List.Forall₂ Shows (rest.zip mask) (c :: others)) (risky : ¬ harmless c) :
    ∃ more, rest = c :: more := by
  cases rest with
  | nil => simp at shows
  | cons own more =>
    cases mask with
    | nil => simp at shows
    | cons hidden mask =>
      obtain ⟨first, _⟩ := List.forall₂_cons.mp shows
      cases showsReserved first risky
      exact ⟨more, rfl⟩

theorem showsCons {c : Char} {rest : List Char} {hidden : Bool} {mask : List Bool} {other : List Char}
    (shows : List.Forall₂ Shows ((c :: rest).zip (hidden :: mask)) other) :
    ∃ d others, Shows (c, hidden) d ∧ List.Forall₂ Shows (rest.zip mask) others ∧ other = d :: others :=
  List.forall₂_cons_left_iff.mp shows

theorem showsOwnCons {c : Char} {rest : List Char} {mask : List Bool} {other : List Char}
    (shows : List.Forall₂ Shows ((c :: rest).zip (false :: mask)) other) :
    ∃ others, List.Forall₂ Shows (rest.zip mask) others ∧ other = c :: others := by
  obtain ⟨d, others, first, later, rfl⟩ := showsCons shows
  cases showsOwn first
  exact ⟨others, later, rfl⟩

theorem showsNonempty {rest : List Char} {mask : List Bool} {c : Char} {others : List Char}
    (shows : List.Forall₂ Shows (rest.zip mask) (c :: others)) : ∃ own more, rest = own :: more := by
  cases rest with
  | nil => simp at shows
  | cons own more => exact ⟨own, more, rfl⟩

theorem codeKept {c : Char} {rest others : List Char} {mask : List Bool}
    (noLine : ∀ more, c = '/' → rest = '/' :: more → False)
    (noBlock : ∀ more, c = '/' → rest = '*' :: more → False)
    (later : List.Forall₂ Shows (rest.zip mask) others) :
    (∀ more, c = '/' → others = '/' :: more → False) ∧
      (∀ more, c = '/' → others = '*' :: more → False) := by
  constructor
  · intro more isSlash begins
    subst begins
    obtain ⟨tail, same⟩ := headReserved later (by unfold harmless; decide)
    exact noLine tail isSlash same
  · intro more isSlash begins
    subst begins
    obtain ⟨tail, same⟩ := headReserved later (by unfold harmless; decide)
    exact noBlock tail isSlash same

theorem scanDisguised (tab : Nat) {mode : Mode} {raw other : List Char}
    (quoted : Quoted mode) (disguises : Disguises mode raw other) :
    scan tab mode other = scan tab mode raw := by
  unfold Disguises at disguises
  have star : ¬ harmless '*' := by unfold harmless; decide
  have slash : ¬ harmless '/' := by unfold harmless; decide
  have escape : ¬ harmless '\\' := by unfold harmless; decide
  fun_induction neutral mode raw generalizing other with
  | case1 =>
    cases disguises
    rfl
  | case2 rest ih =>
    obtain ⟨tail, second, rfl⟩ := showsOwnCons disguises
    obtain ⟨others, later, rfl⟩ := showsOwnCons second
    simp only [scan, ih quotedCode later]
  | case3 c rest early ih =>
    obtain ⟨d, others, first, later, rfl⟩ := showsCons disguises
    have noEarly : ∀ more, d = '*' → others = '/' :: more → False := by
      intro more isStar begins
      subst isStar begins
      obtain ⟨tail, same⟩ := headReserved later slash
      exact early tail (showsReserved first star).symm same
    rw [scan.eq_3 tab d others noEarly, scan.eq_3 tab c rest early, ih quotedComment later, showsWidth first]
  | case4 quote =>
    cases disguises
    rfl
  | case5 quote c rest ih =>
    obtain ⟨tail, second, rfl⟩ := showsOwnCons disguises
    obtain ⟨d, others, escaped, later, rfl⟩ := showsCons second
    simp only [scan, ih quoted later, showsWidth escaped]
  | case6 c rest early ih =>
    obtain ⟨others, later, rfl⟩ := showsOwnCons disguises
    have noEarly : ∀ d more, c = '\\' → others = d :: more → False := by
      intro d more isEscape follows
      subst follows
      obtain ⟨own, tail, same⟩ := showsNonempty later
      exact early own tail isEscape same
    rw [scan.eq_6 tab c c others noEarly, scan.eq_6 tab c c rest early, if_pos rfl, if_pos rfl,
      ih quotedCode later]
  | case7 quote c rest early other ih =>
    obtain ⟨d, others, first, later, rfl⟩ := showsCons disguises
    have noEarly : ∀ e more, d = '\\' → others = e :: more → False := by
      intro e more isEscape follows
      subst isEscape follows
      obtain ⟨own, tail, same⟩ := showsNonempty later
      exact early own tail (showsReserved first escape).symm same
    have notQuote : d ≠ quote := by
      rintro rfl
      have risky : ¬ harmless d := by
        rcases quoteEither (quoted d rfl) with rfl | rfl <;> unfold harmless <;> decide
      exact other (showsReserved first risky).symm
    rw [scan.eq_6 tab quote d others noEarly, scan.eq_6 tab quote c rest early, if_neg notQuote,
      if_neg other, ih quoted later, showsWidth first]
  | case8 =>
    cases disguises
    rfl
  | case9 rest =>
    obtain ⟨tail, second, rfl⟩ := showsOwnCons disguises
    obtain ⟨others, _, rfl⟩ := showsOwnCons second
    simp only [scan]
  | case10 rest ih =>
    obtain ⟨tail, second, rfl⟩ := showsOwnCons disguises
    obtain ⟨others, later, rfl⟩ := showsOwnCons second
    simp only [scan, ih quotedComment later]
  | case11 c rest noLine noBlock begins ih =>
    obtain ⟨others, later, rfl⟩ := showsOwnCons disguises
    obtain ⟨stillNoLine, stillNoBlock⟩ := codeKept noLine noBlock later
    rw [scan.eq_10 tab c others stillNoLine stillNoBlock, scan.eq_10 tab c rest noLine noBlock,
      if_pos begins, if_pos begins, ih (quotedLiteral begins) later]
  | case12 c rest noLine noBlock plain ih =>
    obtain ⟨others, later, rfl⟩ := showsOwnCons disguises
    obtain ⟨stillNoLine, stillNoBlock⟩ := codeKept noLine noBlock later
    rw [scan.eq_10 tab c others stillNoLine stillNoBlock, scan.eq_10 tab c rest noLine noBlock,
      if_neg plain, if_neg plain, ih quotedCode later]

theorem stripDisguised (tab : Nat) {inside : Bool} {raw other : List Char}
    (disguises : Disguises (.ofComment inside) raw other) : strip tab inside other = strip tab inside raw := by
  rw [strip, scanDisguised tab (quotedInside inside) disguises, strip]

theorem offsetOfWidths (tab : Nat) (column : Int) {first second : List Char}
    (same : first.map (charWidth tab) = second.map (charWidth tab)) :
    offsetOf tab column first = offsetOf tab column second := by
  induction first generalizing second column with
  | nil =>
    cases second with
    | nil => rfl
    | cons d others => simp at same
  | cons c rest ih =>
    cases second with
    | nil => simp at same
    | cons d others =>
      obtain ⟨head, tail⟩ := List.cons.inj same
      rw [offsetOf, offsetOf, head, ih _ tail]

theorem disguisesOwn {mode : Mode} {raw other : List Char} (disguises : Disguises mode raw other) :
    List.Forall₂ (fun c d => Shows (c, true) d) raw other := by
  have own : (raw.zip (neutral mode raw)).map Prod.fst = raw :=
    List.map_fst_zip (le_of_eq (neutralLength mode raw).symm)
  have places : List.Forall₂ (fun place d => Shows (place.1, true) d) (raw.zip (neutral mode raw)) other := by
    refine disguises.imp ?_
    rintro place d (same | ⟨_, notTab, fine⟩)
    · exact .inl same
    · exact .inr ⟨rfl, notTab, fine⟩
  rw [← own]
  exact List.forall₂_map_left_iff.mpr places

theorem offsetDisguised (tab : Nat) (column : Int) {mode : Mode} {raw other : List Char}
    (disguises : Disguises mode raw other) : offsetOf tab column other = offsetOf tab column raw := by
  have shows := disguisesOwn disguises
  clear disguises
  apply offsetOfWidths
  induction shows with
  | nil => rfl
  | cons first _ ih => simp [showsWidth first, ih]

theorem unendedDisguised {mode : Mode} {raw other : List Char} (disguises : Disguises mode raw other)
    (unended : Text.dropEndWhile isTerminator raw = raw) : Text.dropEndWhile isTerminator other = other := by
  have backwards := List.forall₂_reverse_iff.mpr (disguisesOwn disguises)
  rcases List.eq_nil_or_concat' other with rfl | ⟨init, d, rfl⟩
  · rfl
  rw [List.reverse_concat] at backwards
  obtain ⟨c, rest, last, _, ends⟩ := List.forall₂_cons_right_iff.mp backwards
  have split : raw = rest.reverse ++ [c] := by rw [← List.reverse_reverse raw, ends, List.reverse_cons]
  have kept : isTerminator c = false := by
    rw [split, Text.dropEndWhileEq, List.rdropWhile_eq_self_iff] at unended
    simpa using unended
  have stops : isTerminator d = false := by
    by_contra ending
    rw [Bool.not_eq_false] at ending
    have risky : ¬ harmless d := by
      have returns : d = '\r' ∨ d = '\n' := by simpa [isTerminator] using ending
      rcases returns with rfl | rfl <;> unfold harmless <;> decide
    rw [showsReserved last risky, kept] at ending
    contradiction
  exact Text.dropEndWhileOfLast (by simp) stops

/- Lines with characters put at neutral positions. The terminators of a line stay as they are. -/
inductive Disguised (tab : Nat) : Bool → List (List Char) → List (List Char) → Prop
  | nil (inside : Bool) : Disguised tab inside [] []
  | cons {inside : Bool} {raw ending shown : List Char} {rest others : List (List Char)}
      (whole : Text.dropEndWhile isTerminator (raw ++ ending) = raw)
      (line : Disguises (.ofComment inside) raw shown)
      (later : Disguised tab (strip tab inside raw).2 rest others) :
      Disguised tab inside ((raw ++ ending) :: rest) ((shown ++ ending) :: others)

theorem disguisedLength {tab : Nat} {inside : Bool} {texts others : List (List Char)}
    (disguised : Disguised tab inside texts others) : others.length = texts.length := by
  induction disguised with
  | nil inside => rfl
  | cons _ _ _ ih => rw [List.length_cons, ih, List.length_cons]

structure Alike (line other : Line) : Prop where
  index : other.index = line.index
  visible : other.visible = line.visible
  offset : ∀ column, other.offset column = line.offset column

theorem readDisguised (tab : Nat) {inside : Bool} {raw ending shown : List Char}
    (whole : Text.dropEndWhile isTerminator (raw ++ ending) = raw)
    (line : Disguises (.ofComment inside) raw shown) (index : Nat) :
    Alike (Line.read tab inside index (raw ++ ending)).1 (Line.read tab inside index (shown ++ ending)).1 ∧
      (Line.read tab inside index (raw ++ ending)).2 = (strip tab inside raw).2 ∧
      (Line.read tab inside index (shown ++ ending)).2 = (strip tab inside raw).2 := by
  obtain ⟨dropped, parts, terminators⟩ := Text.dropEndWhileSplit isTerminator (raw ++ ending)
  rw [whole] at parts
  cases List.append_cancel_left parts
  have unended : Text.dropEndWhile isTerminator raw = raw :=
    (Text.dropEndWhileDropsEnding terminators).symm.trans whole
  have shownWhole : Text.dropEndWhile isTerminator (shown ++ ending) = shown :=
    (Text.dropEndWhileDropsEnding terminators).trans (unendedDisguised line unended)
  simp only [Line.read, whole, shownWhole, stripDisguised tab line, and_self, and_true]
  exact ⟨rfl, rfl, fun column => offsetDisguised tab column line⟩

theorem readFromDisguised {tab : Nat} {inside : Bool} {texts others : List (List Char)}
    (disguised : Disguised tab inside texts others) (index : Nat) :
    List.Forall₂ Alike (Line.readFrom tab inside index texts).1 (Line.readFrom tab inside index others).1 := by
  induction disguised generalizing index with
  | nil inside => exact .nil
  | cons whole line _ ih =>
    obtain ⟨alike, after, shownAfter⟩ := readDisguised tab whole line index
    simp only [Line.readFrom, after, shownAfter]
    exact .cons alike (ih (index + 1))

end IndentLint.Source

namespace IndentLint
open Source (Line Alike)

theorem reportAlike (o : Options) {lines others : List Line}
    (alike : List.Forall₂ Alike lines others) : o.assess others = o.assess lines :=
  reportMarked o (alike.imp fun _ _ same => ⟨same.index, same.visible, fun column _ => same.offset column⟩)

theorem disguisedLinesReportAlike (o : Options) {texts others : List (List Char)}
    (disguised : Source.Disguised o.tabWidth false texts others) : analyze o others = analyze o texts := by
  unfold analyze Source.readLines
  rw [reportAlike o (Source.readFromDisguised disguised 0), Source.disguisedLength disguised]

def annotatedTexts : List (List Char) :=
  ["a \x7b /* if (x) \x7b".toList ++ ['\n'], "/** \x7d \\ **/ s = \"\\\"\x7b\";".toList ++ ['\r', '\n'],
    "   c = '\\".toList ++ ['\n'], "\x7d // end\t\x7b".toList ++ []]

def reannotatedTexts : List (List Char) :=
  ["a \x7b /*\x7d\x7d\x7dstatic".toList ++ ['\n'], "@@*else;**/ s = \"\\x\x7d\";".toList ++ ['\r', '\n'],
    "   c = '\x7b".toList ++ ['\n'], "\x7d //else\t;".toList ++ []]

theorem reannotatedTextsReportAlike :
    Source.Disguised 4 false annotatedTexts reannotatedTexts ∧
      analyze {} reannotatedTexts = analyze {} annotatedTexts ∧
      (analyze {} annotatedTexts).problems.map (·.index) = [2] := by
  have disguised : Source.Disguised 4 false annotatedTexts reannotatedTexts :=
    .cons (by decide) (by decide) (.cons (by decide) (by decide)
      (.cons (by decide) (by decide) (.cons (by decide) (by decide) (.nil _))))
  exact ⟨disguised, disguisedLinesReportAlike {} disguised, by decide⟩

end IndentLint
