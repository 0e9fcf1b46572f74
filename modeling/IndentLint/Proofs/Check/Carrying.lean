import IndentLint.Proofs.Check.Targets
import IndentLint.Proofs.Layout.Reach
import IndentLint.Proofs.Levels
import IndentLint.Proofs.Source.Columns
import IndentLint.Proofs.Source.Offsets
import IndentLint.Proofs.Source.Reading

/-! Texts that a check carries. The widths of a report are bounded by the columns of its lines, so that with a
tab that can be stored and a unit that is not huge a report is returned on every text that can be held. -/
namespace IndentLint
open Layout (Tracker Target)
open Number (Quantity)
open Source (Line)

namespace Text

def extent : List (List Char) → Nat
  | [] => 0
  | text :: rest => text.length + 1 + extent rest

theorem extentSplit (text : List Char) : extent (splitOn '\n' text) = text.length + 1 := by
  fun_induction splitOn '\n' text with
  | case1 => rfl
  | case2 rest ih => simpa [extent, Nat.add_comm] using ih
  | case3 c rest other empty ih => simp [empty, extent] at ih
  | case4 c rest other first pieces split ih =>
    rw [split] at ih
    simp only [extent, List.length_cons] at ih ⊢
    omega

theorem extentSublist {some all : List (List Char)} (kept : some.Sublist all) : extent some ≤ extent all := by
  induction kept with
  | slnil => exact Nat.le_refl _
  | cons text kept ih => exact Nat.le_trans ih (Nat.le_add_left ..)
  | cons_cons text kept ih => exact Nat.add_le_add_left ih _

theorem extentLines (text : List Char) : extent (lines text) ≤ text.length + 1 := by
  have kept : (lines text).Sublist (splitOn '\n' text) := by
    rw [linesOfSplit, linesOf]
    split
    · exact List.dropLast_sublist _
    · exact List.Sublist.refl _
  rw [← extentSplit text]
  exact extentSublist kept

end Text

namespace Source

theorem widthLe {tab : Nat} (positive : 0 < tab) (s : List Char) : width tab s ≤ tab * s.length := by
  induction s with
  | nil => exact Nat.zero_le _
  | cons c rest ih =>
    have first := charWidthLe positive c
    rw [width, List.length_cons, Nat.mul_succ]
    omega

theorem extentRead {tab : Nat} (positive : 0 < tab) (inside : Bool) (index : Nat) (texts : List (List Char)) :
    Text.extent ((Line.readFrom tab inside index texts).1.map Line.visible) ≤ tab * Text.extent texts := by
  induction texts generalizing inside index with
  | nil => exact Nat.zero_le _
  | cons text rest ih =>
    have later := ih (Line.read tab inside index text).2 (index + 1)
    have fits := (readAligned positive inside index text).1
    have wide := widthLe positive (Text.dropEndWhile isTerminator text)
    have shorter := (List.rdropWhile_prefix isTerminator text).length_le
    have scaled : tab * (Text.dropEndWhile isTerminator text).length ≤ tab * text.length :=
      Nat.mul_le_mul_left tab shorter
    rw [readFromCons]
    simp only [Text.extent, List.map_cons] at later ⊢
    rw [Nat.mul_add, Nat.mul_succ]
    have first : (Line.read tab inside index text).1.visible.length ≤ tab * text.length :=
      Nat.le_trans (Nat.le_trans fits wide) scaled
    omega

theorem indentExtent {lines : List Line} {line : Line} (member : line ∈ lines) :
    line.indent ≤ Text.extent (lines.map Line.visible) := by
  have inside := List.singleton_sublist.mpr (List.mem_map_of_mem (f := Line.visible) member)
  have whole : line.visible.length + 1 ≤ Text.extent (lines.map Line.visible) := Text.extentSublist inside
  have front : line.indent ≤ line.visible.length := (List.takeWhile_prefix _).length_le
  omega

theorem inferExtent (lines : List Line) : inferUnit lines ≤ Text.extent (lines.map Line.visible) := by
  unfold inferUnit
  split
  · rename_i line first
    have behind := List.mem_of_find?_eq_some first
    exact indentExtent ((List.dropWhile_sublist _).subset (List.mem_of_mem_drop behind))
  · exact Nat.zero_le _

end Source

theorem trackedReach {u : Int} (above : 0 ≤ u) {width : Int} {t : Tracker Int} (reach : t.Reach u width)
    (lines : List Line) :
    ∀ pair ∈ track t lines, pair.2.width ≤ width + Text.extent (lines.map Line.visible) * u := by
  induction lines generalizing t width with
  | nil => simp [track]
  | cons line rest ih =>
    have entered := Tracker.reachEnter reach above line.visible
    have later := ih (Tracker.reachLeave entered above line.visible)
    have whole : (Text.extent ((line :: rest).map Line.visible) : Int) * u =
        line.visible.length * u + u + Text.extent (rest.map Line.visible) * u := by
      simp only [Text.extent, List.map_cons, Nat.cast_add, Nat.cast_one, Int.add_mul, Int.one_mul]
    have long : 0 ≤ (line.visible.length : Int) * u := Int.mul_nonneg (Int.natCast_nonneg _) above
    have more : 0 ≤ (Text.extent (rest.map Line.visible) : Int) * u :=
      Int.mul_nonneg (Int.natCast_nonneg _) above
    rw [whole]
    unfold track
    split
    · intro pair member
      rcases List.mem_cons.mp member with rfl | behind
      · refine Int.le_trans (Tracker.reachTarget entered) ?_
        omega
      · have bound := later pair behind
        omega
    · intro pair member
      have bound := ih reach pair member
      omega

namespace Options

variable {o : Options} {texts : List (List Char)}

def columns (o : Options) (texts : List (List Char)) : Nat :=
  Text.extent ((o.lines texts).map Line.visible)

theorem unitColumns {most : Nat} (given : ∀ u ∈ o.unit, u ≤ most) (texts : List (List Char)) :
    ∃ u : Nat, (analyze o texts).unit = u ∧ u ≤ max most (o.columns texts) := by
  rw [analyzeReport]
  cases o.enabled with
  | false => exact ⟨0, rfl, Nat.zero_le _⟩
  | true =>
    refine ⟨o.unitFor (o.lines texts), rfl, ?_⟩
    unfold unitFor
    cases unit : o.unit with
    | some u => exact Nat.le_trans (given u unit) (Nat.le_max_left ..)
    | none => exact Nat.le_trans (Source.inferExtent _) (Nat.le_max_right ..)

theorem assessedColumns {a : Report.Assessment Int} (member : a ∈ (analyze o texts).assessments) :
    a.expected ≤ o.columns texts * (analyze o texts).unit := by
  obtain ⟨pair, known, same⟩ := assessedTarget member
  rw [analyzeReport, trackedEnabled known, if_pos rfl, ← same]
  have bound := trackedReach (Int.natCast_nonneg _) (Tracker.reachStart _ true) _ pair (trackedOf known)
  rwa [Int.zero_add] at bound

theorem columnsLe (o : Options) (text : List Char) :
    o.columns (Text.lines text) ≤ o.tabWidth * (text.length + 1) :=
  Nat.le_trans (Source.extentRead o.tabWidth_pos false 0 _)
    (Nat.mul_le_mul_left o.tabWidth (Text.extentLines text))

theorem ofPositive {unit : Option Int} {tab : Int} (units : ∀ u ∈ unit, 0 < u) (wide : 0 < tab)
    (enabled : Bool) : ∃ o, of unit tab enabled = .ok o ∧ o.unit = unit.map Int.toNat ∧
      o.tabWidth = tab.toNat := by
  rw [of, dif_pos units, dif_pos wide]
  exact ⟨_, rfl, rfl, rfl⟩

end Options

namespace Check.Plan

def widest (tab unit : Nat) (text : List Char) : Nat :=
  tab * (text.length + 1) * max unit (tab * (text.length + 1))

structure Roomy (p : Plan) (tab unit : Nat) : Prop where
  positive : 0 < tab
  counted : tab ≤ Source.maxCount
  stored : tab ≤ p.room
  tab : p.tab = .whole tab
  unit : ∀ q ∈ p.unit, ∃ n : Nat, 0 < n ∧ n ≤ unit ∧ q = .whole n

theorem showableBelow {width most : Nat} (le : width ≤ most)
    (shown : Text.Numeral.isShowable most = true) : Text.Numeral.isShowable width = true := by
  simp only [Text.Numeral.isShowable, decide_eq_true_eq, Int.natAbs_natCast] at shown ⊢
  generalize Nat.pow 10 Text.Numeral.maxDigits = limit at shown ⊢
  exact Nat.lt_of_le_of_lt le shown

section
variable {p : Plan} {tab unit : Nat} (roomy : p.Roomy tab unit)
include roomy

theorem roomyOptions : ∃ o, p.options? = some o ∧ o.tabWidth = tab ∧ ∀ u ∈ o.unit, u ≤ unit := by
  have taken (given : Option Nat) (units : ∀ u ∈ given, 0 < u ∧ u ≤ unit) :
      ∃ o, (Options.of (given.map Int.ofNat) tab p.enabled).toOption = some o ∧ o.tabWidth = tab ∧
        ∀ u ∈ o.unit, u ≤ unit := by
    have positive : ∀ n ∈ given.map Int.ofNat, 0 < n := by
      intro n member
      obtain ⟨u, inside, rfl⟩ := Option.mem_map.mp member
      exact Int.ofNat_lt.mpr (units u inside).1
    obtain ⟨o, accepted, same, wide⟩ := Options.ofPositive positive (Int.ofNat_lt.mpr roomy.positive) p.enabled
    have back : o.unit = given := by
      rw [same, Option.map_map]
      exact congrFun Option.map_id given
    refine ⟨o, by rw [accepted]; rfl, wide, ?_⟩
    rw [back]
    exact fun u inside => (units u inside).2
  have width : Source.columns p.tab = tab := by rw [roomy.tab]; rfl
  unfold options?
  rw [width]
  match units : p.unit with
  | none => exact taken none fun u member => nomatch member
  | some q =>
    obtain ⟨n, positive, small, rfl⟩ := roomy.unit q units
    refine taken (some n) fun u member => ?_
    cases member
    exact ⟨positive, small⟩

theorem roomyTabs (texts : List (List Char)) : Source.checkTabs p.tab false texts p.room = .ok () := by
  have countable : ¬ (Source.maxCount : Int) < tab := Int.not_lt.mpr (Int.ofNat_le.mpr roomy.counted)
  have storable : ¬ (p.room : Int) < tab := Int.not_lt.mpr (Int.ofNat_le.mpr roomy.stored)
  have fault : Source.tabFault? p.tab p.room = none := by
    rw [roomy.tab, Source.tabFault?]
    simp [Quantity.whole?, countable, storable]
  rw [Source.checkTabs, fault]

theorem roomyCarries {text : List Char} (room : Text.Numeral.isShowable (widest tab unit text) = true) :
    p.Carries (Text.lines text) := by
  obtain ⟨o, accepted, wide, units⟩ := roomyOptions roomy
  have columns := wide ▸ o.columnsLe text
  obtain ⟨u, given, most⟩ := Options.unitColumns units (Text.lines text)
  have small : u ≤ max unit (tab * (text.length + 1)) :=
    Nat.le_trans most (Nat.max_le.mpr ⟨Nat.le_max_left .., Nat.le_trans columns (Nat.le_max_right ..)⟩)
  refine ⟨fun _ => roomyTabs roomy _, (showableOptions accepted _).mpr ?_⟩
  constructor
  · left
    have some : 0 < tab * (text.length + 1) := Nat.mul_pos roomy.positive (Nat.succ_pos _)
    rw [given]
    exact showableBelow (Nat.le_trans small (Nat.le_mul_of_pos_left _ some)) room
  · intro problem member
    obtain ⟨a, assessed, found⟩ := List.mem_filterMap.mp member
    rw [problemEq found]
    obtain ⟨n, same⟩ := Int.eq_ofNat_of_zero_le (Options.assessedMultiple assessed).1
    have bound := Options.assessedColumns assessed
    rw [given, same, ← Int.natCast_mul] at bound
    rw [same]
    exact showableBelow (Nat.le_trans (Int.ofNat_le.mp bound) (Nat.mul_le_mul columns small)) room

end

end Check.Plan

namespace Check

/- A report is returned on a text that the plan carries, and on no other. -/
theorem checkTextCarried {s : Settings} {room : Nat} {plan : Plan} (planned : Plan.ofSettings s room = .ok plan)
    (name : Option String) (text : List Char) :
    (∃ file, checkText s name text room = .ok file) ↔ plan.Carries (Text.lines text) := by
  rw [checkText, checkLinesPlan planned]
  constructor
  · rintro ⟨file, returned⟩
    obtain ⟨report, ran, -⟩ := mapOk.mp returned
    exact Plan.runReturns ran
  · intro carries
    rw [Plan.runCarried carries]
    exact ⟨_, rfl⟩

end Check

end IndentLint
