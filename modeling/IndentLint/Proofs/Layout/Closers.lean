import IndentLint.Proofs.Layout.Clauses
import IndentLint.Proofs.Layout.Covering
import IndentLint.Proofs.Levels

/-! Closers on one line and on lines of their own. Both close the same frames. But a line gives back only the
headers that the last of its frames has saved, so that the width keeps a level for each header that was saved in
a frame above it. -/
namespace IndentLint.Layout.Tracker

def Closers (n : Nat) (text : List Char) : Prop := text.count '}' = n ∧ ∀ c ∈ text, c = '}' ∨ c = ' '

instance decidableClosers (n : Nat) (text : List Char) : Decidable (Closers n text) :=
  inferInstanceAs (Decidable (_ ∧ _))

section
variable {n : Nat} {text : List Char} (closers : Closers n text)
include closers

theorem closersNoOpen : '{' ∉ text := by
  intro mem
  rcases closers.2 '{' mem with same | same
  · contradiction
  · contradiction

theorem closersWorth : worth text = -n := by
  rw [worth, List.count_eq_zero.mpr (closersNoOpen closers), closers.1]
  omega

theorem closersPlain : hasControlWord text = false := by
  obtain ⟨-, each⟩ := closers
  induction text with
  | nil => decide
  | cons c rest ih =>
    have gap : Text.isWord c = false := by
      rcases each c (by simp) with same | same
      · rw [same]
        decide
      · rw [same]
        decide
    rw [hasControlWord, Text.hasWordBehind controlWordsProper gap]
    exact ih fun d mem => each d (List.mem_cons_of_mem c mem)

theorem closersEnds (positive : 1 ≤ n) :
    (Text.trim text).head? = some '}' ∧ (Text.trim text).getLast? = some '}' := by
  have shows : ∀ c ∈ text, Text.isBlank c = false → c = '}' := by
    intro c mem shown
    rcases closers.2 c mem with closer | space
    · exact closer
    · rw [space] at shown
      contradiction
  have kept : Text.trim text ≠ [] := by
    intro nothing
    have closer : '}' ∈ text := List.count_pos_iff.mp (closers.1 ▸ positive)
    exact absurd (Text.blankOfTrim nothing '}' closer) (by decide)
  obtain ⟨⟨first, begins, head, firstShown⟩, last, ends, isLast, lastShown⟩ := Text.trimEnds kept
  rw [head, isLast, shows first begins firstShown, shows last ends lastShown]
  exact ⟨rfl, rfl⟩

end

section
variable {α : Type}

theorem foldlBraceCloses (t : Tracker α) {text : List Char} (noOpen : '{' ∉ text) :
    text.foldl brace t = pop^[text.count '}'] t := by
  induction text generalizing t with
  | nil => rfl
  | cons c rest ih =>
    have other : c ≠ '{' := fun same => noOpen (by simp [same])
    have later := fun t => ih t fun mem => noOpen (List.mem_cons_of_mem c mem)
    rw [List.foldl_cons, later, brace, if_neg other]
    split
    · rename_i closes
      rw [closes, List.count_cons_self, Function.iterate_succ_apply]
    · rename_i passes
      rw [List.count_cons_of_ne passes]

theorem popFrames (t : Tracker α) (n : Nat) : pop^[n + 1] t =
    { t with frames := t.frames.drop (n + 1), pending := (t.frames.drop n).headD 0 } := by
  induction n with
  | zero =>
    rw [Function.iterate_one, popFrame, List.drop_one, List.drop_zero]
  | succ n ih =>
    rw [Function.iterate_succ_apply', ih, popFrame]
    simp only [List.tail_drop]

end

/- A line of closers moves the width by all of them but the first, which has been counted on entering it. -/
theorem leaveClosers {t : Tracker Int} {n : Nat} {text : List Char} (idle : t.awaiting = false)
    (closers : Closers (n + 1) text) : t.leave text = (pop^[n + 1] (t.shift (-n))).releasePending := by
  obtain ⟨first, last⟩ := closersEnds closers (by omega)
  have noOpen := closersNoOpen closers
  have ended : isEnd (Text.trim text).getLast? = true := by simp [isEnd, last]
  have moves : (text.count '{' : Int) - text.count '}' +
      (if (Text.trim text).head? = some '}' then 1 else 0) = -n := by
    rw [List.count_eq_zero.mpr noOpen, closers.1, if_pos first]
    omega
  have stillIdle : (pop^[n + 1] (t.shift (-n))).awaiting = false := by
    rw [popFrames]
    exact idle
  rw [leaveIdle idle moves, foldlBraceCloses _ noOpen, closers.1,
    settleReleases stillIdle ended (.inl (closersPlain closers))]

def base (s : Tracker Int) : Int := if 0 < s.pending then s.expected + s.unit else s.expected

def closed (s : Tracker Int) (n : Nat) (given : Int) : Tracker Int :=
  { s with frames := s.frames.drop n, pending := 0, expected := s.base - (n + given) * s.unit }

theorem closedNone {s : Tracker Int} (none : s.pending = 0) : s.closed 0 0 = s := by
  have same : s.base - ((0 : Nat) + 0) * s.unit = s.expected := by
    rw [base, if_neg (by omega), Int.natCast_zero, Int.zero_add, Int.zero_mul, Int.sub_zero]
  rw [closed, same, List.drop_zero, ← none]

theorem closedAgain (s : Tracker Int) (n more : Nat) (given later : Int) :
    (s.closed n given).closed more later = s.closed (n + more) (given + later) := by
  have widths : s.base - (n + given) * s.unit - (more + later) * s.unit =
      s.base - ((n + more : Nat) + (given + later)) * s.unit := by
    rw [Int.sub_sub, ← Int.add_mul]
    congr 2
    omega
  simp only [closed, List.drop_drop]
  rw [← widths]
  rfl

theorem closedLess (s : Tracker Int) (n : Nat) (given kept : Int) :
    (s.closed n given).expected = (s.closed n (kept + given)).expected + kept * s.unit := by
  change s.base - (n + given) * s.unit = s.base - (n + (kept + given)) * s.unit + kept * s.unit
  rw [Int.add_left_comm, Int.add_mul kept]
  omega

theorem closedRelease {s : Tracker Int} {n : Nat} {given : Int} (sign : 0 ≤ given)
    (pays : (n + given) * s.unit ≤ s.base) :
    ({ s with frames := s.frames.drop n, pending := given, expected := s.base - n * s.unit } :
      Tracker Int).releasePending = s.closed n given := by
  have returns : s.base - n * s.unit + -given * s.unit = s.base - (n + given) * s.unit := by
    rw [Int.neg_mul, Int.add_mul]
    omega
  unfold releasePending closed
  split
  · rw [shiftTo returns (by omega)]
  · rename_i none
    have none : ¬ 0 < given := none
    have zero : given = 0 := by omega
    rw [zero, Int.add_zero]

section
variable {s : Tracker Int} {depth : Int} (covers : Covers depth s)
include covers

theorem coversPays (levels : Int) (within : levels ≤ depth + headersOpen s.frames s.pending) :
    levels * s.unit ≤ s.expected :=
  Int.le_trans (Int.mul_le_mul_of_nonneg_right within covers.unit) covers.width

theorem expectedBase : s.expected ≤ s.base := by
  have unit := covers.unit
  unfold base
  split
  · omega
  · exact Int.le_refl _

theorem savedWithin (n : Nat) :
    0 ≤ (s.frames.drop n).headD 0 ∧ (s.frames.drop n).headD 0 ≤ headersOpen s.frames s.pending := by
  have waiting := covers.pending
  have total := List.sum_nonneg covers.frames
  unfold headersOpen
  cases behind : s.frames.drop n with
  | nil =>
    rw [List.headD_nil]
    omega
  | cons frame frames =>
    have mem : frame ∈ s.frames := List.mem_of_mem_drop (i := n) (by simp [behind])
    have least := List.single_le_sum covers.frames frame mem
    have sign := covers.frames frame mem
    rw [List.headD_cons]
    omega

variable (idle : s.awaiting = false)
include idle

theorem closersEnter {n : Nat} {text : List Char} (closers : Closers (n + 1) text) (deep : 1 ≤ depth) :
    s.enter text = { s with expected := s.base - s.unit } := by
  have saved := savedWithin covers s.frames.length
  have pays := coversPays covers 1 (by omega)
  have unit := covers.unit
  have outdented : s.outdented text = { s with expected := s.expected - s.unit } := by
    rw [Tracker.outdented, if_pos (closersEnds closers (by omega)).1]
    exact shiftTo (by omega) (by omega)
  have entry := enterEntry s text
  rw [outdented] at entry
  generalize s.enter text = entered at entry ⊢
  cases entry with
  | opener waits opens more => exact absurd waits (by simp [idle])
  | block waits opens none => exact absurd waits (by simp [idle])
  | body more =>
    have more : 0 < s.pending := more
    have back : s.expected - s.unit + 1 * s.unit = s.expected := by omega
    rw [shiftTo back (by omega), base, if_pos more, Int.add_sub_cancel, ← idle]
  | plain none other =>
    have none : ¬ 0 < s.pending := none
    rw [base, if_neg none]

theorem feedClosers {n : Nat} {text : List Char} (closers : Closers (n + 1) text) (deep : (n + 1 : Nat) ≤ depth) :
    s.feed text = s.closed (n + 1) ((s.frames.drop n).headD 0) := by
  obtain ⟨sign, most⟩ := savedWithin covers n
  have above := expectedBase covers
  have onlyClosers := coversPays covers (n + 1 : Nat) (by omega)
  have withHeaders := coversPays covers ((n + 1 : Nat) + (s.frames.drop n).headD 0) (by omega)
  have lands : s.base - s.unit + -n * s.unit = s.base - (n + 1 : Nat) * s.unit := by
    rw [Int.natCast_succ, Int.add_mul, Int.neg_mul]
    omega
  have entered := closersEnter covers idle closers (by omega)
  have stillIdle : (s.enter text).awaiting = false := by
    rw [entered]
    exact idle
  rw [feed, leaveClosers stillIdle closers, entered, shiftTo lands (by omega), popFrames]
  exact closedRelease sign (Int.le_trans withHeaders above)

end

theorem sumFirst (frames : List Int) : (frames.take 1).sum = frames.headD 0 := by
  cases frames with
  | nil => rfl
  | cons frame frames => simp

theorem runClosers {s : Tracker Int} {depth : Int} (covers : Covers depth s) (idle : s.awaiting = false)
    {lines : List (List Char)} (each : ∀ line ∈ lines, Closers 1 line) (deep : lines.length ≤ depth)
    (counted : lines ≠ [] ∨ s.pending = 0) :
    s.run lines = s.closed lines.length (s.frames.take lines.length).sum := by
  induction lines generalizing s depth with
  | nil =>
    have none : s.pending = 0 := counted.resolve_left (by simp)
    rw [List.length_nil, List.take_zero, List.sum_nil, closedNone none]
    rfl
  | cons line rest ih =>
    rw [List.length_cons] at deep
    have closers := each line (by simp)
    have fed := feedClosers covers idle closers (by omega)
    have between := betweenFeed (.counted covers) line
    rw [closersWorth closers] at between
    have stillIdle : (s.feed line).awaiting = false := by
      rw [fed]
      exact idle
    have none : (s.feed line).pending = 0 := by
      rw [fed]
      rfl
    have later := ih (betweenIdle between stillIdle) stillIdle (fun line mem => each line (by simp [mem]))
      (by omega) (.inr none)
    change (s.feed line).run rest = _
    rw [later, fed, closedAgain, List.length_cons, Nat.zero_add, Nat.add_comm rest.length, List.take_add,
      List.sum_append, sumFirst]
    rfl

/- The headers that all the closed frames but the last one have saved keep their levels on the one line. -/
theorem closersKeepLevels (u : Int) (positive : 1 ≤ u) :
    ∃ fresh, (start (0 : Int) false).fixUnit? u = some fresh ∧
      ∀ fed, (fresh.run fed).awaiting = false →
        ∀ together apart, apart ≠ [] → apart.length ≤ unmatched fed.flatten → Closers apart.length together →
          (∀ line ∈ apart, Closers 1 line) →
          let s := fresh.run fed
          let saved := s.frames.take (apart.length - 1)
          (s.feed together).expected = (s.run apart).expected + saved.sum * u ∧
            (s.feed together).frames = (s.run apart).frames ∧ (s.feed together).pending = (s.run apart).pending ∧
            (s.feed together).awaiting = (s.run apart).awaiting ∧
            (Agrees (s.run apart) (s.feed together) ↔ ∀ frame ∈ saved, frame = 0) := by
  refine ⟨start u true, startFixed u, ?_⟩
  intro fed idle together apart nonempty deep closers each s saved
  have covers : Covers (0 + worth fed.flatten) s :=
    betweenIdle (betweenRun (.counted (coversStart (by omega) true)) fed) idle
  have unit : s.unit = u := (boundedRun (boundedStart u true) fed).unit
  obtain ⟨n, length⟩ : ∃ n, apart.length = n + 1 := Nat.exists_eq_add_one.mpr (List.length_pos_iff.mpr nonempty)
  have enough : (n + 1 : Nat) ≤ 0 + worth fed.flatten := by
    unfold unmatched at deep
    unfold worth
    omega
  have kept : saved = s.frames.take n := by
    simp only [saved, length, Nat.add_sub_cancel]
  have nonneg : ∀ frame ∈ saved, 0 ≤ frame := fun frame mem => covers.frames frame (List.mem_of_mem_take mem)
  have fedTogether := feedClosers covers idle (length ▸ closers) enough
  have fedApart := runClosers covers idle each (length ▸ enough) (.inl nonempty)
  rw [length, List.take_add, List.sum_append, sumFirst, ← kept] at fedApart
  have more : (s.feed together).expected = (s.run apart).expected + saved.sum * u := by
    rw [fedTogether, fedApart, ← unit]
    exact closedLess s (n + 1) _ saved.sum
  obtain ⟨frames, pending, awaiting⟩ : (s.feed together).frames = (s.run apart).frames ∧
      (s.feed together).pending = (s.run apart).pending ∧ (s.feed together).awaiting = (s.run apart).awaiting := by
    rw [fedTogether, fedApart]
    exact ⟨rfl, rfl, rfl⟩
  refine ⟨more, frames, pending, awaiting, ?_, ?_⟩
  · intro agrees frame mem
    have nothing : saved.sum * u = 0 := by
      have same := agrees.expected
      omega
    have none : saved.sum = 0 := (Int.mul_eq_zero.mp nothing).resolve_right (by omega)
    exact List.all_zero_of_le_zero_le_of_sum_eq_zero nonneg none mem
  · intro zero
    refine ⟨?_, frames, pending, awaiting⟩
    rw [more, List.sum_eq_zero zero, Int.zero_mul, Int.add_zero]

def headedTexts : List (List Char) :=
  ["for (;;)".toList, "while (x) \x7b".toList, "a \x7b".toList, "b \x7b".toList]

theorem headedClosersAgree :
    let s := (start (4 : Int) true).run headedTexts
    let apart := ["\x7d".toList, " \x7d ".toList, "\x7d".toList]
    1 ≤ (4 : Int) ∧ s.awaiting = false ∧ apart ≠ [] ∧ apart.length ≤ unmatched headedTexts.flatten ∧
      Closers apart.length "\x7d \x7d\x7d".toList ∧ (∀ line ∈ apart, Closers 1 line) ∧ s.frames = [0, 0, 1] ∧
      Agrees (s.run apart) (s.feed "\x7d \x7d\x7d".toList) := by
  intro s apart
  have positive : 1 ≤ (4 : Int) := by decide
  have idle : s.awaiting = false := by decide
  have nonempty : apart ≠ [] := by decide
  have deep : apart.length ≤ unmatched headedTexts.flatten := by decide
  have closers : Closers apart.length "\x7d \x7d\x7d".toList := by decide
  have each : ∀ line ∈ apart, Closers 1 line := by decide
  obtain ⟨fresh, fixed, keeps⟩ := closersKeepLevels 4 positive
  cases Option.some.inj fixed
  obtain ⟨-, -, -, -, agrees⟩ := keeps headedTexts idle _ apart nonempty deep closers each
  exact ⟨positive, idle, nonempty, deep, closers, each, by decide, agrees.mpr (by decide)⟩

theorem headerLevelKept :
    let fed := ["a \x7b".toList, "for (;;)".toList, "while (x) \x7b".toList]
    let apart := ["\x7d".toList, "\x7d".toList]
    let s := (start (4 : Int) true).run fed
    (start (0 : Int) false).fixUnit? 4 = some (start 4 true) ∧ Matched fed.flatten ∧ s.awaiting = false ∧
      apart.length ≤ unmatched fed.flatten ∧ Closers 2 "\x7d\x7d".toList ∧ (∀ line ∈ apart, Closers 1 line) ∧
      (s.feed "\x7d\x7d".toList).expected = 4 ∧ (s.run apart).expected = 0 ∧
      ¬ Agrees (s.run apart) (s.feed "\x7d\x7d".toList) := by
  intro fed apart s
  have together : (s.feed "\x7d\x7d".toList).expected = 4 := by decide
  have separate : (s.run apart).expected = 0 := by decide
  refine ⟨rfl, by decide, by decide, by decide, by decide, by decide, together, separate, ?_⟩
  intro agrees
  have same := agrees.expected
  rw [together, separate] at same
  contradiction

end IndentLint.Layout.Tracker
