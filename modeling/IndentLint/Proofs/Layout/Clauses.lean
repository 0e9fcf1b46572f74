import IndentLint.Proofs.Layout.Tracker

/-! The last clause of a chain of blocks, written on one line or on three. The braces of the one line count
for as much as those of the three. But a control word on the one line makes it a header, since the closer of
the clause before it is counted among its own braces: then the tracker waits for a body that will not come. -/
namespace IndentLint.Layout.Tracker
open Source (Plain Line)

def Braceless (text : List Char) : Prop := Plain text ∧ '{' ∉ text ∧ '}' ∉ text

instance decidableBraceless (text : List Char) : Decidable (Braceless text) :=
  inferInstanceAs (Decidable ((∀ c ∈ text, _) ∧ _))

def reopener (phrase : List Char) : List Char := '}' :: ' ' :: (phrase ++ [' ', '{'])

def clause (phrase statement : List Char) : List Char :=
  '}' :: ' ' :: (phrase ++ ' ' :: '{' :: ' ' :: (statement ++ [' ', '}']))

theorem reopenerLast (phrase : List Char) : (reopener phrase).getLast? = some '{' := by
  simp [reopener, List.getLast?_cons]

theorem clauseLast (phrase statement : List Char) : (clause phrase statement).getLast? = some '}' := by
  simp [clause, List.getLast?_cons]

theorem plainSigns {text : List Char} (each : ∀ c ∈ text, c ∈ ['{', '}', ' ']) : Plain text := by
  have signs : ∀ c ∈ ['{', '}', ' '], c ≠ '"' ∧ c ≠ '\'' ∧ c ≠ '/' ∧ c ≠ '\t' := by decide
  exact fun c mem => signs c (each c mem)

theorem reopenerPlain {phrase : List Char} (plain : Plain phrase) : Plain (reopener phrase) := by
  have front : Plain ['}', ' '] := plainSigns (by simp)
  have back : Plain [' ', '{'] := plainSigns (by simp)
  exact Source.plainAppend front (Source.plainAppend plain back)

theorem clausePlain {phrase statement : List Char} (first : Plain phrase) (second : Plain statement) :
    Plain (clause phrase statement) := by
  have front : Plain ['}', ' '] := plainSigns (by simp)
  have middle : Plain [' ', '{', ' '] := plainSigns (by simp)
  have back : Plain [' ', '}'] := plainSigns (by simp)
  exact Source.plainAppend front
    (Source.plainAppend first (Source.plainAppend middle (Source.plainAppend second back)))

theorem trimBraced {text : List Char} (first : text.head? = some '}') {c : Char}
    (last : text.getLast? = some c) (brace : c = '{' ∨ c = '}') : Text.trim text = text := by
  apply Text.trimOfEnds
  · rw [first]
    decide
  · rw [last]
    rcases brace with opens | closes
    · subst opens
      decide
    · subst closes
      decide

theorem controlClause (phrase statement : List Char) :
    hasControlWord (clause phrase statement) = (hasControlWord phrase || hasControlWord statement) := by
  have brace : Text.isWord '}' = false := by decide
  have opener : Text.isWord '{' = false := by decide
  have space : Text.isWord ' ' = false := by decide
  have none : Text.hasWord controlWords ['}'] = false := by decide
  unfold hasControlWord clause
  rw [Text.hasWordBehind controlWordsProper brace, Text.hasWordBehind controlWordsProper space,
    Text.hasWordSplit controlWords phrase space, Text.hasWordBehind controlWordsProper opener,
    Text.hasWordBehind controlWordsProper space, Text.hasWordSplit controlWords statement space, none, Bool.or_false]

theorem clauseWorth {phrase statement : List Char} (first : Braceless phrase) (second : Braceless statement) :
    ((clause phrase statement).count '{' : Int) - (clause phrase statement).count '}' = -1 := by
  simp [clause, List.count_eq_zero.mpr first.2.1, List.count_eq_zero.mpr first.2.2,
    List.count_eq_zero.mpr second.2.1, List.count_eq_zero.mpr second.2.2]

section
variable {α : Type} (t : Tracker α) {phrase statement : List Char}

theorem foldlBraceReopener (braceless : Braceless phrase) :
    (reopener phrase).foldl brace t = t.pop.push := by
  obtain ⟨-, noOpen, noClose⟩ := braceless
  rw [reopener, List.foldl_cons, List.foldl_cons, List.foldl_append, foldlBraceNone _ noOpen noClose]
  rfl

theorem foldlBraceClause (first : Braceless phrase) (second : Braceless statement) :
    (clause phrase statement).foldl brace t = t.pop.push.pop := by
  obtain ⟨-, noOpen, noClose⟩ := first
  obtain ⟨-, noOpenThen, noCloseThen⟩ := second
  rw [clause, List.foldl_cons, List.foldl_cons, List.foldl_append, foldlBraceNone _ noOpen noClose,
    List.foldl_cons, List.foldl_cons, List.foldl_cons, List.foldl_append,
    foldlBraceNone _ noOpenThen noCloseThen]
  rfl

end

structure InBlock (s : Tracker Int) (saved : Int) (outer : List Int) : Prop where
  awaiting : s.awaiting = false
  pending : s.pending = 0
  frames : s.frames = saved :: outer
  unit : 0 ≤ s.unit
  deep : s.unit ≤ s.expected

def moved (s : Tracker Int) (levels : Int) : Tracker Int :=
  { s with expected := s.expected + levels * s.unit }

theorem movedNone (s : Tracker Int) : moved s 0 = s := by simp [moved]

def leftBlock (s : Tracker Int) (saved : Int) (outer : List Int) : Tracker Int :=
  { moved s (-1) with frames := outer, pending := saved }

section
variable {s : Tracker Int} {saved : Int} {outer : List Int} (inBlock : InBlock s saved outer)
include inBlock

theorem blockPop : (moved s (-1)).pop = leftBlock s saved outer := by
  simp [pop, moved, leftBlock, inBlock.frames]

theorem blockPopPush : s.pop.push = s := by
  obtain ⟨frames, pending, awaiting, expected, continuation, unit, unitFixed⟩ := s
  have saves : frames = saved :: outer := inBlock.frames
  have none : pending = 0 := inBlock.pending
  subst saves none
  rfl

theorem blockRelease : s.releasePending = s := by
  rw [releasePending, inBlock.pending]
  exact if_neg (Int.lt_irrefl 0)

theorem blockFeedBraces {text : List Char} (closes : (Text.trim text).head? = some '}') {levels : Int}
    (worth : (text.count '{' : Int) - text.count '}' = levels) (deep : 0 ≤ levels + 1) :
    s.feed text = (text.foldl brace (moved s levels)).settle text := by
  have inside := inBlock.deep
  have entered : Width.shift s.expected (-1) s.unit = s.expected + -1 * s.unit := by
    change max 0 (s.expected + -1 * s.unit) = _
    omega
  have left : Width.shift (s.expected + -1 * s.unit) (levels + 1) s.unit = s.expected + levels * s.unit := by
    have wide := Int.mul_nonneg deep inBlock.unit
    change max 0 (s.expected + -1 * s.unit + (levels + 1) * s.unit) = _
    rw [Int.add_mul] at wide ⊢
    omega
  have moves : (text.count '{' : Int) - text.count '}' +
      (if (Text.trim text).head? = some '}' then 1 else 0) = levels + 1 := by
    rw [if_pos closes, worth]
  have idle : (s.shift (-1)).awaiting = false := inBlock.awaiting
  rw [feed, enterIdle inBlock.awaiting inBlock.pending, if_pos closes, leaveIdle idle moves]
  simp only [shift, entered, left, moved]

theorem blockFeedReopener {phrase : List Char} (braceless : Braceless phrase) : s.feed (reopener phrase) = s := by
  have trimmed := trimBraced rfl (reopenerLast phrase) (.inl rfl)
  have last : (Text.trim (reopener phrase)).getLast? = some '{' := by rw [trimmed, reopenerLast]
  have worth : ((reopener phrase).count '{' : Int) - (reopener phrase).count '}' = 0 := by
    simp [reopener, List.count_eq_zero.mpr braceless.2.1, List.count_eq_zero.mpr braceless.2.2]
  rw [blockFeedBraces inBlock (by rw [trimmed]; rfl) worth (by omega), movedNone,
    foldlBraceReopener _ braceless, blockPopPush inBlock,
    settleReleases inBlock.awaiting (by simp [last, isEnd]) (.inr (.inl last)), blockRelease inBlock]

theorem blockFeedStatement {text : List Char} (braceless : Braceless text)
    (ended : (Text.trim text).getLast? = some ';') : s.feed text = s := by
  obtain ⟨-, noOpen, noClose⟩ := braceless
  have nonneg : 0 ≤ s.expected := Int.le_trans inBlock.unit inBlock.deep
  rw [feed, enterIdle inBlock.awaiting inBlock.pending, if_neg (Text.trimHeadNe noClose),
    leaveBraceless noOpen noClose inBlock.awaiting nonneg,
    settleReleases inBlock.awaiting (by simp [ended, isEnd]) (.inr (.inr ended)), blockRelease inBlock]

theorem blockFeedCloser : s.feed ['}'] = (leftBlock s saved outer).releasePending := by
  have idle : (leftBlock s saved outer).awaiting = false := inBlock.awaiting
  have plain : hasControlWord ['}'] = false := by decide
  have worth : ((['}'] : List Char).count '{' : Int) - (['}'] : List Char).count '}' = -1 := by simp
  have popped : ['}'].foldl brace (moved s (-1)) = leftBlock s saved outer := blockPop inBlock
  rw [blockFeedBraces inBlock (by decide) worth (by omega), popped,
    settleReleases idle (by decide) (.inl plain)]

theorem blockFeedClause {phrase statement : List Char} (first : Braceless phrase) (second : Braceless statement) :
    s.feed (clause phrase statement) = (leftBlock s saved outer).settle (clause phrase statement) := by
  have trimmed := trimBraced rfl (clauseLast phrase statement) (.inr rfl)
  have worth := clauseWorth first second
  have folded : (moved s (-1)).pop.push.pop = leftBlock s saved outer := by
    rw [blockPop inBlock]
    rfl
  rw [blockFeedBraces inBlock (by rw [trimmed]; rfl) worth (by omega), foldlBraceClause _ first second, folded]

/- The closer in front makes the braces of the line uneven, so it is no block of its own. Whether its
parentheses are balanced only decides what is waited for. -/
theorem blockSettleControl {phrase statement : List Char} (first : Braceless phrase)
    (second : Braceless statement) (control : hasControlWord (clause phrase statement) = true) :
    ((leftBlock s saved outer).settle (clause phrase statement)).awaiting = true := by
  have idle : (leftBlock s saved outer).awaiting = false := inBlock.awaiting
  have trimmed := trimBraced rfl (clauseLast phrase statement) (.inr rfl)
  have last : (Text.trim (clause phrase statement)).getLast? = some '}' := by rw [trimmed, clauseLast]
  have worth := clauseWorth first second
  cases balanced : parensBalanced (clause phrase statement) with
  | true =>
    rw [settleHeader idle control (by simp [last]) (by simp [last]) balanced (by omega)]
  | false =>
    rw [settleWrappedHeader idle control (by simp [last]) (by simp [last]) balanced]
    rfl

theorem blockSettlePlain {phrase statement : List Char}
    (plain : hasControlWord (clause phrase statement) = false) :
    (leftBlock s saved outer).settle (clause phrase statement) = (leftBlock s saved outer).releasePending := by
  have idle : (leftBlock s saved outer).awaiting = false := inBlock.awaiting
  have trimmed := trimBraced rfl (clauseLast phrase statement) (.inr rfl)
  rw [settleReleases idle (by simp [trimmed, clauseLast, isEnd]) (.inl plain)]

theorem blockRunLines {phrase statement : List Char} (first : Braceless phrase) (second : Braceless statement)
    (ended : (Text.trim statement).getLast? = some ';') :
    s.run [reopener phrase, statement, ['}']] = (leftBlock s saved outer).releasePending := by
  change ((s.feed (reopener phrase)).feed statement).feed ['}'] = _
  rw [blockFeedReopener inBlock first, blockFeedStatement inBlock second ended, blockFeedCloser inBlock]

theorem leftBlockIdle : (leftBlock s saved outer).releasePending.awaiting = false := by
  unfold releasePending
  split
  · exact inBlock.awaiting
  · exact inBlock.awaiting

end

structure Agrees (t other : Tracker Int) : Prop where
  expected : other.expected = t.expected
  frames : other.frames = t.frames
  pending : other.pending = t.pending
  awaiting : other.awaiting = t.awaiting

theorem clauseOnOneLine {s : Tracker Int} (idle : s.awaiting = false) (none : s.pending = 0)
    (nonempty : s.frames ≠ []) (unit : 0 ≤ s.unit) (deep : s.unit ≤ s.expected) {phrase statement : List Char}
    (first : Braceless phrase) (second : Braceless statement) (ended : statement.getLast? = some ';') :
    let lines := [reopener phrase, statement, ['}']]
    (∀ line ∈ clause phrase statement :: lines, ∀ tab index, (Line.read tab false index line).1.visible = line) ∧
      (Agrees (s.run lines) (s.feed (clause phrase statement)) ↔
        hasControlWord phrase = false ∧ hasControlWord statement = false) ∧
      (s.feed (clause phrase statement)).awaiting = (hasControlWord phrase || hasControlWord statement) := by
  intro lines
  obtain ⟨saved, outer, frames⟩ := List.exists_cons_of_ne_nil nonempty
  have inBlock : InBlock s saved outer := ⟨idle, none, frames, unit, deep⟩
  have last : (Text.trim statement).getLast? = some ';' := Text.trimLast ended (by decide)
  have apart := blockRunLines inBlock first second last
  have single := blockFeedClause inBlock first second
  have waits : (s.feed (clause phrase statement)).awaiting = (hasControlWord phrase || hasControlWord statement) := by
    rw [single, ← controlClause]
    cases control : hasControlWord (clause phrase statement) with
    | true => exact blockSettleControl inBlock first second control
    | false => rw [blockSettlePlain inBlock control, leftBlockIdle inBlock]
  refine ⟨?_, ?_, waits⟩
  · intro line mem tab index
    have signs : Text.isBlank '{' = false ∧ Text.isBlank '}' = false ∧ Text.isBlank ';' = false := by decide
    simp only [lines, List.mem_cons, List.not_mem_nil, or_false] at mem
    rcases mem with rfl | rfl | rfl | rfl
    · exact Source.readPlain tab index (clausePlain first.1 second.1) (clauseLast phrase statement) signs.2.1
    · exact Source.readPlain tab index (reopenerPlain first.1) (reopenerLast phrase) signs.1
    · exact Source.readPlain tab index second.1 ended signs.2.2
    · exact Source.readPlain tab index (plainSigns (by simp)) rfl signs.2.1
  · rw [← Bool.or_eq_false_iff, ← waits]
    constructor
    · intro agrees
      rw [agrees.awaiting, apart, leftBlockIdle inBlock]
    · intro quiet
      rw [waits, ← controlClause] at quiet
      rw [apart, single, blockSettlePlain inBlock quiet]
      exact ⟨rfl, rfl, rfl, rfl⟩

def inHandler : Tracker Int :=
  { frames := [1, 0], pending := 0, awaiting := false, expected := 12, continuation := 0, unit := 4,
    unitFixed := true }

theorem handlerOnOneLine :
    let phrase := "catch (E e)".toList
    let statement := "y();".toList
    hasControlWord phrase = false ∧ hasControlWord statement = false ∧
      Agrees (inHandler.run [reopener phrase, statement, ['}']]) (inHandler.feed (clause phrase statement)) := by
  intro phrase statement
  have first : Braceless phrase := by decide
  have second : Braceless statement := by decide
  have quiet : hasControlWord phrase = false ∧ hasControlWord statement = false := by decide
  have same := clauseOnOneLine (s := inHandler) rfl rfl (by simp [inHandler]) (by decide) (by decide) first second rfl
  exact ⟨quiet.1, quiet.2, same.2.1.mpr quiet⟩

/- The one line is taken for a header. -/
theorem alternativeOnOneLineAwaits :
    let start : Tracker Int := { inHandler with frames := [0], expected := 4 }
    let phrase := "else".toList
    let statement := "x();".toList
    Braceless phrase ∧ parensBalanced phrase = true ∧ Braceless statement ∧ statement.getLast? = some ';' ∧
      start.run [reopener phrase, statement, ['}']] = { start with frames := [], expected := 0 } ∧
      start.feed (clause phrase statement) =
        { start with frames := [], expected := 0, pending := 1, awaiting := true } := by
  refine ⟨?_, ?_, ?_, ?_, ?_, ?_⟩
  all_goals decide

end IndentLint.Layout.Tracker
