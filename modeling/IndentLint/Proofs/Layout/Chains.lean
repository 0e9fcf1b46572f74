import IndentLint.Proofs.Layout.Depth
import IndentLint.Proofs.Layout.Resync

/-! Headers without braces before the line that is their body. The body gives all their levels back, unless
it is a control statement with its block on the same line: such a line is taken for neither a header nor the
end of a statement, and the headers before it go on waiting. -/
namespace IndentLint.Layout.Tracker

def IsHeader (text : List Char) : Prop :=
  hasControlWord text = true ∧ parensBalanced text = true ∧ '{' ∉ text ∧ '}' ∉ text ∧
    (Text.trim text).getLast? ≠ some ';'

def IsBody (text : List Char) : Prop :=
  ((Text.trim text).getLast? = some ';' ∨ (Text.trim text).getLast? = some '}') ∧ Matched text ∧
    text.count '{' = text.count '}'

instance decidableIsHeader (text : List Char) : Decidable (IsHeader text) :=
  inferInstanceAs (Decidable (_ ∧ _))

instance decidableIsBody (text : List Char) : Decidable (IsBody text) :=
  inferInstanceAs (Decidable (_ ∧ _))

structure Restored (s t : Tracker Int) : Prop where
  frames : t.frames = s.frames
  expected : t.expected = s.expected
  pending : t.pending = 0
  awaiting : t.awaiting = false

section
variable {s : Tracker Int} (atRest : AtRest s)
include atRest

theorem restFeedHeader {text : List Char} (isHeader : IsHeader text) :
    s.feed text = afterHeader s 0 s.continuation := by
  obtain ⟨control, balanced, noOpen, noClose, unended⟩ := isHeader
  have entered := belowNoneEnter noClose atRest s.continuation
  have left := belowLeaveHeader atRest noOpen noClose 0 s.continuation control balanced unended
  rw [belowNone atRest] at entered left
  rw [feed, entered, left]

theorem afterHeaderFeedHeader {text : List Char} (isHeader : IsHeader text) (headers : Nat)
    (continuation : Int) :
    (afterHeader s headers continuation).feed text = afterHeader s (headers + 1) continuation := by
  obtain ⟨control, balanced, noOpen, noClose, unended⟩ := isHeader
  rw [feed, afterHeaderEnter noClose atRest noOpen]
  exact belowLeaveHeader atRest noOpen noClose _ continuation control balanced unended

theorem headersRun (headers : List (List Char)) (header : List Char)
    (each : ∀ line ∈ headers ++ [header], IsHeader line) :
    s.run (headers ++ [header]) = afterHeader s headers.length s.continuation := by
  induction headers using List.reverseRecOn generalizing header with
  | nil => exact restFeedHeader atRest (each header (by simp))
  | append_singleton headers last ih =>
    have earlier := ih last fun line mem => each line (List.mem_append_left [header] mem)
    rw [runConcat, earlier, List.length_append, List.length_singleton]
    exact afterHeaderFeedHeader atRest (each header (by simp)) _ _

end

section
variable {s : Tracker Int} (atRest : AtRest s) (headers : Nat) (continuation : Int)
include atRest

theorem restoredBelow : Restored s (below s headers continuation) ↔ headers = 0 := by
  constructor
  · intro restored
    exact Int.natCast_eq_zero.mp restored.pending
  · intro none
    subst none
    exact ⟨rfl, by simp [below], rfl, atRest.awaiting⟩

end

section
variable {text : List Char} (isBody : IsBody text)
include isBody

theorem bodyUnclosed : (Text.trim text).head? ≠ some '}' := by
  intro closes
  have deep : 1 ≤ unmatched [] := unmatchedLeading isBody.2.1 closes
  exact absurd deep (by decide)

theorem bodyUnmatched : unmatched text = 0 := by
  rw [unmatched, isBody.2.2, Nat.sub_self]

theorem bodyEnded : isEnd (Text.trim text).getLast? = true := by
  rcases isBody.1 with last | last
  · simp [last, isEnd]
  · simp [last, isEnd]

end

/- A brace at the start of the body belongs to the last header, whose level is then not counted. -/
def levelsAbove (headers : Nat) (text : List Char) : Nat :=
  if (Text.trim text).head? = some '{' then headers - 1 else headers

theorem levelsAboveNone (headers : Nat) (text : List Char) :
    levelsAbove (headers + 1) text = 0 ↔ (Text.trim text).head? = some '{' ∧ headers + 1 = 1 := by
  unfold levelsAbove
  split
  · rename_i opens
    simp [opens]
  · rename_i other
    simp [other]

section
variable {s : Tracker Int} (atRest : AtRest s) {text : List Char} (isBody : IsBody text) (headers : Nat)
  (continuation : Int)
include atRest isBody

theorem bodyEnter : (afterHeader s headers continuation).enter text =
    below s (levelsAbove (headers + 1) text) continuation := by
  have unclosed := bodyUnclosed isBody
  by_cases opens : (Text.trim text).head? = some '{'
  · have idle := atRest.awaiting
    simp only [enter, levelsAbove, opens, afterHeader, below]
    simp [idle]
  · rw [levelsAbove, if_neg opens]
    exact afterHeaderEnterBody atRest unclosed opens headers continuation

theorem bodyLeave :
    (below s headers continuation).leave text = (below s headers continuation).settle text := by
  have moves : (text.count '{' : Int) - text.count '}' +
      (if (Text.trim text).head? = some '}' then 1 else 0) = 0 := by
    rw [if_neg (bodyUnclosed isBody), isBody.2.2]
    omega
  rw [leaveIdle (belowIdle atRest headers continuation) moves,
    shiftNone (belowNonneg atRest headers continuation), foldlBraceMatched _ isBody.2.1,
    bodyUnmatched isBody]
  rfl

theorem bodyReleases (nothingWaits : hasControlWord text = false ∨ (Text.trim text).getLast? = some ';') :
    (below s headers continuation).leave text = below s 0 continuation := by
  rw [bodyLeave atRest isBody, settleReleases (belowIdle atRest headers continuation) (bodyEnded isBody)
    (nothingWaits.imp_right .inr)]
  exact belowRelease atRest headers continuation

section
variable (control : hasControlWord text = true) (closed : (Text.trim text).getLast? = some '}')
include control closed

theorem bodyInline (balanced : parensBalanced text = true) :
    (below s headers continuation).leave text = below s headers continuation := by
  have closes : 0 < text.count '}' := by
    rw [List.count_pos_iff]
    by_contra absent
    exact Text.trimLastNe absent closed
  have idle := belowIdle atRest headers continuation
  rw [bodyLeave atRest isBody]
  simp [settle, idle, control, closed, balanced, isBody.2.2, closes]

theorem bodyWrapped (unbalanced : parensBalanced text = false) :
    (below s headers continuation).leave text = (below s headers continuation).openContinuation := by
  have idle := belowIdle atRest headers continuation
  rw [bodyLeave atRest isBody, settleWrappedHeader idle control (by simp [closed]) (by simp [closed]) unbalanced]

end

theorem bodyRestores : Restored s ((below s headers continuation).leave text) ↔
    (hasControlWord text = true → (Text.trim text).getLast? = some '}' →
      parensBalanced text = true ∧ headers = 0) := by
  by_cases waits : hasControlWord text = true ∧ (Text.trim text).getLast? = some '}'
  · obtain ⟨control, closed⟩ := waits
    cases balanced : parensBalanced text with
    | true =>
      rw [bodyInline atRest isBody _ _ control closed balanced, restoredBelow atRest]
      simp [control, closed]
    | false =>
      have waiting : ¬ Restored s (below s headers continuation).openContinuation := by
        intro restored
        exact absurd restored.awaiting (by simp [openContinuation, push])
      rw [bodyWrapped atRest isBody _ _ control closed balanced]
      simp [control, closed, waiting]
  · have nothingWaits : hasControlWord text = false ∨ (Text.trim text).getLast? = some ';' := by
      rcases isBody.1 with last | last
      · exact .inr last
      · exact .inl (by simpa [last] using waits)
    rw [bodyReleases atRest isBody _ _ nothingWaits, restoredBelow atRest]
    exact ⟨fun _ control closed => absurd ⟨control, closed⟩ waits, fun _ => rfl⟩

end

theorem chainEndsWithItsBody {s : Tracker Int} (atRest : AtRest s) (headers : List (List Char))
    (nonempty : headers ≠ []) (each : ∀ header ∈ headers, IsHeader header) (body : List Char)
    (isBody : IsBody body) :
    Restored s (s.run (headers ++ [body])) ↔
      (hasControlWord body = true → (Text.trim body).getLast? = some '}' →
        parensBalanced body = true ∧ (Text.trim body).head? = some '{' ∧ headers.length = 1) := by
  obtain ⟨init, header, parts⟩ := (List.eq_nil_or_concat' headers).resolve_left nonempty
  subst parts
  rw [runConcat, headersRun atRest init header each, feed, bodyEnter atRest isBody,
    bodyRestores atRest isBody, levelsAboveNone, List.length_append, List.length_singleton]

def blockTracker : Tracker Int := { frames := [0], expected := 4, continuation := 0, unit := 4 }

def loopedCondition : List (List Char) := ["for (;;)".toList, "if (x)".toList]

def nestedCall : List Char := "f(new A() \x7b int x; \x7d);".toList

theorem nestedCallEndsItsChain :
    AtRest blockTracker ∧ (∀ header ∈ loopedCondition, IsHeader header) ∧ IsBody nestedCall ∧
      Restored blockTracker (blockTracker.run (loopedCondition ++ [nestedCall])) := by
  have atRest : AtRest blockTracker := ⟨rfl, rfl, by decide, by decide⟩
  have each : ∀ header ∈ loopedCondition, IsHeader header := by decide
  have isBody : IsBody nestedCall := by decide
  have ends := chainEndsWithItsBody atRest loopedCondition (by decide) each nestedCall isBody
  exact ⟨atRest, each, isBody, ends.mpr (by decide)⟩

/- A loop over a control statement with its block on one line: the level of the loop is never given back. -/
theorem inlineBlockHoldsItsHeader :
    AtRest blockTracker ∧ IsHeader "for (;;)".toList ∧ IsBody "if (b) \x7b x(); \x7d".toList ∧
      let after := blockTracker.run ["for (;;)".toList, "if (b) \x7b x(); \x7d".toList]
      after.frames = blockTracker.frames ∧ after.awaiting = false ∧ after.pending = 1 ∧
        after.expected = blockTracker.expected + 4 := by
  exact ⟨⟨rfl, rfl, by decide, by decide⟩, by decide, by decide, by decide⟩

end IndentLint.Layout.Tracker
