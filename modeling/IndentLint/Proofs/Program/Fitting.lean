import IndentLint.Proofs.Program.States
import IndentLint.Proofs.Tracking

/-! Every part of a program that is laid out well fits the tracker, which is then where it was
before the part, less the headers that waited for it. -/
namespace IndentLint.Program
open Layout (Tracker hasControlWord parensBalanced)
open Layout.Tracker
open Report (direction)

inductive Fits : Tracker Int → List Row → Tracker Int → Prop where
  | nil (t : Tracker Int) : Fits t [] t
  | cons {t row rest last} (aligned : direction row.columns (t.enter row.text).target = .aligned)
      (next : Fits ((t.enter row.text).leave row.text) rest last) : Fits t (row :: rest) last

theorem fitsAppend {t middle last : Tracker Int} {first second : List Row} (left : Fits t first middle)
    (right : Fits middle second last) : Fits t (first ++ second) last := by
  induction left with
  | nil t => exact right
  | cons aligned next ih => exact .cons aligned (ih right)

structure Tidy (text : List Char) : Prop where
  nonempty : text ≠ []
  plain : Source.Plain text
  starts : ∀ c ∈ text.head?, Text.isBlank c = false ∧ c ≠ '@'
  stops : ∀ c ∈ text.getLast?, Text.isBlank c = false

theorem tidyTrim {text : List Char} (tidy : Tidy text) : Text.trim text = text :=
  Text.trimOfEnds (fun c head => (tidy.starts c head).1) tidy.stops

theorem notReserved (p : Phrase) {c : Char} (r : c ∈ reserved) : c ∉ p.chars :=
  fun mem => p.clean c mem r

theorem phraseTidy (p : Phrase) : Tidy p.chars := by
  refine ⟨p.nonempty, ?_, ?_, p.stops⟩
  · intro c mem
    have clean := p.clean c mem
    simp only [reserved, List.mem_cons, not_or] at clean
    exact ⟨clean.2.2.1, clean.2.2.2.1, clean.2.2.2.2.1, clean.2.2.2.2.2.2.1⟩
  · intro c head
    refine ⟨p.starts c head, ?_⟩
    rintro rfl
    exact notReserved p (by decide) (List.mem_of_head? head)

theorem tidyBrace {c : Char} (brace : c = '{' ∨ c = '}') : Tidy [c] := by
  rcases brace with rfl | rfl <;>
    exact ⟨by decide, by unfold Source.Plain; decide, by decide, by decide⟩

theorem tidyOpen {text : List Char} (tidy : Tidy text) : Tidy (text ++ [' ', '{']) := by
  refine ⟨by simp, ?_, ?_, ?_⟩
  · intro c mem
    rcases List.mem_append.mp mem with inText | ends
    · exact tidy.plain c inText
    · simp only [List.mem_cons, List.not_mem_nil, or_false] at ends
      rcases ends with rfl | rfl <;> decide
  · intro c head
    refine tidy.starts c ?_
    rwa [List.head?_append_of_ne_nil _ tidy.nonempty] at head
  · simp
    decide

theorem tidyClose {text : List Char} (tidy : Tidy text) : Tidy ('}' :: ' ' :: text) := by
  refine ⟨by simp, ?_, by simp; decide, ?_⟩
  · intro c mem
    rcases List.mem_cons.mp mem with rfl | mem
    · decide
    rcases List.mem_cons.mp mem with rfl | mem
    · decide
    · exact tidy.plain c mem
  · intro c last
    refine tidy.stops c ?_
    rwa [List.getLast?_cons_of_ne_nil (by simp), List.getLast?_cons_of_ne_nil tidy.nonempty] at last

theorem codeTidy {part : Part} (code : Code part) (u d : Nat) : ∀ row ∈ code.rows u d, Tidy row.text := by
  induction code generalizing d with
  | statement text => simpa [Code.rows] using phraseTidy text.toPhrase
  | block head body rest bodyTidy restTidy =>
    simp only [Code.rows, List.forall_mem_cons, List.forall_mem_append]
    exact ⟨tidyOpen (phraseTidy head), bodyTidy (d + 1), restTidy d⟩
  | allman head body bodyTidy =>
    simp only [Code.rows, List.forall_mem_cons, List.forall_mem_append]
    exact ⟨phraseTidy head.toPhrase, tidyBrace (.inl rfl), bodyTidy (d + 1), tidyBrace (.inr rfl),
      by simp⟩
  | unbraced head body bodyTidy =>
    simp only [Code.rows, List.forall_mem_cons]
    exact ⟨phraseTidy head.toPhrase, bodyTidy (d + 1)⟩
  | wrapped first middle more last =>
    simp only [Code.rows, List.forall_mem_cons, List.forall_mem_append, List.forall_mem_map]
    exact ⟨phraseTidy first.toPhrase, fun line _ => phraseTidy line.2.toPhrase,
      phraseTidy last.toPhrase, by simp⟩
  | empty => simp [Code.rows]
  | items first rest firstTidy restTidy =>
    simp only [Code.rows, List.forall_mem_append]
    exact ⟨firstTidy d, restTidy d⟩
  | close => simpa [Code.rows] using tidyBrace (.inr rfl)
  | closeWith text => simpa [Code.rows] using tidyClose (phraseTidy text.toPhrase)
  | reopen middle body rest bodyTidy restTidy =>
    simp only [Code.rows, List.forall_mem_cons, List.forall_mem_append]
    exact ⟨tidyClose (tidyOpen (phraseTidy middle)), bodyTidy (d + 1), restTidy d⟩

def Starts (u : Nat) : Part → Nat → Nat → List Int → Tracker Int → Prop
  | .item, d, k, saved, t => Ready u d k saved t
  | .body, d, _, saved, t => Inside u d 0 saved t
  | .closing, d, k, saved, t => Inside u (d + 1) 0 ((k : Int) :: saved) t

def Ends (u : Nat) : Part → Nat → Nat → List Int → Tracker Int → Prop
  | .item, d, k, saved, t => Inside u (d - k) 0 saved t
  | .body, d, _, saved, t => Inside u d 0 saved t
  | .closing, d, k, saved, t => Inside u (d - k) 0 saved t

section
variable {u d k : Nat} {saved : List Int} {t : Tracker Int} {rest : List Row} {last : Tracker Int}

theorem insideFits {text : List Char} (inside : Inside u d k saved (t.enter text))
    (next : Fits ((t.enter text).leave text) rest last) : Fits t (⟨d * u, text⟩ :: rest) last := by
  refine .cons ?_ next
  rw [insideTarget inside, alignedIff]
  rfl

theorem phraseEnter (ready : Ready u d k saved t) (p : Phrase) : Inside u d k saved (t.enter p.chars) :=
  readyEnter ready (Text.trimHeadNe (notReserved p (by decide))) (Text.trimHeadNe (notReserved p (by decide)))

theorem openerTrim (head : Phrase) : Text.trim (opener head) = opener head :=
  tidyTrim (tidyOpen (phraseTidy head))

theorem openerFirst (head : Phrase) {c : Char} (r : c ∈ reserved) :
    (Text.trim (opener head)).head? ≠ some c := by
  intro found
  rw [openerTrim, opener, List.head?_append_of_ne_nil _ head.nonempty] at found
  exact notReserved head r (List.mem_of_head? found)

theorem openerSplit (head : Phrase) : opener head = (head.chars ++ [' ']) ++ ['{'] := by simp [opener]

theorem phraseSpaced (p : Phrase) {c : Char} (r : c ∈ reserved) (visible : c ≠ ' ') :
    c ∉ p.chars ++ [' '] := by
  simp [notReserved p r, visible]

theorem openerEnter (ready : Ready u d k saved t) (head : Phrase) :
    Inside u d k saved (t.enter (opener head)) :=
  readyEnter ready (openerFirst head (by decide)) (openerFirst head (by decide))

theorem openerLeave (inside : Inside u d k saved t) (head : Phrase) :
    Inside u (d + 1) 0 ((k : Int) :: saved) (t.leave (opener head)) := by
  have first := openerFirst head (show '}' ∈ reserved by decide)
  have opened : (Text.trim (opener head)).getLast? = some '{' := by
    rw [openerTrim, openerSplit, List.getLast?_concat]
  rw [openerSplit] at first opened ⊢
  exact insideLeaveOpener _ inside (phraseSpaced head (by decide) (by decide))
    (phraseSpaced head (by decide) (by decide)) opened first

theorem closerEnter (inside : Inside u (d + 1) 0 saved t) {text : List Char} (tidy : Tidy ('}' :: text)) :
    Inside u d 0 saved (t.enter ('}' :: text)) :=
  insideEnterCloser inside (by rw [tidyTrim tidy]; rfl)

theorem closeLeave (inside : Inside u d 0 ((k : Int) :: saved) t) (deep : k ≤ d) :
    Inside u (d - k) 0 saved (t.leave ['}']) :=
  insideLeaveCloser inside deep (by decide) (by decide) (by decide) (by decide) (.inl (by decide))

theorem closeWithLeave (inside : Inside u d 0 ((k : Int) :: saved) t) (deep : k ≤ d) (text : Statement) :
    Inside u (d - k) 0 saved (t.leave ('}' :: ' ' :: text.chars)) := by
  have trim := tidyTrim (tidyClose (phraseTidy text.toPhrase))
  have ended : (Text.trim ('}' :: ' ' :: text.chars)).getLast? = some ';' := by
    rw [trim, List.getLast?_cons_of_ne_nil (by simp), List.getLast?_cons_of_ne_nil text.nonempty]
    exact text.ended
  refine insideLeaveCloser inside deep ?_ ?_ (by rw [trim]; rfl) (by simp [isEnd, ended]) (.inr ended)
  · simp [notReserved text.toPhrase (show '{' ∈ reserved by decide)]
  · simp [notReserved text.toPhrase (show '}' ∈ reserved by decide)]

theorem reopenerLeave (inside : Inside u d 0 ((k : Int) :: saved) t) (middle : Phrase) :
    Inside u (d + 1) 0 ((k : Int) :: saved) (t.leave ('}' :: ' ' :: opener middle)) := by
  have trim := tidyTrim (tidyClose (tidyOpen (phraseTidy middle)))
  have split : ' ' :: opener middle = (' ' :: (middle.chars ++ [' '])) ++ ['{'] := by simp [opener]
  rw [← opener, split] at trim
  rw [split]
  refine insideLeaveReopener inside ?_ ?_ (by rw [trim]; rfl) ?_
  · simp [notReserved middle (show '{' ∈ reserved by decide)]
  · simp [notReserved middle (show '}' ∈ reserved by decide)]
  · rw [trim, ← List.cons_append, List.getLast?_concat]

theorem continuingFits {text : List Char} (continuing : Continuing u d k saved t) (noOpen : '{' ∉ text)
    (noClose : '}' ∉ text) (more : Nat) (next : Fits (t.leave text) rest last) :
    Fits t (⟨d * u + more, text⟩ :: rest) last := by
  have same := continuingEnter continuing (Text.trimHeadNe noClose) (Text.trimHeadNe noOpen)
  refine .cons ?_ (by rwa [same])
  rw [same, continuingTarget continuing, alignedIff]
  exact Int.ofNat_le.mpr (Nat.le_add_right (d * u) more)

theorem continuationFits (continuing : Continuing u d k saved t) (deep : k ≤ d)
    (middle : List (Nat × Unended)) (more : Nat) (final : Statement) :
    ∃ last, Fits t (middle.map (fun line => ⟨d * u + line.1, line.2.chars⟩) ++
      [⟨d * u + more, final.chars⟩]) last ∧ Inside u (d - k) 0 saved last := by
  have braceless : ∀ p : Phrase, '{' ∉ p.chars ∧ '}' ∉ p.chars := fun p =>
    ⟨notReserved p (by decide), notReserved p (by decide)⟩
  induction middle with
  | nil =>
    obtain ⟨noOpen, noClose⟩ := braceless final.toPhrase
    have ended : (Text.trim final.chars).getLast? = some ';' := by
      rw [tidyTrim (phraseTidy final.toPhrase)]
      exact final.ended
    exact ⟨_, continuingFits continuing noOpen noClose more (.nil _),
      continuingLeaveLast continuing deep noOpen noClose ended⟩
  | cons line rest ih =>
    obtain ⟨last, fits, inside⟩ := ih
    obtain ⟨noOpen, noClose⟩ := braceless line.2.toPhrase
    have unended : (Text.trim line.2.chars).getLast? ≠ some ';' := by
      rw [tidyTrim (phraseTidy line.2.toPhrase)]
      exact line.2.unended
    have stays := continuingLeave continuing noOpen noClose unended
    exact ⟨last, continuingFits continuing noOpen noClose line.1 (by rwa [stays]), inside⟩

theorem statementLeave (inside : Inside u d k saved t) (deep : k ≤ d) (text : Statement) :
    Inside u (d - k) 0 saved (t.leave text.chars) := by
  refine insideLeaveStatement inside deep (notReserved text.toPhrase (by decide))
    (notReserved text.toPhrase (by decide)) ?_
  rw [tidyTrim (phraseTidy text.toPhrase)]
  exact text.ended

theorem headerLeave (inside : Inside u d k saved t) (head : Header) :
    Waiting u d k saved (t.leave head.chars) := by
  have balanced : parensBalanced head.chars = true := by simp [parensBalanced, head.balanced]
  refine insideLeaveHeader inside (notReserved head.toPhrase (by decide))
    (notReserved head.toPhrase (by decide)) head.control balanced ?_
  rw [tidyTrim (phraseTidy head.toPhrase)]
  exact head.unended

theorem openingLeave (inside : Inside u d k saved t) (first : Opening) :
    Continuing u d k saved (t.leave first.chars) := by
  have trim := tidyTrim (phraseTidy first.toPhrase)
  have noHeader : hasControlWord first.chars = false ∨ parensBalanced first.chars = false := by
    simpa [parensBalanced] using first.noHeader
  refine insideLeaveOpening inside (notReserved first.toPhrase (by decide))
    (notReserved first.toPhrase (by decide)) ?_ noHeader ?_
  · rw [trim]
    exact first.unended
  · rw [trim]
    simpa using first.noList

end

theorem codeFits {part : Part} (u : Nat) (code : Code part) {d k : Nat} {saved : List Int}
    {t : Tracker Int} (deep : k ≤ d) (starts : Starts u part d k saved t) :
    ∃ last, Fits t (code.rows u d) last ∧ Ends u part d k saved last := by
  induction code generalizing d k saved t with
  | statement text =>
    have entered := phraseEnter starts text.toPhrase
    exact ⟨_, insideFits entered (.nil _), statementLeave entered deep text⟩
  | block head body rest bodyFits restFits =>
    have entered := openerEnter starts head
    obtain ⟨middle, first, inside⟩ := bodyFits (Nat.zero_le (d + 1)) (openerLeave entered head)
    obtain ⟨last, second, ends⟩ := restFits deep inside
    exact ⟨last, insideFits entered (fitsAppend first second), ends⟩
  | allman head body bodyFits =>
    have entered := phraseEnter starts head.toPhrase
    have below := waitingEnterBrace (headerLeave entered head)
    have opened := insideLeaveOpener [] below (by decide) (by decide) (by decide) (by decide)
    obtain ⟨middle, first, inside⟩ := bodyFits (Nat.zero_le (d + 1)) opened
    have closing := closerEnter inside (tidyBrace (.inr rfl))
    refine ⟨_, insideFits entered (insideFits below (fitsAppend first
      (insideFits closing (.nil _)))), closeLeave closing deep⟩
  | unbraced head body bodyFits =>
    have entered := phraseEnter starts head.toPhrase
    obtain ⟨last, first, ends⟩ :=
      bodyFits (Nat.succ_le_succ deep) (.headers (headerLeave entered head))
    refine ⟨last, insideFits entered first, ?_⟩
    have same : d + 1 - (k + 1) = d - k := Nat.add_sub_add_right d 1 k
    simpa [Ends, same] using ends
  | wrapped first middle more final =>
    have entered := phraseEnter starts first.toPhrase
    obtain ⟨last, fits, inside⟩ :=
      continuationFits (openingLeave entered first) deep middle more final
    exact ⟨last, insideFits entered fits, inside⟩
  | empty => exact ⟨t, .nil t, starts⟩
  | items first rest firstFits restFits =>
    obtain ⟨middle, fits, inside⟩ := firstFits (Nat.zero_le d) (.level starts)
    obtain ⟨last, more, ends⟩ := restFits (Nat.zero_le d) inside
    exact ⟨last, fitsAppend fits more, ends⟩
  | close =>
    have closing := closerEnter starts (tidyBrace (.inr rfl))
    exact ⟨_, insideFits closing (.nil _), closeLeave closing deep⟩
  | closeWith text =>
    have closing := closerEnter starts (tidyClose (phraseTidy text.toPhrase))
    exact ⟨_, insideFits closing (.nil _), closeWithLeave closing deep text⟩
  | reopen middle body rest bodyFits restFits =>
    have closing := closerEnter starts (tidyClose (tidyOpen (phraseTidy middle)))
    obtain ⟨after, first, inside⟩ := bodyFits (Nat.zero_le (d + 1)) (reopenerLeave closing middle)
    obtain ⟨last, second, ends⟩ := restFits deep inside
    exact ⟨last, insideFits closing (fitsAppend first second), ends⟩

end IndentLint.Program
