import IndentLint.Proofs.Layout.Tracker
import Mathlib.Data.List.Infix

/-! How deep the braces of a text lead. The tracker keeps the depth twice: as a width, moved once for all
the braces of a line, and as frames, saved and restored brace by brace. As long as every closer has an
opener and no statement is left open, the two stay in step. -/
namespace IndentLint.Layout

def Matched (text : List Char) : Prop := ∀ part, part <+: text → part.count '}' ≤ part.count '{'

def unmatched (text : List Char) : Nat := text.count '{' - text.count '}'

instance decidableMatched (text : List Char) : Decidable (Matched text) :=
  decidable_of_iff (∀ part ∈ text.inits, part.count '}' ≤ part.count '{') (by simp only [Matched, List.mem_inits])

theorem matchedBefore {text more : List Char} (matched : Matched (text ++ more)) : Matched text := by
  intro part begins
  exact matched part (begins.trans (List.prefix_append text more))

theorem unmatchedCount {text : List Char} (matched : Matched text) :
    (unmatched text : Int) = text.count '{' - text.count '}' := by
  have fewer := matched text List.prefix_rfl
  unfold unmatched
  omega

theorem unmatchedAppend {text more : List Char} (matched : Matched (text ++ more)) :
    (unmatched (text ++ more) : Int) = unmatched text + (more.count '{' - more.count '}') := by
  rw [unmatchedCount matched, unmatchedCount (matchedBefore matched), List.count_append, List.count_append]
  omega

theorem unmatchedLeading {before text : List Char} (matched : Matched (before ++ text))
    (closes : (Text.trim text).head? = some '}') : 1 ≤ unmatched before := by
  obtain ⟨blanks, rest, parts, blank⟩ := Text.trimHeadSplit closes
  have begins : before ++ (blanks ++ ['}']) <+: before ++ text := by
    rw [parts]
    exact (List.prefix_append_right_inj before).mpr ⟨rest, by simp⟩
  have noOpen : '{' ∉ blanks := fun mem => absurd (blank '{' mem) (by decide)
  have opens : (before ++ (blanks ++ ['}'])).count '{' = before.count '{' := by
    simp [List.count_eq_zero.mpr noOpen]
  have more : before.count '}' + 1 ≤ (before ++ (blanks ++ ['}'])).count '}' := by
    simp [← Nat.add_assoc]
  have fewer := matched _ begins
  unfold unmatched
  omega

namespace Tracker

section
variable {α : Type}

/- A tracker below so many openers. The first one has saved what waited for it; below it nothing waits. -/
def opened (t : Tracker α) : Nat → Tracker α
  | 0 => t
  | n + 1 => { t with frames := List.replicate n 0 ++ t.pending :: t.frames, pending := 0 }

theorem openedPush (t : Tracker α) (n : Nat) : (opened t n).push = opened t (n + 1) := by
  cases n with
  | zero => rfl
  | succ n => rfl

theorem openedPop (t : Tracker α) (n : Nat) : (opened t (n + 1)).pop = opened t n := by
  cases n with
  | zero => rfl
  | succ n => rfl

theorem foldlBraceMatched (t : Tracker α) {text : List Char} (matched : Matched text) :
    text.foldl brace t = opened t (unmatched text) := by
  induction text using List.reverseRecOn with
  | nil => rfl
  | append_singleton text c ih =>
    have earlier := matchedBefore matched
    have moved := unmatchedAppend matched
    rw [List.foldl_concat, ih earlier, brace]
    by_cases opens : c = '{'
    · subst opens
      have deeper : unmatched (text ++ ['{']) = unmatched text + 1 := by
        simp at moved
        omega
      rw [if_pos rfl, openedPush, deeper]
    · by_cases closes : c = '}'
      · subst closes
        have higher : unmatched text = unmatched (text ++ ['}']) + 1 := by
          simp at moved
          omega
        rw [if_neg opens, if_pos rfl, higher, openedPop]
      · have same : unmatched (text ++ [c]) = unmatched text := by
          simp [opens, closes] at moved
          omega
        rw [if_neg opens, if_neg closes, same]

theorem foldlBraceBehind (t : Tracker α) {before text : List Char} (matched : Matched (before ++ text)) :
    text.foldl brace (opened t (unmatched before)) = opened t (unmatched (before ++ text)) := by
  rw [← foldlBraceMatched t matched, List.foldl_append, foldlBraceMatched t (matchedBefore matched)]

end

def Complete (text : List Char) : Prop :=
  isEnd (Text.trim text).getLast? = true ∧ (hasControlWord text = true →
    (Text.trim text).getLast? = some '{' ∨ (Text.trim text).getLast? = some ';')

instance decidableComplete (text : List Char) : Decidable (Complete text) :=
  inferInstanceAs (Decidable (_ ∧ _))

def leading (text : List Char) : Int := if (Text.trim text).head? = some '}' then 1 else 0

theorem leadingDeep {before text : List Char} (matched : Matched (before ++ text)) :
    leading text ≤ unmatched before := by
  unfold leading
  split
  · rename_i closes
    have deep := unmatchedLeading matched closes
    omega
  · exact Int.natCast_nonneg _

def level (u : Int) (depth : Nat) (levels : Int) : Tracker Int :=
  opened { start u true with expected := levels * u } depth

section
variable {u : Int} (depth : Nat) (levels : Int)

theorem levelAwaiting : (level u depth levels).awaiting = false := by
  cases depth with
  | zero => rfl
  | succ n => rfl

theorem levelPending : (level u depth levels).pending = 0 := by
  cases depth with
  | zero => rfl
  | succ n => rfl

theorem levelExpected : (level u depth levels).expected = levels * u := by
  cases depth with
  | zero => rfl
  | succ n => rfl

theorem levelFrames : (level u depth levels).frames = List.replicate depth 0 := by
  cases depth with
  | zero => rfl
  | succ n => exact (List.replicate_succ' (n := n) (a := (0 : Int))).symm

theorem levelTarget : (level u depth levels).target = ⟨levels * u, false⟩ := by
  rw [target, levelAwaiting, levelExpected]
  rfl

theorem levelShift (nonneg : 0 ≤ u) {moved : Int} (deep : 0 ≤ levels + moved) :
    (level u depth levels).shift moved = level u depth (levels + moved) := by
  have width : Width.shift (levels * u) moved u = (levels + moved) * u := by
    change max 0 (levels * u + moved * u) = (levels + moved) * u
    rw [← Int.add_mul]
    exact Int.max_eq_right (Int.mul_nonneg deep nonneg)
  cases depth with
  | zero => simp [level, opened, shift, start, width]
  | succ n => simp [level, opened, shift, start, width]

theorem levelRelease : (level u depth levels).releasePending = level u depth levels := by
  rw [releasePending, levelPending]
  exact if_neg (Int.lt_irrefl 0)

end

section
variable {u : Int} (nonneg : 0 ≤ u)
include nonneg

theorem levelEnter {depth : Nat} {text : List Char} (deep : leading text ≤ depth) :
    (level u depth depth).enter text = level u depth (depth - leading text) := by
  rw [enterIdle (levelAwaiting _ _) (levelPending _ _) text]
  unfold leading at deep ⊢
  split
  · rename_i closes
    rw [if_pos closes] at deep
    exact levelShift depth depth nonneg (by omega)
  · rw [Int.sub_zero]

theorem levelLeave {before text : List Char} (matched : Matched (before ++ text)) (complete : Complete text) :
    (level u (unmatched before) (unmatched before - leading text)).leave text =
      level u (unmatched (before ++ text)) (unmatched (before ++ text)) := by
  have moved := unmatchedAppend matched
  have folded : text.foldl brace (level u (unmatched before) (unmatched (before ++ text))) =
      level u (unmatched (before ++ text)) (unmatched (before ++ text)) := foldlBraceBehind _ matched
  have lands : (unmatched before : Int) - leading text +
      ((text.count '{' : Int) - text.count '}' + leading text) = unmatched (before ++ text) := by
    omega
  have nothingWaits : hasControlWord text = false ∨ (Text.trim text).getLast? = some '{' ∨
      (Text.trim text).getLast? = some ';' := by
    cases control : hasControlWord text with
    | false => exact .inl rfl
    | true => exact .inr (complete.2 control)
  rw [leaveIdle (levelAwaiting _ _) rfl]
  change (text.foldl brace
    ((level u _ _).shift ((text.count '{' : Int) - text.count '}' + leading text))).settle text = _
  rw [levelShift _ _ nonneg (by omega), lands, folded, settleReleases (levelAwaiting _ _) complete.1 nothingWaits,
    levelRelease]

theorem levelFeed {before text : List Char} (matched : Matched (before ++ text)) (complete : Complete text) :
    (level u (unmatched before) (unmatched before)).feed text =
      level u (unmatched (before ++ text)) (unmatched (before ++ text)) := by
  rw [feed, levelEnter nonneg (leadingDeep matched), levelLeave nonneg matched complete]

theorem levelRun {texts : List (List Char)} (complete : ∀ text ∈ texts, Complete text)
    (matched : Matched texts.flatten) :
    (start u true).run texts = level u (unmatched texts.flatten) (unmatched texts.flatten) := by
  induction texts using List.reverseRecOn with
  | nil => simp [run, level, opened, unmatched, start, Width.zero]
  | append_singleton texts text ih =>
    rw [List.flatten_append, List.flatten_singleton] at matched ⊢
    have earlier := ih (fun line mem => complete line (by simp [mem])) (matchedBefore matched)
    rw [runConcat, earlier, levelFeed nonneg matched (complete text (by simp))]

end

theorem widthAgreesWithFrames (u : Int) (positive : 1 ≤ u) (texts : List (List Char))
    (complete : ∀ text ∈ texts, Complete text) (matched : Matched texts.flatten) :
    ∃ fresh, (start (0 : Int) false).fixUnit? u = some fresh ∧
      ∀ before text after, texts = before ++ text :: after →
        let depth := unmatched before.flatten
        let now := fresh.run (before ++ [text])
        ((fresh.run before).enter text).target = ⟨u * (depth - leading text), false⟩ ∧
          now.frames.length = unmatched (before ++ [text]).flatten ∧ (∀ frame ∈ now.frames, frame = 0) ∧
          now.pending = 0 ∧ now.awaiting = false ∧ now.expected = u * now.frames.length := by
  have nonneg : 0 ≤ u := by omega
  refine ⟨start u true, rfl, ?_⟩
  intro before text after parts depth now
  have whole : texts.flatten = (before ++ [text]).flatten ++ after.flatten := by simp [parts]
  rw [whole] at matched
  have upTo := matchedBefore matched
  have reached : now = level u (unmatched (before ++ [text]).flatten) (unmatched (before ++ [text]).flatten) := by
    refine levelRun nonneg ?_ upTo
    intro line mem
    have known : line ∈ before ++ [text] ++ after := List.mem_append_left after mem
    rw [List.append_assoc] at known
    exact complete line (parts ▸ known)
  rw [List.flatten_append, List.flatten_singleton] at upTo
  have earlier : (start u true).run before = level u depth depth := by
    refine levelRun nonneg ?_ (matchedBefore upTo)
    intro line mem
    exact complete line (by simp [parts, mem])
  refine ⟨?_, ?_⟩
  · rw [earlier, levelEnter nonneg (leadingDeep upTo), levelTarget, Int.mul_comm]
  · rw [reached, levelFrames, levelPending, levelAwaiting, levelExpected, List.length_replicate, Int.mul_comm]
    exact ⟨rfl, fun frame mem => List.eq_of_mem_replicate mem, rfl, rfl, rfl⟩

def bracedTexts : List (List Char) :=
  ["class A \x7b void f() \x7b".toList, "\x7d\x7b\x7b".toList, "  if (x) \x7b y(); \x7d;".toList]

theorem bracedTextsAgree :
    (∀ text ∈ bracedTexts ++ ["\x7d else \x7b".toList], Complete text) ∧
      Matched (bracedTexts ++ ["\x7d else \x7b".toList]).flatten ∧
      (((start (5 : Int) true).run bracedTexts).enter "\x7d else \x7b".toList).target = ⟨10, false⟩ ∧
      ((start (5 : Int) true).run (bracedTexts ++ ["\x7d else \x7b".toList])).frames.length = 3 := by
  have complete : ∀ text ∈ bracedTexts ++ ["\x7d else \x7b".toList], Complete text := by decide
  have matched : Matched (bracedTexts ++ ["\x7d else \x7b".toList]).flatten := by decide
  obtain ⟨fresh, fixed, agrees⟩ := widthAgreesWithFrames 5 (by decide) _ complete matched
  cases Option.some.inj fixed
  obtain ⟨target, frames, -⟩ := agrees bracedTexts "\x7d else \x7b".toList [] rfl
  exact ⟨complete, matched, target, frames⟩

end Tracker
end IndentLint.Layout
