import IndentLint.Document.Json.Reader
import IndentLint.Proofs.Except

/-! Why a text is refused as JSON. It does not follow the format, or it holds a numeral that is too long to be
read, or it opens too many levels. -/
namespace IndentLint.Document.Json

inductive Refusal : Fault → Prop where
  | malformed (detail : String) : Refusal (.malformed detail)
  | longNumeral {digits : Nat} (long : Text.Numeral.maxDigits < digits) : Refusal (.longNumeral digits)
  | tooDeep (container : String) : Refusal (.tooDeep container)

def Refuses {α : Type} (ran : Except Fault α) : Prop := ∀ fault, ran = .error fault → Refusal fault

section
variable {α β : Type}

theorem refusesReturn (value : α) : Refuses (.ok value) := fun _ stopped => nomatch stopped

theorem refusesFail (expected : String) : Refuses (fail expected : Except Fault α) := by
  intro fault stopped
  cases stopped
  exact .malformed expected

theorem refusesBind {first : Except Fault α} {next : α → Except Fault β} (here : Refuses first)
    (behind : ∀ value, Refuses (next value)) : Refuses (first >>= next) := by
  intro fault stopped
  rcases bindError.mp stopped with stopped | ⟨value, -, stopped⟩
  · exact here fault stopped
  · exact behind value fault stopped

theorem refusesMap {f : α → β} {read : Except Fault α} (here : Refuses read) : Refuses (read.map f) := by
  cases read with
  | ok value => exact refusesReturn _
  | error fault =>
    intro other stopped
    cases stopped
    exact here fault rfl

theorem refusesLong {digits : Nat} (long : Text.Numeral.maxDigits < digits) :
    Refuses (.error (.longNumeral digits) : Except Fault α) := by
  intro fault stopped
  cases stopped
  exact .longNumeral long

theorem refusesDeep (container : String) : Refuses (.error (.tooDeep container) : Except Fault α) := by
  intro fault stopped
  cases stopped
  exact .tooDeep container

end

theorem stringRefuses (s : List Char) : Refuses (readString s) := by
  have units : Refuses (stringUnits s) := by
    fun_induction stringUnits s with
    | case1 => exact refusesFail _
    | case2 => exact refusesReturn _
    | case3 => exact refusesFail _
    | case4 => exact refusesBind (by assumption) fun _ => refusesReturn _
    | case5 => exact refusesFail _
    | case6 => exact refusesBind (by assumption) fun _ => refusesReturn _
    | case7 => exact refusesFail _
    | case8 => exact refusesBind (by assumption) fun _ => refusesReturn _
  exact refusesMap units

theorem unsignedRefuses (negative : Bool) (s : List Char) : Refuses (unsigned negative s) := by
  unfold unsigned
  dsimp only
  split
  · exact refusesFail _
  · -- The digits may be one zero, and the number may have a fraction and an exponent.
    repeat' split
    all_goals first | exact refusesReturn _ | exact refusesLong (by assumption)

theorem plainRefuses (s : List Char) : Refuses (plain s) := by
  unfold plain
  split
  · exact refusesReturn _
  · split <;> exact unsignedRefuses _ _

structure AllRefuse (fuel : Nat) : Prop where
  value : ∀ room s, Refuses (value fuel room s)
  items : ∀ room s, Refuses (items fuel room s)
  entries : ∀ room s, Refuses (entries fuel room s)

section
variable {fuel : Nat} (below : AllRefuse fuel) (room : Nat) (s : List Char)
include below

theorem valueRefuses : Refuses (value (fuel + 1) room s) := by
  unfold value
  split
  · exact refusesFail _
  · exact refusesBind (stringRefuses _) fun _ => refusesReturn _
  · exact refusesDeep _
  · rename_i spent
    cases spent
    split
    · exact refusesReturn _
    · exact refusesBind (below.items _ _) fun _ => refusesReturn _
  · exact refusesDeep _
  · rename_i spent
    cases spent
    split
    · exact refusesReturn _
    · exact refusesBind (below.entries _ _) fun _ => refusesReturn _
  · exact refusesBind (plainRefuses _) fun _ => refusesReturn _

theorem itemsRefuse : Refuses (items (fuel + 1) room s) := by
  unfold items
  refine refusesBind (below.value _ _) fun read => ?_
  dsimp only
  split
  · exact refusesReturn _
  · exact refusesBind (below.items _ _) fun _ => refusesReturn _
  · exact refusesFail _

theorem entriesRefuse : Refuses (entries (fuel + 1) room s) := by
  unfold entries
  split
  · exact refusesFail _
  · rename_i spent
    cases spent
    refine refusesBind (stringRefuses _) fun key => ?_
    dsimp only
    split
    · refine refusesBind (below.value _ _) fun read => ?_
      split
      · exact refusesReturn _
      · exact refusesBind (below.entries _ _) fun _ => refusesReturn _
      · exact refusesFail _
    · exact refusesFail _
  · exact refusesFail _

end

theorem allRefuse (fuel : Nat) : AllRefuse fuel := by
  induction fuel with
  | zero =>
    refine ⟨fun room s => ?_, fun room s => ?_, fun room s => ?_⟩
    · rw [value]
      exact refusesFail _
    · rw [items]
      exact refusesFail _
    · rw [entries]
      exact refusesFail _
  | succ fuel ih => exact ⟨valueRefuses ih, itemsRefuse ih, entriesRefuse ih⟩

theorem readRefuses (text : List Char) (depth : Nat) : Refuses (read text depth) := by
  refine refusesBind ((allRefuse _).value _ _) fun found => ?_
  dsimp only
  split
  · exact refusesReturn _
  · exact refusesFail _

end IndentLint.Document.Json
