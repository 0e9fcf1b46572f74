import IndentLint.Encoding
import IndentLint.Proofs.Document.RoundTrip
import IndentLint.Text.Lines

/-! Documents in files. What is written in ASCII is decoded as it is, so that a document can be read back
from the bytes of its text. -/
namespace IndentLint.Document
namespace Json

variable {layout : Layout}

/-! ### Characters -/

/- ASCII characters, and among them none that a change of line ends would touch. -/
def Ordinary (s : List Char) : Prop := ∀ c ∈ s, c.toNat < 128 ∧ c ≠ '\r'

@[simp] theorem ordinaryNil : Ordinary [] := fun _ member => absurd member List.not_mem_nil

@[simp] theorem ordinaryCons {c : Char} {more : List Char} :
    Ordinary (c :: more) ↔ (c.toNat < 128 ∧ c ≠ '\r') ∧ Ordinary more := List.forall_mem_cons

@[simp] theorem ordinaryAppend {s more : List Char} : Ordinary (s ++ more) ↔ Ordinary s ∧ Ordinary more :=
  List.forall_mem_append

theorem ordinaryUnits (c : Char) : Ordinary (units c) := by
  have digit (n : Nat) : (Text.Quoted.hexDigit n).toNat < 128 ∧ Text.Quoted.hexDigit n ≠ '\r' := by
    have small : ∀ k < 16, (Text.Quoted.hexDigit k).toNat < 128 ∧ Text.Quoted.hexDigit k ≠ '\r' := by decide
    rw [hexDigitMod]
    exact small _ (Nat.mod_lt _ (by decide))
  have unit (n : Nat) : Ordinary (unit16 n) := by simp [unit16, Text.Quoted.hex, digit]
  unfold units
  dsimp only
  split
  · exact unit _
  · exact ordinaryAppend.mpr ⟨unit _, unit _⟩

theorem ordinaryEscape (c : Char) : Ordinary (escape .ascii c) := by
  by_cases carriage : c = '\r'
  · simp [carriage, escape]
  unfold escape
  -- Every branch but the last escapes the character.
  repeat' split
  any_goals simp [ordinaryUnits]
  rename_i within
  simp only [decide_true, Bool.true_and, decide_eq_true_eq] at within
  exact ⟨by omega, carriage⟩

theorem ordinaryString (s : List Char) : Ordinary (string .ascii s) := by
  have inside : Ordinary (s.flatMap (escape .ascii)) := by
    intro c member
    obtain ⟨d, -, held⟩ := List.mem_flatMap.mp member
    exact ordinaryEscape d c held
  simp [string, inside]

theorem ordinaryNumeral (n : Int) : Ordinary (Text.Numeral.write n) := by
  have all (n : Nat) : Ordinary (Text.Numeral.digits n) := by
    intro c member
    have digit := digitsAll n c member
    refine ⟨?_, ?_⟩
    · simp only [Char.isDigit, Bool.and_eq_true, decide_eq_true_eq] at digit
      have above : c.toNat ≤ 57 := digit.2
      omega
    · rintro rfl
      contradiction
  cases n with
  | ofNat n => exact all n
  | negSucc n => exact ordinaryCons.mpr ⟨by decide, all (n + 1)⟩

theorem ordinaryBreak (level : Nat) : Ordinary (lineBreak layout level) := by
  cases layout with
  | compact => exact ordinaryNil
  | indented =>
    refine ordinaryCons.mpr ⟨by decide, fun c member => ?_⟩
    rw [(List.mem_replicate.mp member).2]
    decide

theorem ordinaryItems {items : List Value} {level : Nat}
    (each : ∀ v ∈ items, Ordinary (writeAt .ascii layout level v)) : Ordinary (writeItems .ascii layout level items) := by
  induction items with
  | nil => exact ordinaryNil
  | cons v rest ih =>
    obtain ⟨here, each⟩ := List.forall_mem_cons.mp each
    simp [writeItems, ordinaryBreak, here, ih each]

theorem ordinaryKey (k : String) : Ordinary (key .ascii (.text k)) := ordinaryString k.toList

theorem ordinaryEntries {fields : List (String × Value)} {level : Nat}
    (each : ∀ f ∈ fields, Ordinary (writeAt .ascii layout level f.2)) :
    Ordinary (writeEntries .ascii layout level (texted fields)) := by
  induction fields with
  | nil => exact ordinaryNil
  | cons f rest ih =>
    obtain ⟨k, v⟩ := f
    obtain ⟨here, each⟩ := List.forall_mem_cons.mp each
    simp [writeEntries, ordinaryBreak, ordinaryKey, here, ih each]

theorem storedOrdinary {room : Nat} {v : Value} (stored : Stored room v) (level : Nat) :
    Ordinary (writeAt .ascii layout level v) := by
  induction stored generalizing level with
  | null => simp [writeAt, scalar]
  | bool b => cases b <;> simp [writeAt, scalar]
  | int showable => exact ordinaryNumeral _
  | text s => exact ordinaryString _
  | @list room items inside ih =>
    cases items with
    | nil => simp [writeAt]
    | cons v vs =>
      obtain ⟨here, each⟩ := List.forall_mem_cons.mp fun w member => ih w member (level + 1)
      simp [writeAt, ordinaryBreak, here, ordinaryItems each]
  | @record room fields distinct inside ih =>
    cases fields with
    | nil => simp [Value.record, writeAt]
    | cons f more =>
      obtain ⟨k, v⟩ := f
      obtain ⟨here, each⟩ := List.forall_mem_cons.mp fun f member => ih f member (level + 1)
      rw [show Value.record ((k, v) :: more) = .mapping ((.text k, v) :: texted more) from rfl]
      simp [writeAt, ordinaryBreak, ordinaryKey, here, ordinaryEntries each]

/-! ### Bytes -/

theorem unifyOrdinary {s : List Char} (ordinary : Ordinary s) : Text.unifyNewlines s = s := by
  induction s with
  | nil => rfl
  | cons c rest ih =>
    obtain ⟨⟨-, other⟩, later⟩ := ordinaryCons.mp ordinary
    unfold Text.unifyNewlines
    split
    · contradiction
    · rename_i same
      exact absurd (List.cons.inj same).1 other
    · rename_i same
      cases same
      rw [if_neg other, ih later]

theorem bytesLoop (bytes : ByteArray) (start : Nat) (before : List UInt8) :
    ByteArray.toList.loop bytes start before = before.reverse ++ bytes.data.toList.drop start := by
  fun_induction ByteArray.toList.loop bytes start before with
  | case1 start before inside ih =>
    have within : start < bytes.data.toList.length := by simpa using inside
    rw [ih, List.drop_eq_getElem_cons within]
    simp [ByteArray.get!, inside]
  | case2 start before outside =>
    rw [List.drop_eq_nil_of_le (by simpa using outside)]
    simp

theorem bytesOrdinary {s : List Char} (ordinary : Ordinary s) :
    utf8Bytes (String.ofList s) = s.map fun c => UInt8.ofNat c.toNat := by
  have encoded : s.flatMap String.utf8EncodeChar = s.map fun c => UInt8.ofNat c.toNat := by
    induction s with
    | nil => rfl
    | cons c rest ih =>
      obtain ⟨⟨small, -⟩, later⟩ := ordinaryCons.mp ordinary
      have single : String.utf8EncodeChar c = [UInt8.ofNat c.toNat] := if_pos (Nat.le_of_lt_succ small)
      rw [List.flatMap_cons, single, ih later]
      rfl
  rw [utf8Bytes, String.toUTF8, String.toByteArray_ofList, ByteArray.toList, bytesLoop, List.utf8Encode, encoded]
  simp

theorem decodeOrdinary {s : List Char} (ordinary : Ordinary s) :
    Encoding.decodeUtf8 (utf8Bytes (String.ofList s)) = .ok s := by
  rw [bytesOrdinary ordinary, Encoding.decodeUtf8, List.length_map]
  generalize 0 = position
  induction s generalizing position with
  | nil => rfl
  | cons c rest ih =>
    obtain ⟨⟨small, -⟩, later⟩ := ordinaryCons.mp ordinary
    have byte : (UInt8.ofNat c.toNat).toNat = c.toNat := by
      rw [UInt8.toNat_ofNat']
      omega
    rw [List.map_cons, List.length_cons, Encoding.decodeUtf8From]
    simp only [byte, small, if_true, ih later, bind, Except.bind, Char.ofNat_toNat]

theorem readSaved (layout : Layout) {depth : Nat} {v : Value} (stored : Stored depth v) :
    ∃ text, Encoding.decodeUtf8 (utf8Bytes (write .ascii layout v)) = .ok text ∧
      read (Text.unifyNewlines text) depth = .ok v := by
  have ordinary : Ordinary (writeAt .ascii layout 0 v) := storedOrdinary stored 0
  refine ⟨_, decodeOrdinary ordinary, ?_⟩
  rw [unifyOrdinary ordinary]
  exact readWritten stored

end Json
end IndentLint.Document
