import IndentLint.Document.Json.Reader
import IndentLint.Document.Json.Writer
import IndentLint.Proofs.Except

/-! Strings and whole numbers in JSON. What is written is read back as it was, whatever follows it: escapes
and pairs of units give their characters again, digits their number. -/
namespace IndentLint.Document.Json
open Text (isHighUnit isLowUnit pairCode joinPairs)
open Text.Numeral (digits digitChar ofDigits maxDigits)

/-! ### Strings -/

def Gives (written : List Char) (codes : List Nat) : Prop :=
  ∀ rest, stringUnits (written ++ rest) = (stringUnits rest).map fun r => (codes ++ r.1, r.2)

theorem givesAppend {written more : List Char} {codes others : List Nat} (first : Gives written codes)
    (then' : Gives more others) : Gives (written ++ more) (codes ++ others) := by
  intro rest
  rw [List.append_assoc, first, then']
  cases stringUnits rest <;> simp [Except.map]

theorem givesAll {write : Char → List Char} {codes : Char → List Nat}
    (each : ∀ c, Gives (write c) (codes c)) (s : List Char) : Gives (s.flatMap write) (s.flatMap codes) := by
  induction s with
  | nil =>
    intro rest
    cases read : stringUnits rest <;> simp [read, Except.map]
  | cons c more ih => exact givesAppend (each c) ih

theorem hexDigitMod (n : Nat) : Text.Quoted.hexDigit n = Text.Quoted.hexDigit (n % 16) := by
  simp [Text.Quoted.hexDigit]

theorem hexDigitBack (n : Nat) : Text.Numeral.hexDigit? (Text.Quoted.hexDigit n) = some (n % 16) := by
  have small : ∀ k < 16, Text.Numeral.hexDigit? (Text.Quoted.hexDigit k) = some k := by decide
  rw [hexDigitMod]
  exact small _ (Nat.mod_lt _ (by decide))

theorem givesUnit {n : Nat} (small : n < 0x10000) : Gives (unit16 n) [n] := by
  intro rest
  have digits : unit16 n ++ rest = '\\' :: 'u' :: Text.Quoted.hexDigit (n / 16 / 16 / 16) ::
      Text.Quoted.hexDigit (n / 16 / 16) :: Text.Quoted.hexDigit (n / 16) :: Text.Quoted.hexDigit n :: rest := rfl
  have back : ((n / 16 / 16 / 16 % 16 * 16 + n / 16 / 16 % 16) * 16 + n / 16 % 16) * 16 + n % 16 = n := by omega
  rw [digits, stringUnits]
  simp only [unit16?, hexDigitBack, bind, Option.bind_some, back]
  cases stringUnits rest <;> rfl

theorem givesShort {e c : Char} (short : shortEscape? e = some c) (different : e ≠ 'u') :
    Gives ['\\', e] [c.toNat] := by
  intro rest
  rw [List.cons_append, List.singleton_append, stringUnits.eq_4 e rest fun _ _ _ _ _ same => absurd same different]
  simp only [short]
  cases stringUnits rest <;> rfl

theorem givesSelf {c : Char} (printable : 32 ≤ c.toNat) (quote : c ≠ '"') (escapes : c ≠ '\\') :
    Gives [c] [c.toNat] := by
  intro rest
  rw [List.singleton_append, stringUnits.eq_5 c rest quote (fun _ _ _ _ _ same => absurd same escapes)
    fun _ _ same => absurd same escapes, if_neg (by simp [escapes, printable])]
  cases stringUnits rest <;> rfl

def codes (charset : Charset) (c : Char) : List Nat :=
  if charset = .ascii ∧ 0x10000 ≤ c.toNat then
    [0xd800 + (c.toNat - 0x10000) / 0x400, 0xdc00 + (c.toNat - 0x10000) % 0x400]
  else [c.toNat]

theorem charBound (c : Char) : c.toNat < 0xd800 ∨ 0xdfff < c.toNat ∧ c.toNat < 0x110000 := c.valid

theorem givesUnits (c : Char) : Gives (units c) (codes .ascii c) := by
  have bound := charBound c
  unfold units codes
  by_cases small : c.toNat < 0x10000
  · rw [if_pos small, if_neg fun wide => by omega]
    exact givesUnit small
  · rw [if_neg small, if_pos ⟨rfl, Nat.not_lt.mp small⟩]
    exact givesAppend (givesUnit (by omega)) (givesUnit (by omega))

theorem givesEscape (charset : Charset) (c : Char) : Gives (escape charset c) (codes charset c) := by
  have single (small : c.toNat < 0x10000) : codes charset c = [c.toNat] := by simp [codes, small]
  have short {e k : Char} (back : shortEscape? e = some k) (different : e ≠ 'u') (same : c.toNat = k.toNat)
      (small : k.toNat < 0x10000) : Gives ['\\', e] (codes charset c) := by
    rw [single (same ▸ small), same]
    exact givesShort back different
  unfold escape
  by_cases quote : c = '"'
  · rw [if_pos quote]
    exact short rfl (by decide) (congrArg Char.toNat quote) (by decide)
  by_cases escapes : c = '\\'
  · rw [if_neg quote, if_pos escapes]
    exact short rfl (by decide) (congrArg Char.toNat escapes) (by decide)
  rw [if_neg quote, if_neg escapes]
  split
  · rename_i same
    exact short rfl (by decide) (congrArg Char.toNat same) (by decide)
  split
  · rename_i same
    exact short rfl (by decide) (congrArg Char.toNat same) (by decide)
  split
  · rename_i same
    exact short rfl (by decide) (congrArg Char.toNat same) (by decide)
  split
  · rename_i same
    exact short (k := Char.ofNat 8) rfl (by decide) same (by decide)
  split
  · rename_i same
    exact short (k := Char.ofNat 12) rfl (by decide) same (by decide)
  split
  · rename_i control
    have plain : codes charset c = codes .ascii c := by rw [single (by omega), codes, if_neg (by omega)]
    rw [plain]
    exact givesUnits c
  split
  · rename_i beyond
    simp only [Bool.and_eq_true, decide_eq_true_eq] at beyond
    rw [beyond.1]
    exact givesUnits c
  · rename_i visible within
    have plain : codes charset c = [c.toNat] := by
      unfold codes
      rw [if_neg]
      rintro ⟨rfl, wide⟩
      simp at within
      omega
    rw [plain]
    exact givesSelf (Nat.not_lt.mp visible) quote escapes

theorem joinPairsBack (charset : Charset) (c : Char) (more : List Nat) :
    joinPairs (codes charset c ++ more) = c.toNat :: joinPairs more := by
  have bound := charBound c
  unfold codes
  split
  · rename_i wide
    have high : isHighUnit (0xd800 + (c.toNat - 0x10000) / 0x400) = true := by
      simp [isHighUnit]
      omega
    have low : isLowUnit (0xdc00 + (c.toNat - 0x10000) % 0x400) = true := by
      simp [isLowUnit]
      omega
    have back : pairCode (0xd800 + (c.toNat - 0x10000) / 0x400) (0xdc00 + (c.toNat - 0x10000) % 0x400) =
        c.toNat := by
      unfold pairCode
      omega
    rw [List.cons_append, List.singleton_append, joinPairs, if_pos (by rw [high, low]; rfl), back]
  · have high : isHighUnit c.toNat = false := by
      simp [isHighUnit]
      omega
    cases more with
    | nil => rfl
    | cons n rest => simp [joinPairs, high]

theorem joinPairsAll (charset : Charset) (s : List Char) :
    joinPairs (s.flatMap (codes charset)) = s.map Char.toNat := by
  induction s with
  | nil => rfl
  | cons c rest ih => rw [List.flatMap_cons, joinPairsBack, ih, List.map_cons]

theorem ofPointsChars (s : List Char) : Scalar.ofPoints (s.map Char.toNat) = .text (String.ofList s) := by
  have whole : (s.map Char.toNat).any Text.isHalf = false := by
    simp only [List.any_map, List.any_eq_false]
    intro c member
    have bound := charBound c
    simp [Text.isHalf, isHighUnit, isLowUnit]
    omega
  simp [Scalar.ofPoints, Text.ofPoints?, whole, Function.comp_def]

theorem stringBack (charset : Charset) (s rest : List Char) :
    readString (s.flatMap (escape charset) ++ '"' :: rest) = .ok (.text (String.ofList s), rest) := by
  rw [readString, givesAll (givesEscape charset) s]
  simp [stringUnits, Except.map, joinPairsAll, ofPointsChars]

/-! ### Whole numbers -/

def Ends (rest : List Char) : Prop :=
  ∀ c more, rest = c :: more → c.isDigit = false ∧ c ≠ '.' ∧ c ≠ 'e' ∧ c ≠ 'E'

theorem endsCons {c : Char} (other : c.isDigit = false ∧ c ≠ '.' ∧ c ≠ 'e' ∧ c ≠ 'E') (rest : List Char) :
    Ends (c :: rest) := by
  intro d more same
  rw [← (List.cons.inj same).1]
  exact other

theorem digitCharBack (n : Nat) : (digitChar n).isDigit = true ∧ (digitChar n).toNat - 48 = n % 10 := by
  have small : ∀ k < 10, (digitChar k).isDigit = true ∧ (digitChar k).toNat - 48 = k := by decide
  have same : digitChar n = digitChar (n % 10) := by simp [digitChar]
  rw [same]
  exact small _ (Nat.mod_lt _ (by decide))

theorem digitsAll (n : Nat) : ∀ c ∈ digits n, c.isDigit = true := by
  fun_induction digits n with
  | case1 n small => simpa using (digitCharBack n).1
  | case2 n large ih =>
    intro c member
    rcases List.mem_append.mp member with before | last
    · exact ih c before
    · exact List.mem_singleton.mp last ▸ (digitCharBack n).1

theorem digitsValue (n : Nat) : ofDigits 10 (digitValues (digits n)) = n := by
  fun_induction digits n with
  | case1 n small =>
    have last := (digitCharBack n).2
    simp [digitValues, ofDigits, last]
    omega
  | case2 n large ih =>
    have last := (digitCharBack n).2
    simp only [digitValues, ofDigits] at ih
    simp only [digitValues, ofDigits, List.map_append, List.foldl_append, ih, List.map_cons, List.map_nil,
      List.foldl_cons, List.foldl_nil, last]
    omega

theorem digitsLength {n k : Nat} (some : k ≠ 0) (bound : n < Nat.pow 10 k) : (digits n).length ≤ k := by
  induction k generalizing n with
  | zero => contradiction
  | succ k ih =>
    rw [digits]
    split
    · simp
    · rename_i large
      have more : k ≠ 0 := by
        rintro rfl
        exact large bound
      have below := ih more (n := n / 10) (by rw [Nat.div_lt_iff_lt_mul (by decide)]; exact bound)
      rw [List.length_append, List.length_singleton]
      omega

theorem digitsHead (n : Nat) : ∃ d more, digits n = d :: more ∧ (d = '0' → n = 0) := by
  fun_induction digits n with
  | case1 n small =>
    have zero : ∀ k < 10, digitChar k = '0' → k = 0 := by decide
    exact ⟨_, [], rfl, zero n small⟩
  | case2 n large ih =>
    obtain ⟨d, more, shape, zero⟩ := ih
    exact ⟨d, more ++ [digitChar n], by rw [shape, List.cons_append], fun same => by have := zero same; omega⟩

theorem digitsOfBack {ds rest : List Char} (all : ∀ c ∈ ds, c.isDigit = true) (ends : Ends rest) :
    digitsOf (ds ++ rest) = (ds, rest) := by
  unfold digitsOf
  rw [List.takeWhile_append_of_pos all, List.dropWhile_append_of_pos all]
  cases rest with
  | nil => simp
  | cons c more => simp [(ends c more rfl).1]

theorem fractionNone {rest : List Char} (ends : Ends rest) : fraction rest = ([], rest) := by
  unfold fraction
  split
  · exact absurd rfl (ends _ _ rfl).2.1
  · rfl

theorem exponentNone {rest : List Char} (ends : Ends rest) : exponent? rest = none := by
  unfold exponent?
  split
  · obtain ⟨-, -, lower, upper⟩ := ends _ _ rfl
    simp [lower, upper]
  · rfl

theorem unsignedBack (negative : Bool) {n : Nat} (showable : n < Nat.pow 10 maxDigits) {rest : List Char}
    (ends : Ends rest) : unsigned negative (digits n ++ rest) = .ok (.int (if negative then -n else n), rest) := by
  obtain ⟨d, more, shape, zero⟩ := digitsHead n
  -- A leading zero is the whole number.
  have alone : (if d = '0' then ([d], more ++ rest) else (digits n, rest)) = (digits n, rest) := by
    split
    · rename_i leading
      have none : more = [] := by
        rw [zero leading, digits] at shape
        exact (List.cons.inj shape).2.symm
      rw [shape, none, List.nil_append]
    · rfl
  have short : ¬ maxDigits < (digits n).length := Nat.not_lt.mpr (digitsLength (by decide) showable)
  unfold unsigned
  rw [digitsOfBack (digitsAll n) ends, shape]
  dsimp only
  rw [← shape, alone]
  simp only [fractionNone ends, exponentNone ends, List.isEmpty_nil, if_true, if_neg short, digitsValue]

theorem afterWordNone {word : String} {s : List Char} (other : ¬ word.toList <+: s) : afterWord? word s = none := by
  refine if_neg fun same => other ?_
  rw [List.prefix_iff_eq_take, String.length_toList, same]

/- No word has a digit among its first two characters, a numeral has. -/
theorem wordlessNumeral {d : Char} (digit : d.isDigit = true) {s more : List Char}
    (shape : s = d :: more ∨ s = '-' :: d :: more) :
    (words.findSome? fun w => (afterWord? w.1 s).map fun rest => (w.2, rest)) = none := by
  refine List.findSome?_eq_none_iff.mpr fun w member => ?_
  have letters : ∃ a b rest, w.1.toList = a :: b :: rest ∧ a.isDigit = false ∧ b.isDigit = false := by
    simp only [words, List.mem_cons, List.not_mem_nil, or_false] at member
    rcases member with rfl | rfl | rfl | rfl | rfl | rfl
    all_goals exact ⟨_, _, _, rfl, rfl, rfl⟩
  obtain ⟨a, b, rest, spelled, first, second⟩ := letters
  rw [afterWordNone, Option.map_none]
  rw [spelled]
  intro starts
  rcases shape with rfl | rfl
  · rw [(List.cons_prefix_cons.mp starts).1, digit] at first
    contradiction
  · rw [(List.cons_prefix_cons.mp (List.cons_prefix_cons.mp starts).2).1, digit] at second
    contradiction

theorem plainInt {n : Int} (showable : Text.Numeral.isShowable n = true) {rest : List Char} (ends : Ends rest) :
    plain (Text.Numeral.write n ++ rest) = .ok (.int n, rest) := by
  have bound : n.natAbs < Nat.pow 10 maxDigits := of_decide_eq_true showable
  obtain ⟨d, more, shape, -⟩ := digitsHead n.natAbs
  have digit := digitsAll n.natAbs d (by simp [shape])
  unfold plain
  cases n with
  | ofNat n =>
    rw [show Text.Numeral.write (.ofNat n) ++ rest = digits n ++ rest from rfl]
    have written : digits n ++ rest = d :: (more ++ rest) := congrArg (· ++ rest) shape
    rw [wordlessNumeral digit (.inl written)]
    dsimp only
    split
    · rename_i same
      rw [written] at same
      rw [(List.cons.inj same).1] at digit
      contradiction
    · exact unsignedBack false bound ends
  | negSucc n =>
    rw [show Text.Numeral.write (.negSucc n) ++ rest = '-' :: (digits (n + 1) ++ rest) from rfl]
    have written : digits (n + 1) ++ rest = d :: (more ++ rest) := congrArg (· ++ rest) shape
    rw [wordlessNumeral digit (.inr (congrArg ('-' :: ·) written))]
    exact unsignedBack true bound ends

end IndentLint.Document.Json
