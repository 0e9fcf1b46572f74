import IndentLint.Proofs.Source.Scan
import IndentLint.Source.Tab

/-! What is written behind a line. The scanner reads on in the mode in which the line left it, since nothing
that begins with a blank completes a marker of the line. So blanks, and a comment behind code, only add
blanks to the visible text, and these are trimmed. -/
namespace IndentLint.Source

def modeAfter : Mode → List Char → Option Mode
  | .comment, [] => some .comment
  | .comment, '*' :: '/' :: rest => modeAfter .code rest
  | .comment, _ :: rest => modeAfter .comment rest
  | .literal quote, [] => some (.literal quote)
  | .literal quote, '\\' :: _ :: rest => modeAfter (.literal quote) rest
  | .literal quote, c :: rest =>
    if c = quote then modeAfter .code rest else modeAfter (.literal quote) rest
  | .code, [] => some .code
  | .code, '/' :: '/' :: _ => none
  | .code, '/' :: '*' :: rest => modeAfter .comment rest
  | .code, c :: rest => if isQuote c then modeAfter (.literal c) rest else modeAfter .code rest

def Blank (s : List Char) : Prop := ∀ c ∈ s, Text.isBlank c = true

instance decidableBlank (s : List Char) : Decidable (Blank s) :=
  inferInstanceAs (Decidable (∀ c ∈ s, _))

theorem blankAppend {s t : List Char} (first : Blank s) (second : Blank t) : Blank (s ++ t) := by
  intro c mem
  exact (List.mem_append.mp mem).elim (first c) (second c)

def Apart (second : List Char) : Prop := ∀ c ∈ second.head?, Text.isBlank c = true

theorem apartVisible {rest second more : List Char} {c : Char} (apart : Apart second)
    (visible : Text.isBlank c = false) (follows : rest ++ second = c :: more) : ∃ others, rest = c :: others := by
  cases rest with
  | nil =>
    have blank := apart c (by rw [List.nil_append] at follows; rw [follows]; rfl)
    rw [blank] at visible
    contradiction
  | cons d others =>
    cases follows
    exact ⟨others, rfl⟩

/- Text and open comment of two parts, of which the second one is scanned only if the first one is all scanned. -/
def continued (tab : Nat) (first : List Char × Bool) (second : List Char) : Option Mode → List Char × Bool
  | none => first
  | some mode => (first.1 ++ (scan tab mode second).1, (scan tab mode second).2)

theorem continuedPad (tab n : Nat) (first : List Char × Bool) (second : List Char) (after : Option Mode) :
    (pad n (continued tab first second after).1, (continued tab first second after).2) =
      continued tab (pad n first.1, first.2) second after := by
  cases after with
  | none => rfl
  | some mode => simp [continued, padEq]

theorem continuedCons (tab : Nat) (c : Char) (first : List Char × Bool) (second : List Char) (after : Option Mode) :
    (c :: (continued tab first second after).1, (continued tab first second after).2) =
      continued tab (c :: first.1, first.2) second after := by
  cases after <;> rfl

theorem scanLiteralBlank (tab : Nat) {quote c : Char} (quoted : isQuote quote = true)
    (blank : Text.isBlank c = true) (rest : List Char) : scan tab (.literal quote) (c :: rest) =
      (pad (charWidth tab c) (scan tab (.literal quote) rest).1, (scan tab (.literal quote) rest).2) := by
  have escape : Text.isBlank '\\' = false := by decide
  have visible : Text.isBlank quote = false := quoteVisible quoted
  have noEarly : ∀ d more, c = '\\' → rest = d :: more → False := by
    intro d more escapes _
    rw [escapes, escape] at blank
    contradiction
  have notQuote : c ≠ quote := by
    intro same
    rw [same, visible] at blank
    contradiction
  rw [scan.eq_6 tab quote c rest noEarly, if_neg notQuote]

theorem scanEscapeAppend (tab : Nat) {quote : Char} (quoted : isQuote quote = true) {second : List Char}
    (apart : Apart second) : scan tab (.literal quote) ('\\' :: second) =
      continued tab (scan tab (.literal quote) ['\\']) second (some (.literal quote)) := by
  have different : '\\' ≠ quote := (quotePlain quoted).2.2.2.symm
  have alone : scan tab (.literal quote) ['\\'] = ([' '], false) := by
    rw [scan.eq_6 tab quote '\\' [] (by simp), if_neg different]
    rfl
  cases second with
  | nil => simp [alone, continued, scan]
  | cons d more =>
    rw [alone, continued, scanLiteralBlank tab quoted (apart d rfl), scan]
    change (pad (1 + charWidth tab d) _, _) = _
    rw [← padPad]
    rfl

theorem scanAppend (tab : Nat) {mode : Mode} {first second : List Char} (apart : Apart second)
    (quoted : Quoted mode) :
    scan tab mode (first ++ second) = continued tab (scan tab mode first) second (modeAfter mode first) := by
  have slash : Text.isBlank '/' = false := by decide
  have star : Text.isBlank '*' = false := by decide
  fun_induction modeAfter mode first with
  | case1 => simp [continued, scan]
  | case2 rest ih => simp only [List.cons_append, scan, ih quotedCode, continuedPad]
  | case3 c rest early ih =>
    have noEarly : ∀ more, c = '*' → rest ++ second = '/' :: more → False := by
      intro more isStar follows
      obtain ⟨others, begins⟩ := apartVisible apart slash follows
      exact early others isStar begins
    rw [List.cons_append, scan.eq_3 tab c _ noEarly, scan.eq_3 tab c rest early, ih quotedComment]
    exact continuedPad ..
  | case4 quote => simp [continued, scan]
  | case5 quote c rest ih => simp only [List.cons_append, scan, ih quoted, continuedPad]
  | case6 c rest early ih =>
    have unescaped : c ≠ '\\' := (quotePlain (quoted c rfl)).2.2.2
    rw [List.cons_append, scan.eq_6 tab c c _ (fun _ _ escapes => absurd escapes unescaped),
      scan.eq_6 tab c c rest early, if_pos rfl, if_pos rfl, ih quotedCode]
    exact continuedCons ..
  | case7 quote c rest early different ih =>
    by_cases escapes : c = '\\'
    · have ends : rest = [] := by
        cases rest with
        | nil => rfl
        | cons d more => exact (early d more escapes rfl).elim
      subst escapes ends
      exact scanEscapeAppend tab (quoted quote rfl) apart
    · rw [List.cons_append, scan.eq_6 tab quote c _ (fun _ _ same => absurd same escapes),
        scan.eq_6 tab quote c rest early, if_neg different, if_neg different, ih quoted]
      exact continuedPad ..
  | case8 => simp [continued, scan]
  | case9 rest => simp only [List.cons_append, scan, continued]
  | case10 rest ih => simp only [List.cons_append, scan, ih quotedComment, continuedPad]
  | case11 c rest noLine noBlock begins ih =>
    have noSlash : c ≠ '/' := (quotePlain begins).2.2.1
    rw [List.cons_append, scan.eq_10 tab c _ (fun _ same => absurd same noSlash) (fun _ same => absurd same noSlash),
      scan.eq_10 tab c rest noLine noBlock, if_pos begins, if_pos begins, ih (quotedLiteral begins)]
    exact continuedCons ..
  | case12 c rest noLine noBlock unquoted ih =>
    have stillNoLine : ∀ more, c = '/' → rest ++ second = '/' :: more → False := by
      intro more isSlash follows
      obtain ⟨others, begins⟩ := apartVisible apart slash follows
      exact noLine others isSlash begins
    have stillNoBlock : ∀ more, c = '/' → rest ++ second = '*' :: more → False := by
      intro more isSlash follows
      obtain ⟨others, begins⟩ := apartVisible apart star follows
      exact noBlock others isSlash begins
    rw [List.cons_append, scan.eq_10 tab c _ stillNoLine stillNoBlock, scan.eq_10 tab c rest noLine noBlock,
      if_neg unquoted, if_neg unquoted, ih quotedCode]
    by_cases isTab : c = '\t'
    · simp only [if_pos isTab]
      exact continuedPad ..
    · simp only [if_neg isTab]
      exact continuedCons ..

theorem modeAfterQuoted {mode : Mode} {raw : List Char} (quoted : Quoted mode) :
    ∀ after, modeAfter mode raw = some after → Quoted after := by
  have ended : ∀ {last : Mode}, Quoted last → ∀ after, some last = some after → Quoted after := by
    intro last quoted after same
    cases same
    exact quoted
  fun_induction modeAfter mode raw with
  | case1 => exact ended quotedComment
  | case2 rest ih => exact ih quotedCode
  | case3 c rest early ih => exact ih quotedComment
  | case4 quote => exact ended quoted
  | case5 quote c rest ih => exact ih quoted
  | case6 c rest early ih => exact ih quotedCode
  | case7 quote c rest early different ih => exact ih quoted
  | case8 => exact ended quotedCode
  | case9 rest => simp
  | case10 rest ih => exact ih quotedComment
  | case11 c rest noLine noBlock begins ih => exact ih (quotedLiteral begins)
  | case12 c rest noLine noBlock unquoted ih => exact ih quotedCode

theorem scanSees {mode : Mode} (raw : List Char) (quoted : Quoted mode) :
    ∃ seen, seen <+: raw ∧ ∀ tab, (scan tab mode raw).1.length = width tab seen ∧
      (scan tab mode raw).2 = decide (modeAfter mode raw = some .comment) := by
  have next : ∀ {rest seen : List Char} (c : Char), seen <+: rest → c :: seen <+: c :: rest :=
    fun c front => (List.prefix_cons_inj c).mpr front
  fun_induction modeAfter mode raw with
  | case1 => exact ⟨[], List.prefix_rfl, fun tab => ⟨rfl, rfl⟩⟩
  | case2 rest ih =>
    obtain ⟨seen, front, gives⟩ := ih quotedCode
    refine ⟨'*' :: '/' :: seen, next _ (next _ front), fun tab => ?_⟩
    simp [scan, padLength, gives, width, charWidth, ← Nat.add_assoc]
  | case3 c rest early ih =>
    obtain ⟨seen, front, gives⟩ := ih quotedComment
    refine ⟨c :: seen, next _ front, fun tab => ?_⟩
    simp [scan.eq_3 tab c rest early, padLength, gives, width]
  | case4 quote => exact ⟨[], List.prefix_rfl, fun tab => ⟨rfl, by simp [scan]⟩⟩
  | case5 quote c rest ih =>
    obtain ⟨seen, front, gives⟩ := ih quoted
    refine ⟨'\\' :: c :: seen, next _ (next _ front), fun tab => ?_⟩
    simp [scan, padLength, gives, width, charWidth, Nat.add_assoc]
  | case6 c rest early ih =>
    obtain ⟨seen, front, gives⟩ := ih quotedCode
    have single : ∀ tab, charWidth tab c = 1 := fun tab => if_neg (quotePlain (quoted c rfl)).1
    refine ⟨c :: seen, next _ front, fun tab => ?_⟩
    simp [scan.eq_6 tab c c rest early, gives, width, single, Nat.add_comm]
  | case7 quote c rest early different ih =>
    obtain ⟨seen, front, gives⟩ := ih quoted
    refine ⟨c :: seen, next _ front, fun tab => ?_⟩
    simp [scan.eq_6 tab quote c rest early, different, padLength, gives, width]
  | case8 => exact ⟨[], List.prefix_rfl, fun tab => ⟨rfl, rfl⟩⟩
  | case9 rest => exact ⟨[], List.nil_prefix, fun tab => ⟨by simp [scan, width], by simp [scan]⟩⟩
  | case10 rest ih =>
    obtain ⟨seen, front, gives⟩ := ih quotedComment
    refine ⟨'/' :: '*' :: seen, next _ (next _ front), fun tab => ?_⟩
    simp [scan, padLength, gives, width, charWidth, ← Nat.add_assoc]
  | case11 c rest noLine noBlock begins ih =>
    obtain ⟨seen, front, gives⟩ := ih (quotedLiteral begins)
    have single : ∀ tab, charWidth tab c = 1 := fun tab => if_neg (quotePlain begins).1
    refine ⟨c :: seen, next _ front, fun tab => ?_⟩
    simp [scan.eq_10 tab c rest noLine noBlock, begins, gives, width, single, Nat.add_comm]
  | case12 c rest noLine noBlock unquoted ih =>
    obtain ⟨seen, front, gives⟩ := ih quotedCode
    refine ⟨c :: seen, next _ front, fun tab => ?_⟩
    rw [scan.eq_10 tab c rest noLine noBlock, if_neg unquoted]
    by_cases isTab : c = '\t'
    · simp [isTab, padLength, gives, width, charWidth]
    · simp [isTab, gives, width, charWidth, Nat.add_comm]

theorem widthAppend (tab : Nat) (s more : List Char) : width tab (s ++ more) = width tab s + width tab more := by
  induction s with
  | nil => simp [width]
  | cons c rest ih => rw [List.cons_append, width, ih, width, Nat.add_assoc]

theorem widthFront (tab : Nat) {seen raw : List Char} (front : seen <+: raw) : width tab seen ≤ width tab raw := by
  obtain ⟨rest, rfl⟩ := front
  rw [widthAppend]
  exact Nat.le_add_right _ _

theorem widthNarrower {tab other : Nat} (narrower : tab ≤ other) (s : List Char) : width tab s ≤ width other s := by
  induction s with
  | nil => exact Nat.le_refl _
  | cons c rest ih =>
    have first : charWidth tab c ≤ charWidth other c := by
      unfold charWidth
      split
      · exact narrower
      · exact Nat.le_refl _
    exact Nat.add_le_add first ih

theorem scanFits (tab : Nat) {mode : Mode} (raw : List Char) (quoted : Quoted mode) :
    (scan tab mode raw).1.length ≤ width tab raw := by
  obtain ⟨seen, front, gives⟩ := scanSees raw quoted
  rw [(gives tab).1]
  exact widthFront tab front

theorem scanNarrower {tab other : Nat} (narrower : tab ≤ other) {mode : Mode} (raw : List Char)
    (quoted : Quoted mode) : (scan tab mode raw).1.length ≤ (scan other mode raw).1.length := by
  obtain ⟨seen, -, gives⟩ := scanSees raw quoted
  rw [(gives tab).1, (gives other).1]
  exact widthNarrower narrower seen

theorem scanOpens (tab : Nat) {mode : Mode} (raw : List Char) (quoted : Quoted mode) :
    (scan tab mode raw).2 = decide (modeAfter mode raw = some .comment) := by
  obtain ⟨seen, -, gives⟩ := scanSees raw quoted
  exact (gives tab).2

/- What may follow a text: blanks, and behind code a line comment that is set off from it. -/
inductive Noise (after : Option Mode) : List Char → Prop
  | blank {s : List Char} (blank : Blank s) : Noise after s
  | remark {lead : List Char} (outside : ∀ mode ∈ after, mode = .code) (apart : lead ≠ [])
      (blank : Blank lead) (s : List Char) : Noise after (lead ++ '/' :: '/' :: s)

theorem blankApart {s : List Char} (blank : Blank s) : Apart s :=
  fun c first => blank c (List.mem_of_head? first)

theorem noiseApart {after : Option Mode} {noise : List Char} (harmless : Noise after noise) : Apart noise := by
  cases harmless with
  | blank blank => exact blankApart blank
  | @remark lead _ apart blank s =>
    obtain ⟨c, rest, rfl⟩ := List.exists_cons_of_ne_nil apart
    exact blankApart (s := c :: rest) blank

theorem noiseBehind {after : Option Mode} {blanks noise : List Char} (blank : Blank blanks)
    (harmless : Noise after noise) : Noise after (blanks ++ noise) := by
  cases harmless with
  | blank following => exact .blank (blankAppend blank following)
  | remark outside apart following s =>
    rw [← List.append_assoc]
    exact .remark outside (by simp [apart]) (blankAppend blank following) s

theorem noiseUnended {after : Option Mode} {noise : List Char} (harmless : Noise after noise) :
    Noise after (Text.dropEndWhile isTerminator noise) := by
  cases harmless with
  | blank blank => exact .blank fun c mem => blank c ((List.rdropWhile_prefix isTerminator noise).subset mem)
  | @remark lead outside apart blank s =>
    have marker : Text.dropEndWhile isTerminator (lead ++ ['/', '/']) = lead ++ ['/', '/'] :=
      Text.dropEndWhileOfLast (c := '/') (by simp [List.getLast?_append]) (by decide)
    have parts : lead ++ '/' :: '/' :: s = (lead ++ ['/', '/']) ++ s := by simp
    rw [parts, Text.dropEndWhileBehind marker, List.append_assoc]
    exact .remark outside apart blank _

theorem rawTrailed {after : Option Mode} (text : List Char) {noise : List Char} (harmless : Noise after noise) :
    ∃ rest, Noise after rest ∧
      Text.dropEndWhile isTerminator (text ++ noise) = Text.dropEndWhile isTerminator text ++ rest := by
  obtain ⟨ending, parts, terminators⟩ := Text.dropEndWhileSplit isTerminator text
  have whole : Text.dropEndWhile isTerminator (Text.dropEndWhile isTerminator text) =
      Text.dropEndWhile isTerminator text := List.rdropWhile_idempotent isTerminator text
  have blank : Blank ending := fun c mem => terminatorBlank (terminators c mem)
  refine ⟨_, noiseUnended (noiseBehind blank harmless), ?_⟩
  rw [← Text.dropEndWhileBehind whole, ← List.append_assoc, ← parts]

theorem scanBlank (tab : Nat) {mode : Mode} (quoted : Quoted mode) {c : Char} (blank : Text.isBlank c = true)
    (rest : List Char) : ∃ front, Blank front ∧
      scan tab mode (c :: rest) = (front ++ (scan tab mode rest).1, (scan tab mode rest).2) := by
  have different : ∀ {d : Char}, Text.isBlank d = false → c ≠ d := by
    intro d visible same
    rw [same, visible] at blank
    contradiction
  have spaces : ∀ n, Blank (List.replicate n ' ') := Text.spacesBlank
  cases mode with
  | comment =>
    have noEnd : c ≠ '*' := different (by decide)
    refine ⟨List.replicate (charWidth tab c) ' ', spaces _, ?_⟩
    rw [← padEq]
    exact scan.eq_3 tab c rest (fun _ same => absurd same noEnd)
  | literal quote =>
    refine ⟨List.replicate (charWidth tab c) ' ', spaces _, ?_⟩
    rw [scanLiteralBlank tab (quoted quote rfl) blank, padEq]
  | code =>
    have noSlash : c ≠ '/' := different (by decide)
    have unquoted : ¬ isQuote c = true := by
      intro begins
      exact different (quoteVisible begins) rfl
    rw [scan.eq_10 tab c rest (fun _ same => absurd same noSlash) (fun _ same => absurd same noSlash),
      if_neg unquoted]
    by_cases isTab : c = '\t'
    · refine ⟨List.replicate tab ' ', spaces _, ?_⟩
      simp only [if_pos isTab, padEq]
    · refine ⟨[c], by simp [Blank, blank], ?_⟩
      simp only [if_neg isTab, List.cons_append, List.nil_append]

theorem scanBlanks (tab : Nat) {mode : Mode} (quoted : Quoted mode) {blanks : List Char}
    (blank : Blank blanks) (rest : List Char) : ∃ front, Blank front ∧
      scan tab mode (blanks ++ rest) = (front ++ (scan tab mode rest).1, (scan tab mode rest).2) := by
  induction blanks with
  | nil => exact ⟨[], by simp [Blank], rfl⟩
  | cons c blanks ih =>
    obtain ⟨later, laterBlank, laterGives⟩ := ih fun d mem => blank d (by simp [mem])
    obtain ⟨front, frontBlank, gives⟩ := scanBlank tab quoted (blank c (by simp)) (blanks ++ rest)
    refine ⟨front ++ later, blankAppend frontBlank laterBlank, ?_⟩
    rw [List.cons_append, gives, laterGives, List.append_assoc]

theorem scanNoise (tab : Nat) {mode : Mode} (quoted : Quoted mode) {noise : List Char}
    (harmless : Noise (some mode) noise) : ∃ out, Blank out ∧
      scan tab mode noise = (out, decide (mode = .comment)) := by
  cases harmless with
  | blank blank =>
    obtain ⟨front, frontBlank, gives⟩ := scanBlanks tab quoted blank []
    refine ⟨front, frontBlank, ?_⟩
    rw [List.append_nil] at gives
    rw [gives]
    cases mode <;> simp [scan]
  | remark outside apart blank s =>
    cases outside mode rfl
    obtain ⟨front, frontBlank, gives⟩ := scanBlanks tab quoted blank ('/' :: '/' :: s)
    refine ⟨front, frontBlank, ?_⟩
    rw [gives]
    simp [scan]

theorem scanTrailed (tab : Nat) {mode : Mode} (quoted : Quoted mode) {raw noise : List Char}
    (harmless : Noise (modeAfter mode raw) noise) : ∃ out, Blank out ∧
      scan tab mode (raw ++ noise) = ((scan tab mode raw).1 ++ out, (scan tab mode raw).2) := by
  rw [scanAppend tab (noiseApart harmless) quoted]
  cases after : modeAfter mode raw with
  | none => exact ⟨[], by simp [Blank], by simp [continued]⟩
  | some last =>
    rw [after] at harmless
    obtain ⟨out, blank, gives⟩ := scanNoise tab (modeAfterQuoted quoted last after) harmless
    refine ⟨out, blank, ?_⟩
    rw [continued, gives, scanOpens tab raw quoted, after]
    simp

theorem stripTrailed (tab : Nat) (inside : Bool) {raw noise : List Char}
    (harmless : Noise (modeAfter (.ofComment inside) raw) noise) :
    strip tab inside (raw ++ noise) = strip tab inside raw := by
  obtain ⟨out, blank, gives⟩ := scanTrailed tab (quotedInside inside) harmless
  rw [strip, gives, strip]
  simp only [Text.trimEnd, Text.dropEndWhileDropsEnding blank]

theorem tabbedTrailed {mode : Mode} (quoted : Quoted mode) {raw noise : List Char}
    (harmless : Noise (modeAfter mode raw) noise)
    (tabbed : (scan 1 mode raw).1.length ≠ (scan 2 mode raw).1.length) :
    (scan 1 mode (raw ++ noise)).1.length ≠ (scan 2 mode (raw ++ noise)).1.length := by
  have narrower := scanNarrower (show 1 ≤ 2 by decide) raw quoted
  rw [scanAppend 1 (noiseApart harmless) quoted, scanAppend 2 (noiseApart harmless) quoted]
  cases after : modeAfter mode raw with
  | none => exact tabbed
  | some last =>
    have behind := scanNarrower (show 1 ≤ 2 by decide) noise (modeAfterQuoted quoted last after)
    simp only [continued, List.length_append]
    omega

theorem offsetAppend (tab : Nat) {column : Int} {raw : List Char} (within : column ≤ width tab raw)
    (more : List Char) : offsetOf tab column (raw ++ more) = offsetOf tab column raw := by
  induction raw generalizing column with
  | nil =>
    have reached : column ≤ 0 := within
    cases more with
    | nil => rfl
    | cons c more => simp [offsetOf, reached]
  | cons c rest ih =>
    rw [width] at within
    rw [List.cons_append, offsetOf, offsetOf, ih (by omega)]

end IndentLint.Source
