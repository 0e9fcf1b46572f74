import IndentLint.Render.Html

/-! Pages read as tags with the texts between them, and texts with their escapes undone. A text that was escaped
holds no bracket of a tag, and undoing the escapes gives it back. -/
namespace IndentLint.Render.Html

structure Part where
  tag : List Char
  text : List Char
  deriving DecidableEq, Repr

mutual

def outside : List Char → List Char × List Part
  | [] => ([], [])
  | c :: rest =>
    if c = '<' then ([], ⟨c :: (inside rest).1, (inside rest).2.1⟩ :: (inside rest).2.2)
    else (c :: (outside rest).1, (outside rest).2)

def inside : List Char → List Char × List Char × List Part
  | [] => ([], [], [])
  | c :: rest => if c = '>' then ([c], outside rest) else (c :: (inside rest).1, (inside rest).2)

end

def unescape : List Char → List Char
  | '&' :: 'a' :: 'm' :: 'p' :: ';' :: rest => '&' :: unescape rest
  | '&' :: 'l' :: 't' :: ';' :: rest => '<' :: unescape rest
  | '&' :: 'g' :: 't' :: ';' :: rest => '>' :: unescape rest
  | '&' :: 'q' :: 'u' :: 'o' :: 't' :: ';' :: rest => '"' :: unescape rest
  | '&' :: '#' :: 'x' :: '2' :: '7' :: ';' :: rest => '\'' :: unescape rest
  | c :: rest => c :: unescape rest
  | [] => []

theorem unescapeOther {c : Char} (other : c ≠ '&') (rest : List Char) : unescape (c :: rest) = c :: unescape rest := by
  rw [unescape] <;> simp [other]

theorem escapeOther {c : Char} (amp : c ≠ '&') (lt : c ≠ '<') (gt : c ≠ '>') (quote : c ≠ '"')
    (single : c ≠ '\'') : escape c = [c] := by simp [escape, amp, lt, gt, quote, single]

theorem escapeCases {motive : Char → Prop} (amp : motive '&') (lt : motive '<') (gt : motive '>')
    (quote : motive '"') (single : motive '\'') (other : ∀ c, c ≠ '&' → escape c = [c] → c ≠ '<' → c ≠ '>' → motive c)
    (c : Char) : motive c := by
  by_cases isAmp : c = '&'
  · exact isAmp ▸ amp
  by_cases isLt : c = '<'
  · exact isLt ▸ lt
  by_cases isGt : c = '>'
  · exact isGt ▸ gt
  by_cases isQuote : c = '"'
  · exact isQuote ▸ quote
  by_cases isSingle : c = '\''
  · exact isSingle ▸ single
  exact other c isAmp (escapeOther isAmp isLt isGt isQuote isSingle) isLt isGt

theorem unescapeEscape (s : List Char) : unescape (s.flatMap escape) = s := by
  induction s with
  | nil => rfl
  | cons c rest ih =>
    rw [List.flatMap_cons]
    induction c using escapeCases with
    | amp | lt | gt | quote | single => exact congrArg _ ih
    | other c plain same => rw [same, List.singleton_append, unescapeOther plain, ih]

theorem escapeBracketless (s : List Char) : '<' ∉ s.flatMap escape ∧ '>' ∉ s.flatMap escape := by
  induction s with
  | nil => simp
  | cons c rest ih =>
    rw [List.flatMap_cons, List.mem_append, List.mem_append]
    have own : '<' ∉ escape c ∧ '>' ∉ escape c := by
      induction c using escapeCases with
      | amp | lt | gt | quote | single => decide
      | other c _ same lt gt => simp [same, Ne.symm lt, Ne.symm gt]
    exact ⟨by simp [own.1, ih.1], by simp [own.2, ih.2]⟩

theorem outsideText {s : List Char} (bracketless : '<' ∉ s) (rest : List Char) :
    outside (s ++ rest) = (s ++ (outside rest).1, (outside rest).2) := by
  induction s with
  | nil => rfl
  | cons c more ih =>
    rw [List.mem_cons, not_or] at bracketless
    obtain ⟨plain, behind⟩ := bracketless
    rw [List.cons_append, outside, if_neg (Ne.symm plain), ih behind]
    rfl

theorem insideTag {name : List Char} (closed : '>' ∉ name) (rest : List Char) :
    inside (name ++ '>' :: rest) = (name ++ ['>'], outside rest) := by
  induction name with
  | nil => rw [List.nil_append, inside, if_pos rfl, List.nil_append]
  | cons c more ih =>
    rw [List.mem_cons, not_or] at closed
    obtain ⟨plain, behind⟩ := closed
    rw [List.cons_append, inside, if_neg (Ne.symm plain), ih behind]
    rfl

theorem outsideTag {name : List Char} (closed : '>' ∉ name) (rest : List Char) :
    outside ('<' :: name ++ '>' :: rest) =
      ([], ⟨'<' :: name ++ ['>'], (outside rest).1⟩ :: (outside rest).2) := by
  rw [List.cons_append, outside, if_pos rfl, insideTag closed]
  rfl

end IndentLint.Render.Html
