import IndentLint.Proofs.Except
import IndentLint.Proofs.Render.Markup
import IndentLint.Render.Screen

/-! The page of a result, read as tags and texts. Which tags it has follows from the directions of the problems and
the number of the failures; paths and messages stand in texts and nowhere else, and can be had back from them. -/
namespace IndentLint.Render.Html
open Check (FileResult Result Diagnostic)
open Document (shownText)
open Report (Direction)

def Token.Proper : Token → Prop
  | .opening name | .closing name => '>' ∉ name.toList
  | .classed name className => '>' ∉ name.toList ∧ '>' ∉ className.toList
  | .text _ => True

@[simp] theorem openingProper (name : String) : (Token.opening name).Proper ↔ '>' ∉ name.toList := Iff.rfl

@[simp] theorem closingProper (name : String) : (Token.closing name).Proper ↔ '>' ∉ name.toList := Iff.rfl

@[simp] theorem classedProper (name className : String) :
    (Token.classed name className).Proper ↔ '>' ∉ name.toList ∧ '>' ∉ className.toList := Iff.rfl

@[simp] theorem textProper (s : String) : (text s).Proper := trivial

def Token.tag? : Token → Option (List Char)
  | .text _ => none
  | tag => some tag.write

@[simp] theorem tagText (s : String) : (text s).tag? = none := rfl

@[simp] theorem tagOpening (name : String) : (Token.opening name).tag? = some (Token.opening name).write := rfl

@[simp] theorem tagClosing (name : String) : (Token.closing name).tag? = some (Token.closing name).write := rfl

@[simp] theorem tagClassed (name className : String) :
    (Token.classed name className).tag? = some (Token.classed name className).write := rfl

def Token.onto (t : Token) (behind : List Char × List Part) : List Char × List Part :=
  match t.tag? with
  | none => (t.write ++ behind.1, behind.2)
  | some tag => ([], ⟨tag, behind.1⟩ :: behind.2)

def read (ts : List Token) : List Char × List Part := ts.foldr Token.onto ([], [])

theorem outsideToken {t : Token} (proper : t.Proper) (rest : List Char) :
    outside (t.write ++ rest) = t.onto (outside rest) := by
  cases t with
  | text s => exact outsideText (escapeBracketless s).1 rest
  | opening name =>
    have tag := outsideTag proper rest
    simpa [Token.write, Token.onto, Token.tag?] using tag
  | closing name =>
    have closed : '>' ∉ '/' :: name.toList := by simpa [Token.Proper] using proper
    have tag := outsideTag closed rest
    simpa [Token.write, Token.onto, Token.tag?] using tag
  | classed name className =>
    have closed : '>' ∉ name.toList ++ " class=\"".toList ++ className.toList ++ ['"'] := by
      simpa [Token.Proper] using proper
    have tag := outsideTag closed rest
    simpa [Token.write, Token.onto, Token.tag?] using tag

theorem outsideTokens {ts : List Token} (proper : ∀ t ∈ ts, t.Proper) :
    outside (ts.flatMap Token.write) = read ts := by
  induction ts with
  | nil => rfl
  | cons t rest ih =>
    obtain ⟨here, behind⟩ := List.forall_mem_cons.mp proper
    rw [List.flatMap_cons, outsideToken here, ih behind]
    rfl

/-! ### What is read -/

def tagsIn (ts : List Token) : List (List Char) := ts.filterMap Token.tag?

def textsIn (tag : List Char) (parts : List Part) : List (List Char) :=
  (parts.filter (·.tag = tag)).map Part.text

section
variable {t : Token}

theorem readTag {tag : List Char} (given : t.tag? = some tag) (rest : List Token) :
    read (t :: rest) = ([], ⟨tag, (read rest).1⟩ :: (read rest).2) := by
  rw [read, List.foldr_cons, Token.onto, given]
  rfl

theorem readText (s : List Char) (rest : List Token) :
    read (.text s :: rest) = (s.flatMap escape ++ (read rest).1, (read rest).2) := rfl

theorem tagWritten {tag : List Char} (given : t.tag? = some tag) : t.write = tag := by
  cases t with
  | text => contradiction
  | opening | classed | closing => exact Option.some.inj given

theorem textOnly (given : t.tag? = none) : ∃ s, t = .text s := by
  cases t with
  | text s => exact ⟨s, rfl⟩
  | opening | classed | closing => contradiction

end

@[simp] theorem tagsNil : tagsIn [] = [] := rfl

@[simp] theorem tagsCons (t : Token) (rest : List Token) : tagsIn (t :: rest) = t.tag?.toList ++ tagsIn rest := by
  rw [tagsIn, List.filterMap_cons]
  cases t.tag? <;> rfl

theorem readWritten (ts : List Token) :
    (read ts).1 ++ (read ts).2.flatMap (fun p => p.tag ++ p.text) = ts.flatMap Token.write := by
  induction ts with
  | nil => rfl
  | cons t rest ih =>
    rw [List.flatMap_cons, ← ih]
    cases given : t.tag? with
    | none =>
      obtain ⟨s, rfl⟩ := textOnly given
      rw [readText, List.append_assoc]
      rfl
    | some tag =>
      rw [readTag given, tagWritten given, List.flatMap_cons, List.append_assoc]
      rfl

theorem readTags (ts : List Token) : (read ts).2.map Part.tag = tagsIn ts := by
  induction ts with
  | nil => rfl
  | cons t rest ih =>
    rw [tagsCons, ← ih]
    cases given : t.tag? with
    | none =>
      obtain ⟨s, rfl⟩ := textOnly given
      rfl
    | some tag =>
      rw [readTag given]
      rfl

theorem readBracketless (ts : List Token) : ('<' ∉ (read ts).1 ∧ '>' ∉ (read ts).1) ∧
    ∀ p ∈ (read ts).2, '<' ∉ p.text ∧ '>' ∉ p.text := by
  induction ts with
  | nil => simp [read]
  | cons t rest ih =>
    cases given : t.tag? with
    | none =>
      obtain ⟨s, rfl⟩ := textOnly given
      obtain ⟨noOpening, noClosing⟩ := escapeBracketless s
      rw [readText, List.mem_append, List.mem_append, not_or, not_or]
      exact ⟨⟨⟨noOpening, ih.1.1⟩, noClosing, ih.1.2⟩, ih.2⟩
    | some tag =>
      rw [readTag given]
      exact ⟨⟨List.not_mem_nil, List.not_mem_nil⟩, List.forall_mem_cons.mpr ih⟩

def Yields (tag : List Char) (ts : List Token) (texts : List (List Char)) : Prop :=
  ∀ rest, textsIn tag (read (ts ++ rest)).2 = texts ++ textsIn tag (read rest).2

theorem yieldsAppend {tag : List Char} {ts us : List Token} {before behind : List (List Char)}
    (first : Yields tag ts before) (then' : Yields tag us behind) : Yields tag (ts ++ us) (before ++ behind) := by
  intro rest
  rw [List.append_assoc, first, then', List.append_assoc]

theorem yieldsFlatMap {α : Type} {tag : List Char} {f : α → List Token} {g : α → List (List Char)}
    {xs : List α} (each : ∀ x ∈ xs, Yields tag (f x) (g x)) : Yields tag (xs.flatMap f) (xs.flatMap g) := by
  induction xs with
  | nil => exact fun rest => rfl
  | cons x more ih =>
    obtain ⟨here, behind⟩ := List.forall_mem_cons.mp each
    rw [List.flatMap_cons, List.flatMap_cons]
    exact yieldsAppend here (ih behind)

theorem yieldsNothing {tag : List Char} {ts : List Token} (others : tag ∉ tagsIn ts) : Yields tag ts [] := by
  intro rest
  induction ts with
  | nil => rfl
  | cons t more ih =>
    rw [tagsCons, List.mem_append, not_or] at others
    rw [← ih others.2, List.cons_append]
    cases given : t.tag? with
    | none =>
      obtain ⟨s, rfl⟩ := textOnly given
      rfl
    | some other =>
      have different : other ≠ tag := fun same => others.1 (by simp [given, same])
      rw [readTag given, textsIn, List.filter_cons_of_neg (by simpa using different)]
      rfl

theorem yieldsElement {t close : Token} {tag other : List Char} (given : t.tag? = some tag)
    (closes : close.tag? = some other) (different : other ≠ tag) (s : List Char) :
    Yields tag [t, .text s, close] [s.flatMap escape] := by
  intro rest
  simp [readTag given, readText, readTag closes, textsIn, different]

/-! ### The tokens of a page -/

theorem tagsAppend (ts rest : List Token) : tagsIn (ts ++ rest) = tagsIn ts ++ tagsIn rest := List.filterMap_append

def lined (ls : List (List Token)) : List Token := ls.flatMap (lineBreak :: ·)

theorem linedAppend (ls more : List (List Token)) : lined (ls ++ more) = lined ls ++ lined more :=
  List.flatMap_append

theorem linedTail (ls : List (List Token)) : List.intercalate [lineBreak] ls = (lined ls).tail := by
  induction ls with
  | nil => rfl
  | cons line rest ih =>
    cases rest with
    | nil => simp [lined]
    | cons next more =>
      rw [List.intercalate_cons_cons, ih]
      simp [lined]

theorem linedTags (ls : List (List Token)) : tagsIn (lined ls) = ls.flatMap tagsIn := by
  induction ls with
  | nil => rfl
  | cons line rest ih =>
    rw [lined, List.flatMap_cons, tagsAppend, List.flatMap_cons, ← ih]
    rfl

theorem tailTags (ls : List (List Token)) : tagsIn (lined ls).tail = ls.flatMap tagsIn := by
  rw [← linedTags]
  cases ls <;> rfl

theorem yieldsTail {tag : List Char} {ls : List (List Token)} {texts : List (List Char)}
    (lines : Yields tag (lined ls) texts) : Yields tag (lined ls).tail texts := by
  cases ls with
  | nil => exact lines
  | cons line rest => exact lines

def problemTags (d : Direction) : List String :=
  ["<div class=\"" ++ d.name ++ "\">", "<strong>", "</strong>", "</div>"]

def fileTags (problems : List Direction) : List String :=
  ["<div class=\"file\">", "<h3>", "</h3>", "<p>", "</p>"] ++ problems.flatMap problemTags ++ ["</div>"]

def failureTags : List String := ["<p class=\"error\">", "</p>"]

def headTags : List String :=
  ["<html>", "<head>", "<title>", "</title>", "<style>", "</style>", "</head>", "<body>", "<h1>", "</h1>", "<p>",
    "</p>"]

def endTags : List String := ["</body>", "</html>"]

def pageTags (files : List (List Direction)) (failures : Nat) : List String :=
  headTags ++ files.flatMap fileTags ++ (List.replicate failures failureTags).flatten ++ endTags

theorem problemRead (p : Report.Problem Number.Quantity) :
    tagsIn (problem p) = (problemTags p.direction).map String.toList := by
  simp [problem, element, Token.write, problemTags]

theorem problemsRead (ps : List (Report.Problem Number.Quantity)) : (ps.map problem).flatMap tagsIn =
    ((ps.map (·.direction)).flatMap problemTags).map String.toList := by
  rw [List.flatMap_map, List.flatMap_map, List.map_flatMap]
  simp only [problemRead]

theorem fileRead (f : FileResult) : (file f).flatMap tagsIn =
    (fileTags (f.report.problems.map (·.direction))).map String.toList := by
  rw [file, List.flatMap_append, List.flatMap_cons, List.flatMap_cons, problemsRead, fileTags]
  simp [element, Token.write]

theorem failureRead (d : Diagnostic) : tagsIn (failure d) = failureTags.map String.toList := by
  simp [failure, Token.write, failureTags]

theorem headRead (r : Result) : (head r).flatMap tagsIn = headTags.map String.toList := by
  simp [head, element, styles, Token.write, headTags]

theorem endRead : [[Token.closing "body", .closing "html"]].flatMap tagsIn = endTags.map String.toList := by
  simp [Token.write, endTags]

theorem pageRead (r : Result) : tagsIn (tokens r) = (pageTags (r.withProblems.map fun f =>
    f.report.problems.map (·.direction)) r.failures.length).map String.toList := by
  have files : (r.withProblems.flatMap file).flatMap tagsIn = ((r.withProblems.map fun f =>
      f.report.problems.map (·.direction)).flatMap fileTags).map String.toList := by
    rw [List.flatMap_assoc, List.flatMap_map, List.map_flatMap]
    simp only [fileRead]
  have failures : (r.failures.map failure).flatMap tagsIn =
      (List.replicate r.failures.length failureTags).flatten.map String.toList := by
    rw [List.flatMap_map, ← List.map_const, ← List.flatMap_def, List.map_flatMap]
    simp only [failureRead, Function.const]
  rw [tokens, linedTail, tailTags, page, List.flatMap_append, List.flatMap_append, List.flatMap_append, headRead,
    files, failures, endRead, pageTags, List.map_append, List.map_append, List.map_append]

theorem directionClosed (d : Direction) : '>' ∉ d.name.toList := by cases d <;> decide

theorem headProper (r : Result) : ∀ line ∈ head r, ∀ t ∈ line, t.Proper := by
  simp [head, element, styles]

theorem fileProper (f : FileResult) : ∀ line ∈ file f, ∀ t ∈ line, t.Proper := by
  have problems : ∀ p ∈ f.report.problems, ∀ t ∈ problem p, t.Proper := by
    simp [problem, element, directionClosed]
  simp only [file, List.forall_mem_append, List.forall_mem_cons, List.forall_mem_map]
  exact ⟨⟨by simp, by simp [element], problems⟩, by simp⟩

theorem failureProper (d : Diagnostic) : ∀ t ∈ failure d, t.Proper := by
  simp [failure]

theorem tokensProper (r : Result) : ∀ t ∈ tokens r, t.Proper := by
  have lines : ∀ line ∈ page r, ∀ t ∈ line, t.Proper := by
    simp only [page, List.forall_mem_append, List.forall_mem_map, List.forall_mem_flatMap]
    have ending : ∀ t ∈ [Token.closing "body", .closing "html"], t.Proper := by simp
    exact ⟨⟨⟨headProper r, fun f _ => fileProper f⟩, fun d _ => failureProper d⟩,
      List.forall_mem_singleton.mpr ending⟩
  have all : ∀ t ∈ lined (page r), t.Proper := by
    simp only [lined, List.forall_mem_flatMap, List.forall_mem_cons]
    exact fun line member => ⟨trivial, lines line member⟩
  rw [tokens, linedTail]
  exact fun t member => all t (List.mem_of_mem_tail member)

/-! ### Headings and failures -/

def headingTag : String := "<h3>"

def failureTag : String := "<p class=\"error\">"

theorem silent {tag : String} {tags : List String} {ls : List (List Token)}
    (read : ls.flatMap tagsIn = tags.map String.toList) (others : tag ∉ tags) :
    Yields tag.toList (lined ls) [] := by
  apply yieldsNothing
  rw [linedTags, read, List.mem_map]
  intro ⟨other, member, same⟩
  exact others (String.toList_inj.mp same ▸ member)

theorem pageYields {tag : String} {r : Result} {inFile : FileResult → List (List Char)}
    {inFailure : Diagnostic → List (List Char)} (head : tag ∉ headTags) (ending : tag ∉ endTags)
    (files : ∀ f, Yields tag.toList (lined (file f)) (inFile f))
    (failures : ∀ d, Yields tag.toList (lined [failure d]) (inFailure d)) :
    textsIn tag.toList (read (tokens r)).2 = r.withProblems.flatMap inFile ++ r.failures.flatMap inFailure := by
  have eachFile : Yields tag.toList (lined (r.withProblems.flatMap file)) (r.withProblems.flatMap inFile) := by
    rw [lined, List.flatMap_assoc]
    exact yieldsFlatMap fun f _ => files f
  have eachFailure : Yields tag.toList (lined (r.failures.map failure)) (r.failures.flatMap inFailure) := by
    rw [lined, List.flatMap_map]
    exact yieldsFlatMap fun d _ => by simpa [lined] using failures d
  have whole : Yields tag.toList (tokens r)
      ([] ++ r.withProblems.flatMap inFile ++ r.failures.flatMap inFailure ++ []) := by
    rw [tokens, linedTail]
    apply yieldsTail
    rw [page, linedAppend, linedAppend, linedAppend]
    exact yieldsAppend (yieldsAppend (yieldsAppend (silent (headRead r) head) eachFile) eachFailure)
      (silent endRead ending)
  simpa [read, textsIn] using whole []

theorem problemUnnamed (d : Direction) : headingTag ∉ problemTags d ∧ failureTag ∉ problemTags d := by
  cases d <;> decide

theorem fileHeading (f : FileResult) :
    Yields headingTag.toList (lined (file f)) [(shownText f.path).toList.flatMap escape] := by
  have before : Yields headingTag.toList [lineBreak, .classed "div" "file", lineBreak] [] :=
    yieldsNothing (by decide)
  have heading : Yields headingTag.toList (element "h3" (shownText f.path))
      [(shownText f.path).toList.flatMap escape] :=
    yieldsElement rfl rfl (by decide) _
  have note : Yields headingTag.toList (element "p" (unitNote f.report)) [] :=
    yieldsNothing (by simp [element, Token.write, headingTag])
  have problems : Yields headingTag.toList (lined (f.report.problems.map problem)) [] :=
    silent (problemsRead f.report.problems) (by simp [problemUnnamed])
  have behind : Yields headingTag.toList (lined [[.closing "div"]]) [] := yieldsNothing (by decide)
  rw [file, linedAppend]
  exact yieldsAppend (yieldsAppend before (yieldsAppend (yieldsAppend heading note) problems)) behind

theorem fileWithoutFailure (f : FileResult) : Yields failureTag.toList (lined (file f)) [] := by
  apply silent (fileRead f)
  simp only [fileTags, List.mem_append, List.mem_flatMap, not_or, not_exists, not_and]
  exact ⟨⟨by decide, fun d _ => (problemUnnamed d).2⟩, by decide⟩

theorem failureWithoutHeading (d : Diagnostic) : Yields headingTag.toList (lined [failure d]) [] :=
  yieldsNothing (by
    rw [linedTags, List.flatMap_singleton, failureRead]
    decide)

theorem failureText (d : Diagnostic) :
    Yields failureTag.toList (lined [failure d]) [(failureNote d).toList.flatMap escape] :=
  have before : Yields failureTag.toList [lineBreak] [] := yieldsNothing (by decide)
  yieldsAppend before (yieldsElement rfl rfl (by decide) _)

theorem headingTexts (r : Result) : textsIn headingTag.toList (read (tokens r)).2 =
    r.withProblems.map fun f => (shownText f.path).toList.flatMap escape := by
  rw [pageYields (by decide) (by decide) fileHeading failureWithoutHeading]
  simp [List.map_eq_flatMap]

theorem failureTexts (r : Result) : textsIn failureTag.toList (read (tokens r)).2 =
    r.failures.map fun d => (failureNote d).toList.flatMap escape := by
  rw [pageYields (by decide) (by decide) fileWithoutFailure failureText]
  simp [List.map_eq_flatMap]

/-! ### Whole pages -/

def said (d : Diagnostic) : String := d.path.getD "None" ++ ": " ++ d.message.getD "None"

theorem shownTextIs (s : Option String) : shownText s = s.getD "None" := by cases s <;> rfl

theorem failureNoteIs (d : Diagnostic) : failureNote d = said d := by
  rw [failureNote, shownTextIs, shownTextIs, said]

theorem escapeUndone (s : String) : String.ofList (unescape (s.toList.flatMap escape)) = s := by
  rw [unescapeEscape, String.ofList_toList]

/- Paths and messages add no tag and no bracket, and stand in the texts as they are. -/
structure Unbroken (r : Result) (parts : List Part) : Prop where
  tags : parts.map Part.tag = (pageTags (r.withProblems.map fun f => f.report.problems.map (·.direction))
    r.failures.length).map String.toList
  bracketless : ∀ p ∈ parts, '<' ∉ p.text ∧ '>' ∉ p.text
  headings : (textsIn headingTag.toList parts).map (fun s => some (String.ofList (unescape s))) =
    r.withProblems.map (·.path)
  failures : (textsIn failureTag.toList parts).map (fun s => String.ofList (unescape s)) = r.failures.map said

theorem tokensUnbroken {r : Result} (paths : ∀ f ∈ r.withProblems, f.path.isSome) :
    Unbroken r (read (tokens r)).2 where
  tags := (readTags _).trans (pageRead r)
  bracketless := (readBracketless _).2
  headings := by
    rw [headingTexts, List.map_map]
    apply List.map_congr_left
    intro f member
    obtain ⟨path, named⟩ := Option.isSome_iff_exists.mp (paths f member)
    rw [Function.comp, escapeUndone, shownTextIs, named]
    rfl
  failures := by
    rw [failureTexts, List.map_map]
    exact List.map_congr_left fun d _ => (escapeUndone _).trans (failureNoteIs d)

theorem writtenTagged (r : Result) : ∃ parts, parts = (read (tokens r)).2 ∧
    (write r).toList = parts.flatMap (fun p => p.tag ++ p.text) ∧ outside (write r).toList = ([], parts) := by
  have chars : (write r).toList = (tokens r).flatMap Token.write := String.toList_ofList
  have tagged : (read (tokens r)).1 = [] := by
    rw [tokens, linedTail]
    rfl
  refine ⟨_, rfl, ?_, ?_⟩
  · rw [chars, ← readWritten, tagged, List.nil_append]
  · rw [chars, outsideTokens (tokensProper r)]
    exact Prod.ext tagged rfl

theorem checkEnds {r : Result} (paths : ∀ f ∈ r.withProblems, f.path.isSome)
    (messages : ∀ d ∈ r.failures, d.message.isSome) : check r = .ok () ∨
      (∃ f ∈ r.withProblems, hasUnitNote f.report = false) ∧ check r = .error .tooLong := by
  have named (f : FileResult) (member : f ∈ r.withProblems) : f.path.isNone = false := by
    simpa using paths f member
  unfold check
  cases ran : r.withProblems.forM fun f =>
      if f.path.isNone then Except.error Unusable.absent
      else if hasUnitNote f.report then .ok () else .error .tooLong with
  | ok =>
    left
    exact if_pos (List.all_eq_true.mpr messages)
  | error fault =>
    obtain ⟨before, f, behind, split, -, refused⟩ := forMError.mp ran
    have member : f ∈ r.withProblems := by simp [split]
    rw [named f member, if_neg (by decide)] at refused
    cases noted : hasUnitNote f.report with
    | true => simp [noted] at refused
    | false =>
      rw [noted] at refused
      cases refused
      exact .inr ⟨⟨f, member, noted⟩, rfl⟩

/- If files and failures have what the page names, it is read as tags with texts between them. There is no page
only where the unit of a file has more digits than can be written. -/
theorem dataAddsNoMarkup {r : Result} (paths : ∀ f ∈ r.withProblems, f.path.isSome)
    (messages : ∀ d ∈ r.failures, d.message.isSome) (showLines : Bool) :
    (∃ page parts, Render.result r "html" showLines = .ok page ∧
      page.toList = parts.flatMap (fun p => p.tag ++ p.text) ∧ outside page.toList = ([], parts) ∧
      Unbroken r parts) ∨
    (∃ f ∈ r.withProblems, hasUnitNote f.report = false) ∧ Render.result r "html" showLines = .error .tooLong := by
  have given : Render.result r "html" showLines = (check r).map fun _ => write r := by
    rw [Render.result, if_neg (by decide), if_pos rfl]
    cases check r <;> rfl
  rcases checkEnds paths messages with passed | ⟨long, refused⟩
  · left
    obtain ⟨parts, rfl, text, tags⟩ := writtenTagged r
    exact ⟨write r, _, by rw [given, passed]; rfl, text, tags, tokensUnbroken paths⟩
  · right
    exact ⟨long, by rw [given, refused]; rfl⟩

def hostile : Result where
  success := some false
  files :=
    [⟨some "a&lt;b<\"'.c", { unit := .whole 4, assessments := [⟨0, .over, 8, .whole 4, 4, 8, true⟩] }⟩]
  failures :=
    [{ category := .unknown, severity := .medium, context := none, message := some "</p><script>",
       path := some "<h3>&amp;" }]

theorem hostileDataAddsNoMarkup :
    (∀ f ∈ hostile.withProblems, f.path.isSome) ∧ (∀ d ∈ hostile.failures, d.message.isSome) ∧
      ∃ page parts, Render.result hostile "html" true = .ok page ∧
        page.toList = parts.flatMap (fun p => p.tag ++ p.text) ∧ outside page.toList = ([], parts) ∧
        Unbroken hostile parts :=
  have paths : ∀ f ∈ hostile.withProblems, f.path.isSome := by decide
  have messages : ∀ d ∈ hostile.failures, d.message.isSome := by decide
  have short : ¬ ∃ f ∈ hostile.withProblems, hasUnitNote f.report = false := by decide +kernel
  ⟨paths, messages, (dataAddsNoMarkup paths messages true).resolve_right fun long => short long.1⟩

end IndentLint.Render.Html
