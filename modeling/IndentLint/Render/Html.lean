import IndentLint.Render.Plain

/-! Results as a page for a browser. Tags and text are kept apart until the page is written, and
only text holds data, so that no path or message can add a tag. -/
namespace IndentLint.Render.Html

open Check (FileResult Result Diagnostic)
open Document (shownText)

inductive Token where
  | opening (name : String)
  | classed (name className : String)
  | closing (name : String)
  | text (s : List Char)
  deriving DecidableEq, Repr

def escape (c : Char) : List Char :=
  if c = '&' then "&amp;".toList
  else if c = '<' then "&lt;".toList
  else if c = '>' then "&gt;".toList
  else if c = '"' then "&quot;".toList
  else if c = '\'' then "&#x27;".toList
  else [c]

def Token.write : Token → List Char
  | .opening name => ("<" ++ name ++ ">").toList
  | .classed name className => ("<" ++ name ++ " class=\"" ++ className ++ "\">").toList
  | .closing name => ("</" ++ name ++ ">").toList
  | .text s => s.flatMap escape

def text (s : String) : Token := .text s.toList

def lineBreak : Token := .text ['\n']

def element (name : String) (s : String) : List Token := [.opening name, text s, .closing name]

def styles : List String :=
  ["body \x7b font-family: Arial, sans-serif; margin: 20px; \x7d",
    ".file \x7b border: 1px solid #ccc; margin: 10px 0; padding: 10px; \x7d",
    ".over \x7b border-left: 3px solid #92b9d1; padding-left: 5px; \x7d",
    ".under \x7b border-left: 3px solid #d19292; padding-left: 5px; \x7d",
    ".error \x7b color: #d32f2f; \x7d"]

def head (r : Result) : List (List Token) :=
  [[.opening "html", .opening "head"] ++ element "title" "Indentation Check Results",
    [.opening "style"]]
    ++ styles.map (fun s => [text s])
    ++ [[.closing "style", .closing "head", .opening "body"],
      element "h1" "Indentation Check Results",
      element "p" s!"{r.problemCount} problems in {r.withProblems.length} of {r.files.length} files"]

def problem (p : Report.Problem Number.Quantity) : List Token :=
  .classed "div" p.direction.name :: element "strong" s!"Line {p.index + 1}: {p.direction.label}"
    ++ [text (" " ++ p.message), .closing "div"]

def file (f : FileResult) : List (List Token) :=
  [.classed "div" "file"] :: (element "h3" (shownText f.path) ++ element "p" (unitNote f.report))
    :: f.report.problems.map problem ++ [[.closing "div"]]

def failure (d : Diagnostic) : List Token :=
  [.classed "p" "error", text (failureNote d), .closing "p"]

def check (r : Result) : Except Unusable Unit := do
  r.withProblems.forM fun f =>
    if f.path.isNone then .error .absent
    else if hasUnitNote f.report then .ok () else .error .tooLong
  if r.failures.all (·.message.isSome) then .ok () else .error .absent

def page (r : Result) : List (List Token) :=
  head r ++ r.withProblems.flatMap file ++ r.failures.map failure
    ++ [[.closing "body", .closing "html"]]

def tokens (r : Result) : List Token := List.intercalate [lineBreak] (page r)

def write (r : Result) : String := String.ofList ((tokens r).flatMap Token.write)

end IndentLint.Render.Html
