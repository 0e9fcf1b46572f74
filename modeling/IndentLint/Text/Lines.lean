/-! Lines of a text. -/
namespace IndentLint.Text

def splitOn (sep : Char) : List Char → List (List Char)
  | [] => [[]]
  | c :: rest =>
    if c = sep then [] :: splitOn sep rest
    else match splitOn sep rest with
      | [] => [[c]]
      | piece :: pieces => (c :: piece) :: pieces

/-- The lines of a text. A newline at the very end closes the last line and opens none. -/
def lines (text : List Char) : List (List Char) :=
  let pieces := splitOn '\n' text
  if pieces.getLast? = some [] then pieces.dropLast else pieces

def unifyNewlines : List Char → List Char
  | [] => []
  | '\r' :: '\n' :: rest => '\n' :: unifyNewlines rest
  | c :: rest => (if c = '\r' then '\n' else c) :: unifyNewlines rest

end IndentLint.Text
