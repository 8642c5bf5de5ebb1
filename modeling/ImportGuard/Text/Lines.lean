import ImportGuard.Text.Pieces

namespace ImportGuard.Text

/-- Every way to end a line with carriage returns as a newline. -/
def unifyNewlines : List Char → List Char
  | '\r' :: '\n' :: cs => '\n' :: unifyNewlines cs
  | '\r' :: cs => '\n' :: unifyNewlines cs
  | c :: cs => c :: unifyNewlines cs
  | [] => []

/-- The lines of a text, with a last empty one if it ends with a newline. -/
def lines (cs : List Char) : List (List Char) := pieces '\n' (unifyNewlines cs)

end ImportGuard.Text
