/-!
# Lines of a text

A line ends at `\n`, and a `\r` directly before that `\n` belongs to the line's end. What follows
the last `\n` is a line of its own unless it is empty, and a `\r` there is part of it.
-/

namespace EditorBridge.Text

/-- The lines of a text, without their ends. -/
def lines : List Char → List (List Char)
  | [] => []
  | '\n' :: rest => [] :: lines rest
  | '\r' :: '\n' :: rest => [] :: lines rest
  | c :: rest =>
    match lines rest with
    | [] => [[c]]
    | line :: more => (c :: line) :: more

end EditorBridge.Text
