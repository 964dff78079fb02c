/-!
# Lines

A line ends with a line feed, before which one carriage return belongs to the line end.  What comes
after the last line feed is a line as well, unless it is empty; a carriage return at its end is part
of it.
-/

namespace TopicPress.Text

/-- Drop one carriage return at the end. -/
def dropReturn (line : List Char) : List Char :=
  match line.reverse with
  | '\r' :: front => front.reverse
  | _ => line

/-- The lines of a text, where `line` holds the characters of the present line, last first. -/
def linesFrom (line : List Char) : List Char → List (List Char)
  | [] => if line.isEmpty then [] else [line.reverse]
  | c :: rest =>
    if c = '\n' then dropReturn line.reverse :: linesFrom [] rest else linesFrom (c :: line) rest

/-- The lines of a text, without their ends. -/
def lines (text : List Char) : List (List Char) := linesFrom [] text

end TopicPress.Text
