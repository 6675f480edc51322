/-
# Lines of a text

A line ends at a line feed, which may be preceded by one carriage return that belongs to the line
end.  A last line without a line end is a line as it stands, and an empty rest after the last line
end is none.  In particular a carriage return that ends the text stays in its line.
-/

namespace ChangeFeed.Text

/-- A line that ended at a line feed, given last character first, without the carriage return that
belongs to the line end. -/
def closeLine : List Char → List Char
  | '\r' :: line => line.reverse
  | line => line.reverse

/-- The lines of a text; `line` holds the characters of the line being read, last first. -/
def linesFrom (line : List Char) : List Char → List (List Char)
  | [] => if line.isEmpty then [] else [line.reverse]
  | '\n' :: rest => closeLine line :: linesFrom [] rest
  | c :: rest => linesFrom (c :: line) rest

/-- The lines of a text, in order and without their ends. -/
def lines (text : String) : List (List Char) :=
  linesFrom [] text.toList

end ChangeFeed.Text
