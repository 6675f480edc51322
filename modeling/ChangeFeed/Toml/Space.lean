/-
# Space between the parts of a settings document

A line ends with a line feed, alone or after a carriage return.  Blanks are spaces and tabs, and a
comment runs from a number sign to the end of its line.  Tabs are the only controls that may stand
outside the ends of lines.
-/

import ChangeFeed.Text.Scan

namespace ChangeFeed.Toml

open Text (Scan)

/-- Skips blanks. -/
def blanks : Scan Unit := do
  let _ ← Scan.takeWhile fun c => c = ' ' || c = '\t'

/-- A character that may stand in a comment, and for itself in a text. -/
def isPlainChar (c : Char) : Bool :=
  c = '\t' || (' ' ≤ c && c ≠ '\x7f')

/-- Skips a comment, if one is next. -/
def comment : Scan Unit := do
  if ← Scan.accept '#' then
    let _ ← Scan.takeWhile isPlainChar

/-- Takes the end of a line, if it is next. -/
def newLine : Scan Bool := fun text =>
  match text with
  | '\n' :: rest => some (true, rest)
  | '\r' :: '\n' :: rest => some (true, rest)
  | _ => some (false, text)

/-- Takes the end of a line or of the text. -/
def lineEnd : Scan Unit := do
  if !(← newLine) && (← Scan.peek?).isSome then failure

/-- Skips the rest of a line, which holds nothing but blanks and a comment. -/
def restOfLine : Scan Unit := do
  blanks
  comment
  lineEnd

/-- Skips blanks, comments and at most `fuel` ends of lines. -/
def space : Nat → Scan Unit
  | 0 => blanks
  | fuel + 1 => do
    blanks
    match ← Scan.peek? with
    | some '\n' | some '\r' | some '#' =>
      restOfLine
      space fuel
    | _ => return ()

end ChangeFeed.Toml
