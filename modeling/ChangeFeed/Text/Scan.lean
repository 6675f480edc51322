/-
# Scanning a text

A scan reads from the front of a text, leaves the rest, and fails where the text does not fit.
-/

namespace ChangeFeed.Text

/-- Reads a member of `α` from the front of a text, and leaves the rest. -/
abbrev Scan := StateT (List Char) Option

namespace Scan

/-- The next character, not taken. -/
def peek? : Scan (Option Char) := do
  return (← get).head?

/-- Takes the next character. -/
def next : Scan Char := fun text =>
  match text with
  | [] => none
  | c :: rest => some (c, rest)

/-- Takes a given character if it is the next. -/
def accept (c : Char) : Scan Bool := fun text =>
  match text with
  | [] => some (false, [])
  | d :: rest => some (if d = c then (true, rest) else (false, text))

/-- Takes a given character, which must be the next. -/
def expect (c : Char) : Scan Unit := do
  if !(← accept c) then failure

/-- Takes the characters in front that satisfy a condition. -/
def takeWhile (accepts : Char → Bool) : Scan (List Char) := fun text =>
  some (text.span accepts)

/-- How many characters are left. -/
def remaining : Scan Nat := do
  return (← get).length

/-- Reads a text to its end. -/
def readAll? {α : Type} (scan : Scan α) (text : List Char) : Option α :=
  match scan.run text with
  | some (value, []) => some value
  | _ => none

end Scan

end ChangeFeed.Text
