/-
# Texts over several lines

A text between three quotes may run over several lines.  An end of line behind the opening quotes
does not count, and all others are line feeds.  Up to two quotes may stand anywhere in the text,
also in front of the closing ones.  Between double quotes there are escapes, and a backslash at the
end of a line leaves out all space up to the next character.
-/

import ChangeFeed.Toml.Literal

namespace ChangeFeed.Toml

open Text (Scan)

/-- Skips blanks and at most `fuel` ends of lines. -/
def blankLines : Nat → Scan Unit
  | 0 => blanks
  | fuel + 1 => do
    blanks
    if ← newLine then blankLines fuel

/-- Takes what a backslash is followed by, after it: the rest of its line, or an escape. -/
def longEscape : Scan (List Char) := fun text =>
  match text with
  | ' ' :: _ | '\t' :: _ | '\n' :: _ | '\r' :: _ =>
    (do
      blanks
      if !(← newLine) then failure
      blankLines (← Scan.remaining)
      return []) text
  | _ => (do return [← escape]) text

/-- Takes a text up to its three closing quotes, in at most `fuel` steps. -/
def longBody (quote : Char) : Nat → Scan (List Char)
  | 0 => failure
  | fuel + 1 => do
    let quotes ← Scan.takeWhile (· = quote)
    if 2 < quotes.length then
      if 5 < quotes.length then failure
      return quotes.drop 3
    if ← newLine then return quotes ++ '\n' :: (← longBody quote fuel)
    let c ← Scan.next
    if c = '\\' && quote = '"' then
      let escaped ← longEscape
      return quotes ++ escaped ++ (← longBody quote fuel)
    else if isPlainChar c then return quotes ++ c :: (← longBody quote fuel)
    else failure

/-- Takes a text over several lines between given quotes, if one is next. -/
def longTextIn? (quote : Char) : Scan (Option String) := do
  if !([quote, quote, quote].isPrefixOf (← get)) then return none
  modify (·.drop 3)
  let _ ← newLine
  return some (String.ofList (← longBody quote ((← Scan.remaining) + 1)))

/-- Takes a text over several lines, if one is next. -/
def longText? : Scan (Option String) := do
  match ← longTextIn? '"' with
  | some text => return some text
  | none => longTextIn? '\''

end ChangeFeed.Toml
