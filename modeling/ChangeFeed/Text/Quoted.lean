/-
# Quoted text

A text is quoted for diagnostics: between double quotes, with a backslash before a quote or a
backslash, the short forms `\n`, `\r`, `\t` and `\0`, and every character without a visible form of
its own spelled out as `\u`, an opening brace, its code point in lower-case hexadecimal digits, and
a closing brace.  An apostrophe needs no escape.
-/

import ChangeFeed.Text.Printable

namespace ChangeFeed.Text

/-- The code point of a character in braces, in lower-case hexadecimal digits. -/
def numberedEscape (c : Char) : List Char :=
  '\\' :: 'u' :: '\x7b' :: (Nat.toDigits 16 c.toNat ++ ['\x7d'])

/-- One character as it stands between quotes. -/
def quoteChar (c : Char) : List Char :=
  if c = '"' then ['\\', '"']
  else if c = '\\' then ['\\', '\\']
  else if c = '\n' then ['\\', 'n']
  else if c = '\r' then ['\\', 'r']
  else if c = '\t' then ['\\', 't']
  else if c = '\x00' then ['\\', '0']
  else if isExtending c || isUnprintable c then numberedEscape c
  else [c]

/-- The text between double quotes, with escapes. -/
def quote (text : String) : String :=
  String.ofList ('"' :: (text.toList.flatMap quoteChar ++ ['"']))

end ChangeFeed.Text
