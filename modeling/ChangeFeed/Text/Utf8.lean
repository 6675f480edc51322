/-
# Text from bytes

Bytes are read as UTF-8.  What is no character becomes one replacement character for each longest
piece that could still have become one, so nothing that follows is lost.

A character of several bytes starts with a byte that tells their number; only the range of the
second depends on the first, which rules out overlong forms, surrogates and what lies beyond the
last code point.
-/

namespace ChangeFeed.Text

/-- The character that stands for what is no text. -/
def replacement : Char := '\uFFFD'

/-- A character of which some bytes have been read. -/
structure PartialChar where
  /-- The bits read so far. -/
  bits : Nat
  /-- How many bytes are missing. -/
  missing : Nat
  /-- The least next byte. -/
  least : Nat
  /-- The greatest next byte. -/
  greatest : Nat
  deriving DecidableEq, Repr

/-- The start of a character of several bytes. -/
def lead? (byte : Nat) : Option PartialChar :=
  if byte < 0xC2 then none
  else if byte < 0xE0 then some ⟨byte - 0xC0, 1, 0x80, 0xBF⟩
  else if byte < 0xF0 then
    some ⟨byte - 0xE0, 2, if byte = 0xE0 then 0xA0 else 0x80, if byte = 0xED then 0x9F else 0xBF⟩
  else if byte < 0xF5 then
    some ⟨byte - 0xF0, 3, if byte = 0xF0 then 0x90 else 0x80, if byte = 0xF4 then 0x8F else 0xBF⟩
  else none

/-- Reads a byte between characters. -/
def startChar (byte : Nat) : List Char × Option PartialChar :=
  if byte < 0x80 then ([Char.ofNat byte], none)
  else
    match lead? byte with
    | some started => ([], some started)
    | none => ([replacement], none)

/-- Reads a byte: the characters that it completes, and what is left open. -/
def readByte (opened : Option PartialChar) (byte : Nat) : List Char × Option PartialChar :=
  match opened with
  | none => startChar byte
  | some char =>
    if char.least ≤ byte ∧ byte ≤ char.greatest then
      let bits := 64 * char.bits + (byte - 0x80)
      if char.missing = 1 then ([Char.ofNat bits], none)
      else ([], some ⟨bits, char.missing - 1, 0x80, 0xBF⟩)
    else
      let (chars, opened) := startChar byte
      (replacement :: chars, opened)

/-- Reads bytes after the start of a character, or between characters. -/
def decodeFrom (opened : Option PartialChar) : List UInt8 → List Char
  | [] => if opened.isSome then [replacement] else []
  | byte :: rest =>
    let (chars, opened) := readByte opened byte.toNat
    chars ++ decodeFrom opened rest

/-- The text that bytes stand for. -/
def ofBytes (bytes : List UInt8) : String :=
  String.ofList (decodeFrom none bytes)

/-- The bytes of a text. -/
def toBytes (text : List Char) : List UInt8 :=
  text.flatMap String.utf8EncodeChar

end ChangeFeed.Text
