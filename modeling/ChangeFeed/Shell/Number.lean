/-
# Numbers in arguments

A number may follow space and a sign.  Where its base is not fixed, `0x` starts a hexadecimal
number and `0` an octal one.  A number that does not fit its range becomes the nearest that does.
-/

import ChangeFeed.Shell.Syntax
import ChangeFeed.Word

namespace ChangeFeed.Shell

/-- Space, as it is skipped around numbers. -/
def isSpace (c : Char) : Bool :=
  c = ' ' || ('\t' ≤ c && c ≤ '\r')

/-- The value of a digit or a letter. -/
def digitValue? (c : Char) : Option Nat :=
  if c.isDigit then some (c.toNat - '0'.toNat)
  else if 'a' ≤ c && c ≤ 'z' then some (c.toNat - 'a'.toNat + 10)
  else if 'A' ≤ c && c ≤ 'Z' then some (c.toNat - 'A'.toNat + 10)
  else none

/-- Whether a character is a digit in a base. -/
def isDigitIn (base : Nat) (c : Char) : Bool :=
  (digitValue? c).any (· < base)

/-- The value of digits in a base. -/
def digitsValue (base : Nat) (digits : Bytes) : Nat :=
  digits.foldl (fun value c => base * value + (digitValue? c).getD 0) 0

/-- A number at the start of a text. -/
structure Numeral where
  value : Int
  /-- Whether there is a number at all; if not, its value is zero. -/
  isPresent : Bool
  rest : Bytes
  deriving DecidableEq, Repr

/-- The sign in front of a number, and what follows it. -/
def takeSign : Bytes → Bool × Bytes
  | '-' :: rest => (true, rest)
  | '+' :: rest => (false, rest)
  | text => (false, text)

/-- The base of the digits in front, and the digits with what follows them. -/
def takeBase : Bytes → Nat × Bytes
  | '0' :: x :: c :: rest =>
    if (x = 'x' || x = 'X') && isDigitIn 16 c then (16, c :: rest)
    else (8, '0' :: x :: c :: rest)
  | '0' :: rest => (8, '0' :: rest)
  | text => (10, text)

/-- Reads a number in a base, or in the base that it tells itself. -/
def Numeral.read (base? : Option Nat) (text : Bytes) : Numeral :=
  let (isNegative, digits) := takeSign (text.dropWhile isSpace)
  let (base, digits) := (base?.map (·, digits)).getD (takeBase digits)
  match digits.span (isDigitIn base) with
  | ([], _) => ⟨0, false, text⟩
  | (digits, rest) =>
    let value : Int := digitsValue base digits
    ⟨if isNegative then -value else value, true, rest⟩

/-- A number as a signed one, and whether it was out of range. -/
def toSigned (value : Int) : Int × Bool :=
  if value < minInt64 then (minInt64, true)
  else if maxInt64 < value then (maxInt64, true)
  else (value, false)

/-- A number as an unsigned one, and whether it was out of range: negative numbers count from the
end of the range. -/
def toUnsigned (value : Int) : Int × Bool :=
  if maxUInt64 < value.natAbs then (maxUInt64, true) else (value % (maxUInt64 + 1 : Nat), false)

/-- A number as one of 64 bits with a sign, the others left out. -/
def wrapSigned (value : Int) : Int :=
  Int.bmod value (maxUInt64 + 1)

/-- The number that a whole text stands for, in its own base, which may be followed by space; no
digits stand for zero. -/
def integer? (text : Bytes) : Option Int :=
  let numeral := Numeral.read none text
  let (value, isOutOfRange) := toSigned numeral.value
  if isOutOfRange || !(numeral.rest.dropWhile isSpace).isEmpty then none else some value

/-- The count that a whole text stands for: a decimal number that is not negative and has 31 bits at
most.  Space may be around it. -/
def count? (text : Bytes) : Option Nat :=
  let numeral := Numeral.read (some 10) text
  if numeral.isPresent && (numeral.rest.dropWhile isSpace).isEmpty && 0 ≤ numeral.value &&
      numeral.value ≤ 2147483647 then
    some numeral.value.toNat
  else none

/-- A number in decimal digits. -/
def decimalText (value : Int) : Bytes :=
  let digits := Nat.toDigits 10 value.natAbs
  if value < 0 then '-' :: digits else digits

end ChangeFeed.Shell
