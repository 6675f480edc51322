/-
# Literals

The texts, numbers and truth values of a settings document.  A text stands between double quotes,
with escapes, or between single quotes, without; both stay on one line.  A number may have a sign
and underscores between its digits, and is decimal unless it starts with `0x`, `0o` or `0b`; whole
numbers have 64 bits and no leading zeros.  What has a point or an exponent is a fraction, and so
are `inf` and `nan`.
-/

import ChangeFeed.Toml.Space
import ChangeFeed.Value

namespace ChangeFeed.Toml

open Text (Scan)

/-! ## Texts -/

/-- The value of a digit below 16. -/
def digit? (c : Char) : Option Nat :=
  if c.isDigit then some (c.toNat - '0'.toNat)
  else if 'a' ≤ c && c ≤ 'f' then some (c.toNat - 'a'.toNat + 10)
  else if 'A' ≤ c && c ≤ 'F' then some (c.toNat - 'A'.toNat + 10)
  else none

/-- The character with a code point, unless that is a surrogate or too large. -/
def charOf? (code : Nat) : Option Char :=
  if h : code.isValidChar then some (Char.ofNatAux code h) else none

/-- Takes a code point of so many digits in base 16, after those that make up `code`. -/
def codePoint : Nat → Nat → Scan Char
  | 0, code => (charOf? code : Option Char)
  | digits + 1, code => do
    match digit? (← Scan.next) with
    | some digit => codePoint digits (16 * code + digit)
    | none => failure

/-- Takes the character that an escape stands for, after the backslash. -/
def escape : Scan Char := do
  match ← Scan.next with
  | 'b' => return '\x08'
  | 't' => return '\t'
  | 'n' => return '\n'
  | 'f' => return '\x0c'
  | 'r' => return '\r'
  | '"' => return '"'
  | '\\' => return '\\'
  | 'u' => codePoint 4 0
  | 'U' => codePoint 8 0
  | _ => failure

/-- Takes a text to its closing double quote, in at most `fuel` characters. -/
def escapedText : Nat → Scan (List Char)
  | 0 => failure
  | fuel + 1 => do
    let c ← Scan.next
    if c = '"' then return []
    else if c = '\\' then
      let c ← escape
      return c :: (← escapedText fuel)
    else if isPlainChar c then return c :: (← escapedText fuel)
    else failure

/-- Takes a text to its closing single quote. -/
def literalText : Scan (List Char) := do
  let text ← Scan.takeWhile fun c => c ≠ '\'' && isPlainChar c
  Scan.expect '\''
  return text

/-- Takes a text between quotes, if one is next. -/
def quoted? : Scan (Option String) := do
  if ← Scan.accept '"' then
    return some (String.ofList (← escapedText (← Scan.remaining)))
  else if ← Scan.accept '\'' then return some (String.ofList (← literalText))
  else return none

/-! ## Numbers -/

/-- Digits in a base with single underscores between them, the underscores left out. -/
def digits? (base : Nat) : List Char → Option (List Char)
  | [] => none
  | [c] => if (digit? c).any (· < base) then some [c] else none
  | c :: '_' :: rest =>
    if (digit? c).any (· < base) then (digits? base rest).map (c :: ·) else none
  | c :: rest => if (digit? c).any (· < base) then (digits? base rest).map (c :: ·) else none

/-- The number that digits in a base stand for. -/
def digitsValue (base : Nat) (digits : List Char) : Nat :=
  digits.foldl (fun value c => base * value + (digit? c).getD 0) 0

/-- A whole number if it has 64 bits. -/
def int? (value : Int) : Option Value :=
  if minInt64 ≤ value ∧ value ≤ maxInt64 then some (.int value) else none

/-- Whole digits without leading zeros. -/
def whole? (cs : List Char) : Option (List Char) := do
  let digits ← digits? 10 cs
  if 1 < digits.length && digits.head? = some '0' then none else some digits

/-- An exponent: a letter, a sign or none, and digits. -/
def exponent? : List Char → Option Int
  | [] => some 0
  | c :: rest => do
    if c ≠ 'e' && c ≠ 'E' then none
    let (negative, rest) := Binary64.splitSign rest
    let value : Int := digitsValue 10 (← digits? 10 rest)
    return if negative then -value else value

/-- A fraction from its digits before the point, those after it, and its exponent.  One that is
positive and beyond the largest number is refused. -/
def fraction? (negative : Bool) (whole fraction : List Char) (exponent : Int) : Option Value :=
  match Binary64.ofDecimal negative (digitsValue 10 (whole ++ fraction))
      (exponent - fraction.length) with
  | .infinite false => none
  | number => some (.float number)

/-- A decimal number after its sign. -/
def decimal? (negative : Bool) (cs : List Char) : Option Value := do
  let isWhole (c : Char) : Bool := c.isDigit || c = '_'
  let whole ← whole? (cs.takeWhile isWhole)
  match cs.dropWhile isWhole with
  | [] =>
    let value : Int := digitsValue 10 whole
    int? (if negative then -value else value)
  | '.' :: rest =>
    fraction? negative whole (← digits? 10 (rest.takeWhile isWhole))
      (← exponent? (rest.dropWhile isWhole))
  | rest => fraction? negative whole [] (← exponent? rest)

/-- A whole number in another base, after what names the base. -/
def inBase? (base : Nat) (cs : List Char) : Option Value := do
  int? (digitsValue base (← digits? base cs))

/-- The value of a bare word. -/
def word? (cs : List Char) : Option Value :=
  let (negative, rest) := Binary64.splitSign cs
  match String.ofList rest with
  | "inf" => some (.float (.infinite negative))
  | "nan" => some (.float .nan)
  | _ =>
    match cs with
    | ['t', 'r', 'u', 'e'] => some (.bool true)
    | ['f', 'a', 'l', 's', 'e'] => some (.bool false)
    | '0' :: 'x' :: digits => inBase? 16 digits
    | '0' :: 'o' :: digits => inBase? 8 digits
    | '0' :: 'b' :: digits => inBase? 2 digits
    | _ => decimal? negative rest

/-- A character of a bare word. -/
def isWordChar (c : Char) : Bool :=
  c.isAlphanum || c = '_' || c = '+' || c = '-' || c = '.'

/-- Takes a number or a truth value. -/
def word : Scan Value := do
  (word? (← Scan.takeWhile isWordChar) : Option Value)

end ChangeFeed.Toml
