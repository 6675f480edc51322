/-
# Floating-point numbers in formats

A number can be written with a fixed number of places, with an exponent, in the shorter of these two
forms, or with hexadecimal digits.  All of them come from the exact value: the last digit is rounded
to the nearest, ties to the even one.
-/

import ChangeFeed.Binary64
import ChangeFeed.Shell.Number

namespace ChangeFeed.Shell

/-- How a floating-point number is written. -/
inductive FloatStyle where
  | fixed
  | exponent
  | general
  | hexadecimal
  deriving DecidableEq, Repr

/-- A number that is not negative, as the quotient of two natural numbers. -/
structure Magnitude where
  numerator : Nat
  denominator : Nat
  deriving DecidableEq, Repr

namespace Magnitude

/-- The value `significand * 2 ^ exponent`. -/
def ofBinary (significand : Nat) (exponent : Int) : Magnitude :=
  ⟨significand * Nat.pow 2 exponent.toNat, Nat.pow 2 (-exponent).toNat⟩

/-- The value divided by a power of a base, as an integer. -/
def roundedBy (value : Magnitude) (base : Nat) (exponent : Int) : Nat :=
  Binary64.roundToEven (value.numerator * Nat.pow base (-exponent).toNat)
    (value.denominator * Nat.pow base exponent.toNat)

/-- Whether the value is at least a power of ten. -/
def reaches (value : Magnitude) (exponent : Int) : Bool :=
  value.denominator * Nat.pow 10 exponent.toNat ≤ value.numerator * Nat.pow 10 (-exponent).toNat

/-- The exponent of the first digit, at most `fuel` below a bound that is too large. -/
def leadingExponent (value : Magnitude) : Nat → Int → Int
  | 0, bound => bound
  | fuel + 1, bound => if value.reaches bound then bound else leadingExponent value fuel (bound - 1)

/-- The first `count` digits as a number, and the exponent of the first one. -/
def leadingDigits (value : Magnitude) (count : Nat) : Nat × Int :=
  if value.numerator = 0 then (0, 0)
  else
    let guess : Int :=
      (((Nat.log2 value.numerator : Int) - Nat.log2 value.denominator) * 30103).ediv 100000 + 2
    let exponent := value.leadingExponent 6 guess
    let digits := value.roundedBy 10 (exponent - (count - 1 : Nat))
    if digits = Nat.pow 10 count then (Nat.pow 10 (count - 1), exponent + 1) else (digits, exponent)

end Magnitude

/-- Digits in front of others until there are `count` of them. -/
def zeroFilled (count : Nat) (digits : Bytes) : Bytes :=
  List.replicate (count - digits.length) '0' ++ digits

/-- A whole number with a point in front of its last `places` digits. -/
def withPoint (keepsPoint : Bool) (places : Nat) (digits : Bytes) : Bytes :=
  let digits := zeroFilled (places + 1) digits
  let whole := digits.take (digits.length - places)
  let fraction := digits.drop (digits.length - places)
  if places = 0 && !keepsPoint then whole else whole ++ '.' :: fraction

/-- The text without the zeros at its end, and without a point there unless it is to be kept. -/
def withoutZeros (keepsPoint : Bool) (text : Bytes) : Bytes :=
  if text.contains '.' then
    let kept := (text.reverse.dropWhile (· = '0')).reverse
    if kept.getLast? = some '.' && !keepsPoint then kept.dropLast else kept
  else text

/-- No number has more decimal digits than this in front of the point, behind it, or from its first
one on. -/
def maxDigits : Nat := 1100

/-- Zeros in the places behind the last digit that a number has. -/
def zerosBehind (places : Nat) : Bytes :=
  List.replicate (places - maxDigits) '0'

/-- An exponent with its letter and its sign, in two digits at least. -/
def exponentText (letter : Char) (width : Nat) (exponent : Int) : Bytes :=
  letter :: (if exponent < 0 then '-' else '+') ::
    zeroFilled width (Nat.toDigits 10 exponent.natAbs)

namespace Magnitude

/-- The value with a fixed number of places. -/
def fixedText (value : Magnitude) (keepsPoint : Bool) (places : Nat) : Bytes :=
  let exact := min places maxDigits
  withPoint keepsPoint exact (Nat.toDigits 10 (value.roundedBy 10 (-exact))) ++ zerosBehind places

/-- The value with one digit in front of the point, and an exponent. -/
def exponentialText (value : Magnitude) (keepsPoint : Bool) (places : Nat) : Bytes × Bytes :=
  let exact := min places maxDigits
  let (digits, exponent) := value.leadingDigits (exact + 1)
  (withPoint keepsPoint exact (Nat.toDigits 10 digits) ++ zerosBehind places,
    exponentText 'e' 2 exponent)

/-- The value in a number of digits: with an exponent if it is below -4 or not below that number.
Zeros at the end are left out unless the point is to be kept; a value that only rounding has made
too large for a form without an exponent loses them anyway. -/
def generalText (value : Magnitude) (keepsPoint : Bool) (digits : Nat) : Bytes :=
  let digits := max digits 1
  let (_, exponent) := value.leadingDigits (min digits maxDigits)
  let shorten := if keepsPoint then id else withoutZeros false
  if -4 ≤ exponent && exponent < digits then
    shorten (value.fixedText keepsPoint (digits - 1 - exponent).toNat)
  else
    let (mantissa, exponentText) := value.exponentialText keepsPoint (digits - 1)
    let isRoundedUp := exponent = digits && !value.reaches digits
    (if isRoundedUp then withoutZeros keepsPoint mantissa else shorten mantissa) ++ exponentText

end Magnitude

/-- The value `significand * 2 ^ exponent` in hexadecimal digits, without the sign in front of them:
one digit in front of the point, which is 1 unless the number is too small. -/
def hexadecimalText (keepsPoint : Bool) (places? : Option Nat) (significand : Nat)
    (exponent : Int) : Bytes :=
  let (significand, exponent) :=
    if significand = Nat.pow 2 53 then (Nat.pow 2 52, exponent + 1) else (significand, exponent)
  let exponent := if significand = 0 then 0 else exponent + 52
  let places := places?.getD 13
  let exact := min places 13
  let digits := Binary64.roundToEven significand (Nat.pow 16 (13 - exact))
  let text :=
    withPoint keepsPoint exact (Nat.toDigits 16 digits) ++ List.replicate (places - exact) '0'
  let text := if places?.isSome then text else withoutZeros keepsPoint text
  text ++ exponentText 'p' 1 exponent

/-- The digits of a number that is not negative, in a style. -/
def FloatStyle.text (style : FloatStyle) (keepsPoint : Bool) (precision : Option Nat)
    (significand : Nat) (exponent : Int) : Bytes :=
  let value := Magnitude.ofBinary significand exponent
  match style with
  | fixed => value.fixedText keepsPoint (precision.getD 6)
  | FloatStyle.exponent =>
    let (mantissa, exponent) := value.exponentialText keepsPoint (precision.getD 6)
    mantissa ++ exponent
  | general => value.generalText keepsPoint (precision.getD 6)
  | hexadecimal => hexadecimalText keepsPoint precision significand exponent

/-! ## Reading -/

/-- A floating-point number at the start of a text. -/
structure FloatNumeral where
  value : Binary64
  isNegative : Bool
  isPresent : Bool
  isOutOfRange : Bool
  rest : Bytes

/-- The exponent behind a letter, if a number follows it, and what follows that. -/
def takeExponent (letter : Char) : Bytes → Int × Bytes
  | c :: rest =>
    if c.toLower = letter then
      let (isNegative, digits) := takeSign rest
      match digits.span Char.isDigit with
      | ([], _) => (0, c :: rest)
      | (digits, rest) =>
        let value : Int := digitsValue 10 digits
        (if isNegative then -value else value, rest)
    else (0, c :: rest)
  | [] => (0, [])

/-- Digits in a base with at most one point among them: those in front of it, those behind it, and
what follows. -/
def takeDigits (base : Nat) (text : Bytes) : Bytes × Bytes × Bytes :=
  let (whole, rest) := text.span (isDigitIn base)
  match rest with
  | '.' :: behind =>
    let (fraction, rest) := behind.span (isDigitIn base)
    if whole.isEmpty && fraction.isEmpty then ([], [], text) else (whole, fraction, rest)
  | rest => (whole, [], rest)

/-- Whether reading a number as a nearest one that is so small lost digits. -/
def isUnderflow (significand : Nat) (exponent : Int) (numerator denominator : Nat) : Bool :=
  significand < Nat.pow 2 52 &&
    significand * Nat.pow 2 exponent.toNat * denominator ≠
      numerator * Nat.pow 2 (-exponent).toNat

/-- The number nearest to a quotient, and whether that is out of range. -/
def nearest (isNegative : Bool) (numerator denominator : Nat) : Binary64 × Bool :=
  match Binary64.ofQuotient isNegative numerator denominator with
  | .finite sign significand exponent =>
    (.finite sign significand exponent,
      numerator ≠ 0 && isUnderflow significand exponent numerator denominator)
  | value => (value, true)

/-- The number nearest to `digits * base ^ exponent`, whose exponent is brought into a range outside
of which nothing changes. -/
def nearestPower (isNegative : Bool) (digits base : Nat) (exponent : Int) : Binary64 × Bool :=
  let bound : Int := 5000 + 4 * Nat.log2 digits
  let exponent := max (-bound) (min bound exponent)
  nearest isNegative (digits * Nat.pow base exponent.toNat) (Nat.pow base (-exponent).toNat)

/-- Whether letters in front of a text are the given ones, in any case. -/
def startsWithLetters (letters text : Bytes) : Bool :=
  (text.take letters.length).map Char.toLower = letters

/-- What follows `nan`: characters of a name between parentheses belong to it. -/
def behindNan (text : Bytes) : Bytes :=
  match text with
  | '(' :: rest =>
    match rest.dropWhile continuesName with
    | ')' :: rest => rest
    | _ => text
  | _ => text

/-- Reads a number without a sign: a word for one that is not finite, or digits in base 16 or 10. -/
def readUnsigned? (isNegative : Bool) (text : Bytes) : Option FloatNumeral :=
  if startsWithLetters "infinity".toList text then
    some ⟨.infinite isNegative, isNegative, true, false, text.drop 8⟩
  else if startsWithLetters "inf".toList text then
    some ⟨.infinite isNegative, isNegative, true, false, text.drop 3⟩
  else if startsWithLetters "nan".toList text then
    some ⟨.nan, isNegative, true, false, behindNan (text.drop 3)⟩
  else
    let isHexadecimal :=
      startsWithLetters "0x".toList text && (takeDigits 16 (text.drop 2)).2.2 ≠ text.drop 2
    let (base, digits) := if isHexadecimal then (16, text.drop 2) else (10, text)
    let (whole, fraction, rest) := takeDigits base digits
    if whole.isEmpty && fraction.isEmpty then none
    else
      let (exponent, rest) := takeExponent (if isHexadecimal then 'p' else 'e') rest
      let digits := digitsValue base (whole ++ fraction)
      let (value, isOutOfRange) :=
        if isHexadecimal then nearestPower isNegative digits 2 (exponent - 4 * fraction.length)
        else nearestPower isNegative digits 10 (exponent - fraction.length)
      some ⟨value, isNegative, true, isOutOfRange, rest⟩

/-- Reads a number behind space and a sign. -/
def FloatNumeral.read (text : Bytes) : FloatNumeral :=
  let (isNegative, digits) := takeSign (text.dropWhile isSpace)
  (readUnsigned? isNegative digits).getD ⟨.finite false 0 0, false, false, false, text⟩

end ChangeFeed.Shell
