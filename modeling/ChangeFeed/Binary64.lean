/-
# Binary floating-point numbers from decimal text

A decimal number stands for the nearest number with a significand of 53 bits and an exponent of 11,
ties going to the even significand; beyond the largest of these it is infinite.  Values are exact
integers times powers of two, so nothing here depends on a machine's arithmetic.
-/

namespace ChangeFeed

inductive Binary64 where
  /-- The value `significand * 2 ^ exponent`, negated if so marked. -/
  | finite (negative : Bool) (significand : Nat) (exponent : Int)
  | infinite (negative : Bool)
  | nan
  deriving DecidableEq, Repr

namespace Binary64

/-- The quotient rounded to the nearest integer, ties to the even one. -/
def roundToEven (numerator denominator : Nat) : Nat :=
  let quotient := numerator / denominator
  let twice := 2 * (numerator % denominator)
  if twice < denominator then quotient
  else if denominator < twice then quotient + 1
  else quotient + quotient % 2

/-- The quotient rounded to the nearest integer, ties away from zero. -/
def roundAway (numerator denominator : Nat) : Nat :=
  (2 * numerator + denominator) / (2 * denominator)

/-- The least exponent. -/
def minExponent : Int := -1074

/-- The exponent at which a positive quotient has a significand of 53 bits. -/
def exponentFor (numerator denominator : Nat) : Int :=
  let guess : Int := (Nat.log2 numerator : Int) - Nat.log2 denominator - 53
  -- the quotient lies in [2 ^ (guess + 52), 2 ^ (guess + 54))
  let large :=
    numerator * Nat.pow 2 (-(guess + 53)).toNat ≥ denominator * Nat.pow 2 (guess + 53).toNat
  max minExponent (if large then guess + 1 else guess)

/-- The number nearest to a quotient. -/
def ofQuotient (negative : Bool) (numerator denominator : Nat) : Binary64 :=
  if numerator = 0 then finite negative 0 0
  else
    let exponent := exponentFor numerator denominator
    let significand :=
      roundToEven (numerator * Nat.pow 2 (-exponent).toNat)
        (denominator * Nat.pow 2 exponent.toNat)
    if Nat.pow 2 1024 ≤ significand * Nat.pow 2 exponent.toNat then infinite negative
    else finite negative significand exponent

/-- The number nearest to `digits * 10 ^ exponent`.  The exponents at which every such number is
infinite or zero are told apart first. -/
def ofDecimal (negative : Bool) (digits : Nat) (exponent : Int) : Binary64 :=
  let magnitude : Int := (Nat.toDigits 10 digits).length + exponent
  if digits = 0 then finite negative 0 0
  else if 310 < magnitude then infinite negative
  else if magnitude < -330 then finite negative 0 0
  else ofQuotient negative (digits * Nat.pow 10 exponent.toNat) (Nat.pow 10 (-exponent).toNat)

/-- Whether the number is a zero. -/
def isZero : Binary64 → Bool
  | finite _ significand _ => significand == 0
  | _ => false

/-- The nearest natural number up to `limit`, ties going up; negative numbers and what is no number
give zero. -/
def toNatUpTo (limit : Nat) : Binary64 → Nat
  | finite true _ _ | infinite true | nan => 0
  | infinite false => limit
  | finite false significand exponent =>
    min limit (roundAway (significand * Nat.pow 2 exponent.toNat) (Nat.pow 2 (-exponent).toNat))

/-! ## Reading -/

/-- The value of decimal digits. -/
def digitsValue (digits : List Char) : Nat :=
  digits.foldl (fun value c => 10 * value + (c.toNat - '0'.toNat)) 0

/-- The digits in front and what follows them. -/
def splitDigits (cs : List Char) : List Char × List Char :=
  cs.span Char.isDigit

/-- A sign in front, and what follows it. -/
def splitSign : List Char → Bool × List Char
  | '-' :: rest => (true, rest)
  | '+' :: rest => (false, rest)
  | cs => (false, cs)

/-- The exponent after a significand: nothing, or a letter and a signed number. -/
def readExponent? : List Char → Option Int
  | [] => some 0
  | c :: rest =>
    if c = 'e' || c = 'E' then
      let (negative, rest) := splitSign rest
      match splitDigits rest with
      | ([], _) => none
      | (digits, []) =>
        let value : Int := digitsValue digits
        some (if negative then -value else value)
      | (_, _ :: _) => none
    else none

/-- Digits with at most one point among them, at least one digit, and an exponent. -/
def readDecimal? (negative : Bool) (cs : List Char) : Option Binary64 :=
  let (whole, rest) := splitDigits cs
  let (fraction, rest) :=
    match rest with
    | '.' :: rest => splitDigits rest
    | rest => ([], rest)
  if whole.isEmpty && fraction.isEmpty then none
  else
    (readExponent? rest).map fun exponent =>
      ofDecimal negative (digitsValue (whole ++ fraction)) (exponent - fraction.length)

/-- Reads a number: an optional sign, then digits with a point and an exponent, or `inf`,
`infinity` or `nan` in letters of any case. -/
def read? (text : String) : Option Binary64 :=
  let (negative, rest) := splitSign text.toList
  match String.ofList (rest.map Char.toLower) with
  | "inf" | "infinity" => some (infinite negative)
  | "nan" => some nan
  | _ => readDecimal? negative rest

end Binary64

end ChangeFeed
