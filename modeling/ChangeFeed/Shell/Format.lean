/-
# Formatted output

A format is text with escapes and directives.  Each directive uses up an argument, and up to two
more for its width and its precision; the format is used again as long as arguments are left.
Missing arguments are empty texts, or zero.  An argument that is no number is complained about and
counts as far as it is one.  A directive that there is not fails behind the output so far, and so
does one that asks for too many characters.
-/

import ChangeFeed.Shell.Decimal

namespace ChangeFeed.Shell

/-! ## Escapes -/

/-- Digits in front in base 8, at most so many, as a byte. -/
def takeOctal : Nat → Nat → Bytes → Char × Bytes
  | 0, value, rest => (Char.ofNat (value % 256), rest)
  | _ + 1, value, [] => (Char.ofNat (value % 256), [])
  | digits + 1, value, c :: rest =>
    if isDigitIn 8 c then takeOctal digits (8 * value + (c.toNat - '0'.toNat)) rest
    else (Char.ofNat (value % 256), c :: rest)

/-- The character that a letter after a backslash stands for. -/
def escapeOf? : Char → Option Char
  | 'a' => some '\x07'
  | 'b' => some '\x08'
  | 'e' => some '\x1b'
  | 'f' => some '\x0c'
  | 'n' => some '\n'
  | 'r' => some '\r'
  | 't' => some '\t'
  | 'v' => some '\x0b'
  | '\\' => some '\\'
  | _ => none

/-- The character that stands behind a backslash, and what follows; the backslash stands for itself
where there is none. -/
def takeEscape (text : Bytes) : Char × Bytes :=
  match text with
  | [] => ('\\', [])
  | c :: rest =>
    if isDigitIn 8 c then takeOctal 3 0 text
    else
      match escapeOf? c with
      | some c => (c, rest)
      | none => ('\\', text)

/-- An argument with its escapes replaced, in at most `fuel` steps, and whether it ends all output.
A zero may precede the three digits of an octal escape. -/
def unescape : Nat → Bytes → Bytes × Bool
  | 0, _ | _, [] => ([], false)
  | fuel + 1, '\\' :: rest =>
    match rest with
    | 'c' :: _ => ([], true)
    | _ =>
      let (c, rest) :=
        match rest with
        | '0' :: rest => takeOctal 3 0 rest
        | rest => takeEscape rest
      let (text, ends) := unescape fuel rest
      (c :: text, ends)
  | fuel + 1, c :: rest =>
    let (text, ends) := unescape fuel rest
    (c :: text, ends)

/-! ## Directives -/

/-- What a directive makes of an argument. -/
inductive Conversion where
  | text
  | escapedText
  | char
  | signed
  /-- A number in a base, with letters of either case. -/
  | unsigned (base : Nat) (isUpper : Bool)
  | float (style : FloatStyle) (isUpper : Bool)
  deriving DecidableEq, Repr

/-- How a directive lays out what it writes. -/
structure Layout where
  isLeft : Bool := false
  hasPlus : Bool := false
  hasSpace : Bool := false
  isAlternative : Bool := false
  hasZeros : Bool := false
  width : Nat := 0
  precision : Option Nat := none
  deriving DecidableEq, Repr

namespace Layout

/-- As many characters as one directive writes at most. -/
def maxLength : Nat := 2147483647

/-- Whether a directive asks for too many characters, be it in all or of a number. -/
def isTooLong (layout : Layout) : Bool :=
  layout.width ≥ maxLength || layout.precision.getD 0 > maxLength

def addFlag (layout : Layout) : Char → Layout
  | '-' => { layout with isLeft := true }
  | '+' => { layout with hasPlus := true }
  | ' ' => { layout with hasSpace := true }
  | '#' => { layout with isAlternative := true }
  | '0' => { layout with hasZeros := true }
  | _ => layout

/-- Fills a text up to the width.  What precedes it, such as a sign, stays in front of zeros. -/
def fill (layout : Layout) (zeros : Bool) (before text : Bytes) : Bytes :=
  let count := layout.width - (before.length + text.length)
  if layout.isLeft then before ++ text ++ List.replicate count ' '
  else if zeros && layout.hasZeros then before ++ List.replicate count '0' ++ text
  else List.replicate count ' ' ++ before ++ text

/-- The sign of a number that can be negative. -/
def sign (layout : Layout) (isNegative : Bool) : Bytes :=
  if isNegative then ['-']
  else if layout.hasPlus then ['+']
  else if layout.hasSpace then [' ']
  else []

/-- As much of a text as the precision admits. -/
def text (layout : Layout) (text : Bytes) : Bytes :=
  layout.fill false [] (layout.precision.elim text text.take)

/-- The digits of a number.  The precision asks for zeros in front, and a zero of no digits is not
written. -/
def digits (layout : Layout) (base magnitude : Nat) : Bytes :=
  if magnitude = 0 && layout.precision = some 0 then []
  else zeroFilled (layout.precision.getD 1) (Nat.toDigits base magnitude)

def signed (layout : Layout) (value : Int) : Bytes :=
  layout.fill layout.precision.isNone (layout.sign (value < 0)) (layout.digits 10 value.natAbs)

def unsigned (layout : Layout) (base : Nat) (isUpper : Bool) (value : Nat) : Bytes :=
  let digits := layout.digits base value
  let digits :=
    if base = 8 && layout.isAlternative && digits.head? ≠ some '0' then '0' :: digits else digits
  let before := if base = 16 && layout.isAlternative && value ≠ 0 then ['0', 'x'] else []
  let upper := if isUpper then List.map Char.toUpper else id
  layout.fill layout.precision.isNone (upper before) (upper digits)

def float (layout : Layout) (style : FloatStyle) (isUpper : Bool) (isNegative : Bool)
    (value : Binary64) : Bytes :=
  let upper := if isUpper then List.map Char.toUpper else id
  let sign := layout.sign isNegative
  match value with
  | .nan => layout.fill false sign (upper ['n', 'a', 'n'])
  | .infinite _ => layout.fill false sign (upper ['i', 'n', 'f'])
  | .finite _ significand exponent =>
    let before := if style = .hexadecimal then sign ++ upper ['0', 'x'] else sign
    layout.fill true before
      (upper (style.text layout.isAlternative layout.precision significand exponent))

end Layout

/-- The conversion of a letter. -/
def conversion? : Char → Option Conversion
  | 's' => some .text
  | 'b' => some .escapedText
  | 'c' => some .char
  | 'd' | 'i' => some .signed
  | 'u' => some (.unsigned 10 false)
  | 'o' => some (.unsigned 8 false)
  | 'x' => some (.unsigned 16 false)
  | 'X' => some (.unsigned 16 true)
  | 'f' => some (.float .fixed false)
  | 'F' => some (.float .fixed true)
  | 'e' => some (.float .exponent false)
  | 'E' => some (.float .exponent true)
  | 'g' => some (.float .general false)
  | 'G' => some (.float .general true)
  | 'a' => some (.float .hexadecimal false)
  | 'A' => some (.float .hexadecimal true)
  | _ => none

/-! ## Writing -/

/-- What is wrong with an argument that should be a number. -/
inductive NumberFault where
  | notNumeric
  | notWhole
  | outOfRange
  deriving DecidableEq, Repr

/-- What comes of a part of a format. -/
inductive Printed where
  | text (bytes : Bytes)
  /-- An argument is complained about. -/
  | complaint (argument : Bytes) (fault : NumberFault)
  deriving DecidableEq, Repr

/-- What a format has made of arguments, the last first, and the arguments that are left. -/
structure Printing where
  printed : List Printed := []
  left : List Bytes
  /-- Whether the format has used up an argument since it was begun. -/
  hasTaken : Bool := false
  deriving DecidableEq, Repr

namespace Printing

/-- What a format has made of arguments, in order. -/
def parts (printing : Printing) : List Printed :=
  printing.printed.reverse

/-- All that is written. -/
def output (printing : Printing) : Bytes :=
  printing.parts.flatMap fun
    | .text bytes => bytes
    | .complaint .. => []

def hasComplaints (printing : Printing) : Bool :=
  printing.printed.any fun
    | .text _ => false
    | .complaint .. => true

end Printing

/-- Why no more is written. -/
inductive PrintEnd where
  /-- An argument asked for it. -/
  | requested
  | failed (reason : Bytes)
  deriving DecidableEq, Repr

/-- Writes on, or ends. -/
abbrev Print := ExceptT PrintEnd (StateM Printing)

namespace Print

def write (bytes : Bytes) : Print Unit :=
  modify fun printing => { printing with printed := .text bytes :: printing.printed }

/-- Complains about an argument. -/
def complain (argument : Bytes) (fault : NumberFault) : Print Unit :=
  modify fun printing => { printing with
    printed := .complaint argument fault :: printing.printed }

/-- Uses up an argument. -/
def argument? : Print (Option Bytes) :=
  modifyGet fun printing =>
    match printing.left with
    | [] => (none, printing)
    | argument :: left => (some argument, { printing with left, hasTaken := true })

/-- Complains about an argument of which a rest is left. -/
def checkNumber (argument rest : Bytes) (isPresent isOutOfRange : Bool) : Print Unit :=
  if !rest.isEmpty then
    complain argument (if isPresent then .notWhole else .notNumeric)
  else if isOutOfRange then complain argument .outOfRange
  else return ()

/-- The number of the character behind a quote, if an argument starts with one. -/
def charNumber? : Bytes → Option Nat
  | '"' :: rest | '\'' :: rest => some ((rest.head?.map Char.toNat).getD 0)
  | _ => none

/-- Uses up an argument as a number in a range. -/
def number (range : Int → Int × Bool) : Print Int := do
  match ← argument? with
  | none => return 0
  | some argument =>
    match charNumber? argument with
    | some number => return number
    | none =>
      let numeral := Numeral.read none argument
      let (value, isOutOfRange) := range numeral.value
      checkNumber argument numeral.rest numeral.isPresent isOutOfRange
      return value

/-- Uses up an argument as a floating-point number, and tells whether it is negative. -/
def float : Print (Bool × Binary64) := do
  match ← argument? with
  | none => return (false, .finite false 0 0)
  | some argument =>
    match charNumber? argument with
    | some number => return (false, .ofQuotient false number 1)
    | none =>
      let numeral := FloatNumeral.read argument
      checkNumber argument numeral.rest numeral.isPresent numeral.isOutOfRange
      return (numeral.isNegative, numeral.value)

/-- A number of 32 bits, the others left out. -/
def small : Print Int := do
  return Int.bmod (← number toSigned) 4294967296

/-- Takes the width of a directive, which an argument can give; a negative one puts the text to the
left. -/
def takeWidth (layout : Layout) (format : Bytes) : Print (Layout × Bytes) := do
  match format with
  | '*' :: rest =>
    let width ← small
    return ({ layout with isLeft := layout.isLeft || width < 0, width := width.natAbs }, rest)
  | format =>
    let (digits, rest) := format.span Char.isDigit
    return ({ layout with width := digitsValue 10 digits }, rest)

/-- Takes the precision of a directive, which an argument can give; a negative one counts as
none. -/
def takePrecision (layout : Layout) (format : Bytes) : Print (Layout × Bytes) := do
  match format with
  | '.' :: '*' :: rest =>
    let precision ← small
    return ({ layout with precision := if precision < 0 then none else some precision.toNat }, rest)
  | '.' :: rest =>
    let (digits, rest) := rest.span Char.isDigit
    return ({ layout with precision := some (digitsValue 10 digits) }, rest)
  | format => return (layout, format)

/-- Fails if a layout asks for too many characters. -/
def checkLength (layout : Layout) : Print Unit := do
  if layout.isTooLong then throw (.failed "xvsnprintf failed".toList)

/-- Writes an argument as a directive asks for. -/
def convert (layout : Layout) : Conversion → Print Unit
  | .text => do
    let argument := (← argument?).getD []
    checkLength layout
    write (layout.text argument)
  | .escapedText => do
    let argument := (← argument?).getD []
    checkLength layout
    let (text, ends) := unescape argument.length argument
    write (layout.text text)
    if ends then throw .requested
  | .char => do
    let argument := (← argument?).getD []
    checkLength layout
    write (layout.fill false [] [argument.headD '\x00'])
  | .signed => do
    let value ← number toSigned
    checkLength layout
    write (layout.signed value)
  | .unsigned base isUpper => do
    let value ← number toUnsigned
    checkLength layout
    write (layout.unsigned base isUpper value.toNat)
  | .float style isUpper => do
    let (isNegative, value) ← float
    checkLength layout
    write (layout.float style isUpper isNegative value)

/-- Writes what a directive asks for, behind its percent sign: what follows the directive. -/
def directive (format : Bytes) : Print Bytes := do
  let isFlag (c : Char) : Bool := "#-+ 0".contains c
  let layout := (format.takeWhile isFlag).foldl Layout.addFlag {}
  let (layout, rest) ← takeWidth layout (format.dropWhile isFlag)
  let (layout, rest) ← takePrecision layout rest
  match rest with
  | [] => throw (.failed "missing format character".toList)
  | c :: rest =>
    match conversion? c with
    | none =>
      let text := format.take (format.length - rest.length)
      throw (.failed ('%' :: text ++ ": invalid directive".toList))
    | some conversion =>
      convert layout conversion
      return rest

/-- Uses a format once, in at most `fuel` steps. -/
def once : Nat → Bytes → Print Unit
  | 0, _ | _, [] => return ()
  | fuel + 1, '%' :: rest => do
    match rest with
    | '%' :: rest =>
      write ['%']
      once fuel rest
    | rest => once fuel (← directive rest)
  | fuel + 1, '\\' :: rest => do
    let (c, rest) := takeEscape rest
    write [c]
    once fuel rest
  | fuel + 1, c :: rest => do
    write [c]
    once fuel rest

/-- Uses a format at most `fuel + 1` times, until it uses up no more arguments. -/
def again (format : Bytes) : Nat → Print Unit
  | 0 => once format.length format
  | fuel + 1 => do
    modify fun printing => { printing with hasTaken := false }
    once format.length format
    let printing ← get
    if printing.hasTaken && !printing.left.isEmpty then again format fuel

end Print

/-- Arguments in a format: what is written, and the reason if that failed. -/
def printf (format : Bytes) (arguments : List Bytes) : Printing × Option Bytes :=
  match (Print.again format arguments.length).run.run { left := arguments } with
  | (.error (.failed reason), printing) => (printing, some reason)
  | (_, printing) => (printing, none)

/-- Arguments parted by spaces, with their escapes replaced, and whether all of them have been
written. -/
def echoWords : List Bytes → Bytes × Bool
  | [] => ([], true)
  | [argument] =>
    let (text, ends) := unescape argument.length argument
    (text, !ends)
  | argument :: rest =>
    let (text, ends) := unescape argument.length argument
    if ends then (text, false)
    else
      let (behind, isWhole) := echoWords rest
      (text ++ ' ' :: behind, isWhole)

/-- Arguments and the end of the line, unless the first argument asks for none. -/
def echo (arguments : List Bytes) : Bytes :=
  match arguments with
  | ['-', 'n'] :: rest => (echoWords rest).1
  | arguments =>
    let (text, isWhole) := echoWords arguments
    if isWhole then text ++ ['\n'] else text

end ChangeFeed.Shell
