/-
# Conditions

The arguments of `test` form an expression of texts, numbers and properties of files, joined by
`-a`, `-o`, `!` and parentheses.  Up to four arguments are read by their number first, so that each
of them can be an operand.
-/

import ChangeFeed.Shell.Number

namespace ChangeFeed.Shell

namespace Condition

inductive Sign where
  | none
  | operand
  | unary (letter : Char)
  | binary (text : String)
  | conjunction
  | disjunction
  | negation
  | «open»
  | close
  deriving DecidableEq, Repr

/-- The operator that an argument is, if it is one. -/
def operator? (argument : Bytes) : Option Sign :=
  match argument with
  | ['-', 'a'] => some .conjunction
  | ['-', 'o'] => some .disjunction
  | ['!'] => some .negation
  | ['('] => some .open
  | [')'] => some .close
  | ['-', c] => if "rwxefdcbpugkstznhOGLS".contains c then some (.unary c) else Option.none
  | _ =>
    let text := String.ofList argument
    if ["=", "!=", "<", ">", "-eq", "-ne", "-ge", "-gt", "-le", "-lt", "-nt", "-ot", "-ef"].contains
        text then some (.binary text)
    else Option.none

def isBinary : Option Sign → Bool
  | some (.binary _) => true
  | _ => false

/-- What the first of some arguments is.  Where nothing can follow an operator, it is an operand. -/
def signOf : List Bytes → Sign
  | [] => .none
  | argument :: rest =>
    match operator? argument, rest with
    | some (.unary _), [] => .operand
    | some (.open), [] => .operand
    | some (.unary letter), [_] => .unary letter
    | some (.unary letter), next :: _ =>
      if isBinary (operator? next) then .operand else .unary letter
    | some sign, _ => sign
    | Option.none, _ => .operand

/-- What can be asked about the world. -/
structure Facts where
  /-- Whether a file has a property. -/
  holds : Char → Bytes → Bool

/-- Reads arguments, and leaves those from the last operand on; a failure says what is wrong. -/
abbrev Reading := StateT (List Bytes) (Except Bytes)

def number (argument : Bytes) : Reading Int := do
  let numeral := Numeral.read (some 10) argument
  let (value, isOutOfRange) := toSigned numeral.value
  if !numeral.isPresent || isOutOfRange || !(numeral.rest.dropWhile isSpace).isEmpty then
    throw ("Illegal number: ".toList ++ argument)
  return value

/-- The current argument. -/
def current : Reading Bytes := do
  return (← get).headD []

/-- Goes on to the next argument. -/
def advance : Reading Unit :=
  modify (·.drop 1)

/-- The sign of the current argument, and that of the next one. -/
def sign : Reading Sign := do
  return signOf (← get)

def nextSign : Reading Sign := do
  return signOf ((← get).drop 1)

def failAt {α : Type} (operator reason : String) : Reading α :=
  throw (operator ++ ": " ++ reason).toList

/-- Whether one text comes before another in the order of bytes. -/
def precedes : Bytes → Bytes → Bool
  | _, [] => false
  | [], _ :: _ => true
  | c :: first, d :: second => c < d || (c = d && precedes first second)

/-- The result of an operator between the current argument and the one behind it. -/
def compare (operator : String) : Reading Bool := do
  let first ← current
  advance
  advance
  match ← get with
  | [] => failAt operator "argument expected"
  | second :: _ =>
    let ordered (holds : Int → Int → Bool) : Reading Bool := do
      let first ← number first
      return holds first (← number second)
    match operator with
    | "=" => return first = second
    | "!=" => return first ≠ second
    | "<" => return precedes first second
    | ">" => return precedes second first
    | "-eq" => ordered (· == ·)
    | "-ne" => ordered (· != ·)
    | "-ge" => ordered (· ≥ ·)
    | "-gt" => ordered (· > ·)
    | "-le" => ordered (· ≤ ·)
    | "-lt" => ordered (· < ·)
    | _ => return false

/-- The result of an operator for the argument behind it. -/
def examine (facts : Facts) (letter : Char) : Reading Bool := do
  advance
  match ← get with
  | [] => failAt (String.ofList ['-', letter]) "argument expected"
  | argument :: _ =>
    match letter with
    | 'z' => return argument.isEmpty
    | 'n' => return !argument.isEmpty
    | 't' =>
      let _ ← number argument
      return false
    | _ => return facts.holds letter argument

mutual

def disjunction (facts : Facts) : Nat → Sign → Reading Bool
  | 0, _ => return false
  | fuel + 1, start => do
    let first ← conjunction facts fuel start
    if (← nextSign) = .disjunction then
      advance
      advance
      return (← disjunction facts fuel (← sign)) || first
    else return first

def conjunction (facts : Facts) : Nat → Sign → Reading Bool
  | 0, _ => return false
  | fuel + 1, start => do
    let first ← negation facts fuel start
    if (← nextSign) = .conjunction then
      advance
      advance
      return (← conjunction facts fuel (← sign)) && first
    else return first

def negation (facts : Facts) : Nat → Sign → Reading Bool
  | 0, _ => return false
  | fuel + 1, start => do
    if start = .negation then
      let next ← nextSign
      if next ≠ .none then advance
      return !(← negation facts fuel next)
    else primary facts fuel start

def primary (facts : Facts) : Nat → Sign → Reading Bool
  | 0, _ => return false
  | fuel + 1, start => do
    match start with
    | .none => return false
    | .open =>
      advance
      let start ← sign
      if start = .close then return false
      let result ← disjunction facts fuel start
      advance
      if (← sign) ≠ .close then throw "closing paren expected".toList
      return result
    | .unary letter => examine facts letter
    | _ =>
      match ← nextSign with
      | .binary operator => compare operator
      | _ => return !(← current).isEmpty

end

/-- The result of arguments, the first of which is read as given. -/
def whole (facts : Facts) (start : Sign) : Reading Bool := do
  let result ← disjunction facts (4 * ((← get).length + 2)) start
  match ← get with
  | argument :: _ :: _ =>
    throw (if argument.isEmpty then "unexpected operator".toList
      else argument ++ ": unexpected operator".toList)
  | _ => return result

/-- The result of arguments, or its opposite.  Of three or four arguments the first can negate what
follows, which does so once only. -/
def evaluate (facts : Facts) (isNegated : Bool) : List Bytes → Except Bytes Bool
  | [] => return false
  | first :: rest => do
    let read (start : Sign) (arguments : List Bytes) : Except Bytes Bool :=
      ((whole facts start).run' arguments).map (· != isNegated)
    let isComparison :=
      match rest with
      | [operator, _] => isBinary (operator? operator)
      | _ => false
    if isComparison then read .operand (first :: rest)
    else if rest.length ≠ 2 && rest.length ≠ 3 then read (signOf (first :: rest)) (first :: rest)
    else if first = ['('] && rest.getLast? = some [')'] then
      read (signOf rest.dropLast) rest.dropLast
    else if first = ['!'] then evaluate facts true rest
    else read (signOf (first :: rest)) (first :: rest)

end Condition

end ChangeFeed.Shell
