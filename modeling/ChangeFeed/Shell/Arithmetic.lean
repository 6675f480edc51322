/-
# Arithmetic

Expressions over numbers of 64 bits with a sign and over variables, which can be assigned to.  Of
the operators the tighter ones come first; what `&&`, `||` and `?:` leave out is read without being
evaluated.  Results beyond the range wrap around.
-/

import ChangeFeed.Shell.Session

namespace ChangeFeed.Shell

namespace Arithmetic

/-- A sign of an expression. -/
inductive Sign where
  | number (value : Int)
  | variable (name : Bytes)
  | operator (text : String)
  /-- An operator that assigns its result. -/
  | assignment (operator? : Option String)
  | unknown
  | none
  deriving DecidableEq, Repr

/-- The operators between two operands, from the tightest on. -/
def operators : List (List String) :=
  [["*", "/", "%"], ["+", "-"], ["<<", ">>"], ["<", "<=", ">", ">="], ["==", "!="], ["&"], ["^"],
    ["|"]]

/-- How loose an operator between two operands is. -/
def Sign.looseness? : Sign → Option Nat
  | operator text => operators.findIdx? (·.contains text)
  | _ => .none

/-- All operators, those that start with others in front of these. -/
def operatorTexts : List String :=
  ["<<", ">>", "<=", ">=", "==", "!=", "&&", "||", "+", "-", "*", "/", "%", "<", ">", "&", "^", "|",
    "!", "~", "?", ":", "(", ")"]

/-- The operators that can assign their results. -/
def assigning : List String :=
  ["*", "/", "%", "+", "-", "<<", ">>", "&", "^", "|"]

/-- The operator at the start of a text, and what follows it. -/
def takeOperator? (text : Bytes) : Option (Sign × Bytes) :=
  match operatorTexts.find? fun operator => operator.toList.isPrefixOf text with
  | .none =>
    match text with
    | '=' :: rest => some (.assignment .none, rest)
    | _ => .none
  | some operator =>
    match text.drop operator.length with
    | '=' :: rest =>
      if assigning.contains operator then some (.assignment (some operator), rest)
      else some (.operator operator, '=' :: rest)
    | rest => some (.operator operator, rest)

/-- The sign at the start of a text, behind space, and what follows it. -/
def takeSign (text : Bytes) : Sign × Bytes :=
  let text := text.dropWhile fun c => c = ' ' || c = '\t' || c = '\n'
  match text with
  | [] => (.none, [])
  | c :: rest =>
    if c.isDigit then
      let numeral := Numeral.read .none text
      (.number (toSigned numeral.value).1, numeral.rest)
    else if startsName c then
      (.variable (text.takeWhile continuesName), text.dropWhile continuesName)
    else (takeOperator? text).getD (.unknown, rest)

/-- An expression that is evaluated. -/
structure Place where
  whole : Bytes
  rest : Bytes
  /-- The sign behind what has been evaluated. -/
  last : Sign := .none

abbrev Calculation := StateT Place Run

def fail {α : Type} (reason : String) : Calculation α := do
  let place ← get
  liftM (Run.fail ("arithmetic expression: ".toList ++ reason.toList ++ ": \"".toList ++
    place.whole ++ ['"']) : Run α)

/-- Takes the next sign. -/
def next : Calculation Sign :=
  modifyGet fun place =>
    let (sign, rest) := takeSign place.rest
    (sign, { place with rest })

def setLast (last : Sign) : Calculation Unit :=
  modify fun place => { place with last }

def last : Calculation Sign := do
  return (← get).last

/-- The value of a variable; one that is not set is zero. -/
def valueOf (name : Bytes) : Run Int := do
  let text := ((← get).lookup? name).getD []
  match integer? text with
  | some value => return value
  | .none => Run.fail ("Illegal number: ".toList ++ text)

def ofBool (condition : Bool) : Int :=
  if condition then 1 else 0

/-- The value of an operator between two operands. -/
def apply (operator : String) (first second : Int) : Calculation Int := do
  if (operator = "/" || operator = "%") && second = 0 then fail "division by zero"
  let bits (combine : Nat → Nat → Nat) : Int :=
    combine (toUnsigned first).1.toNat (toUnsigned second).1.toNat
  let shift := (second % 64).toNat
  let value : Int :=
    match operator with
    | "*" => first * second
    | "/" => first.tdiv second
    | "%" => first.tmod second
    | "+" => first + second
    | "-" => first - second
    | "<<" => first * Nat.pow 2 shift
    | ">>" => first.fdiv (Nat.pow 2 shift)
    | "<" => ofBool (first < second)
    | "<=" => ofBool (first ≤ second)
    | ">" => ofBool (second < first)
    | ">=" => ofBool (second ≤ first)
    | "==" => ofBool (first = second)
    | "!=" => ofBool (first ≠ second)
    | "&" => bits (· &&& ·)
    | "^" => bits (· ^^^ ·)
    | _ => bits (· ||| ·)
  return wrapSigned value

mutual

/-- The value of what two signs start: a number, a variable, a sign with its operand, or an
expression between parentheses.  The second sign has been taken, too. -/
def primary : Nat → (isSkipped : Bool) → Sign → Sign → Calculation Int
  | 0, _, _, _ => fail "expecting primary"
  | fuel + 1, isSkipped, sign, following => do
    match sign with
    | .number value =>
      setLast following
      return value
    | .variable name =>
      setLast following
      if isSkipped then return 0
      liftM (valueOf name)
    | .operator "(" =>
      let value ← expression fuel isSkipped following
      if (← last) ≠ .operator ")" then fail "expecting ')'"
      setLast (← next)
      return value
    | .operator "+" => primary fuel isSkipped following (← next)
    | .operator "-" => return wrapSigned (-(← primary fuel isSkipped following (← next)))
    | .operator "!" => return ofBool ((← primary fuel isSkipped following (← next)) = 0)
    | .operator "~" => return -(← primary fuel isSkipped following (← next)) - 1
    | _ => fail "expecting primary"

/-- The value of an operand and of what operators that are tighter than a bound add to it. -/
def chain : Nat → (isSkipped : Bool) → (bound : Nat) → Int → (operator : String) → Nat →
    Calculation Int
  | 0, _, _, first, _, _ => return first
  | fuel + 1, isSkipped, bound, first, operator, looseness => do
    let sign ← next
    let second ← primary fuel isSkipped sign (← next)
    let second ←
      match ← last with
      | .operator tighter =>
        match (Sign.operator tighter).looseness? with
        | some inner =>
          if inner < looseness then chain fuel isSkipped looseness second tighter inner
          else pure second
        | .none => pure second
      | _ => pure second
    let value ← if isSkipped then pure second else apply operator first second
    match ← last with
    | .operator further =>
      match (Sign.operator further).looseness? with
      | some inner =>
        if inner < bound then chain fuel isSkipped bound value further inner else return value
      | .none => return value
    | _ => return value

/-- The value of operands between operators. -/
def operands : Nat → (isSkipped : Bool) → Sign → Sign → Calculation Int
  | 0, _, _, _ => fail "expecting primary"
  | fuel + 1, isSkipped, sign, following => do
    let first ← primary fuel isSkipped sign following
    match ← last with
    | .operator operator =>
      match (Sign.operator operator).looseness? with
      | some looseness => chain fuel isSkipped operators.length first operator looseness
      | .none => return first
    | _ => return first

/-- Whether all of several values are not zero. -/
def conjunction : Nat → (isSkipped : Bool) → Sign → Sign → Calculation Int
  | 0, _, _, _ => fail "expecting primary"
  | fuel + 1, isSkipped, sign, following => do
    let first ← operands fuel isSkipped sign following
    if (← last) ≠ .operator "&&" then return first
    let sign ← next
    let second ← conjunction fuel (isSkipped || first = 0) sign (← next)
    return ofBool (first ≠ 0 && second ≠ 0)

/-- Whether one of several values is not zero. -/
def disjunction : Nat → (isSkipped : Bool) → Sign → Sign → Calculation Int
  | 0, _, _, _ => fail "expecting primary"
  | fuel + 1, isSkipped, sign, following => do
    let first ← conjunction fuel isSkipped sign following
    if (← last) ≠ .operator "||" then return first
    let sign ← next
    let second ← disjunction fuel (isSkipped || first ≠ 0) sign (← next)
    return ofBool (first ≠ 0 || second ≠ 0)

/-- The value that a condition chooses. -/
def choice : Nat → (isSkipped : Bool) → Sign → Sign → Calculation Int
  | 0, _, _, _ => fail "expecting primary"
  | fuel + 1, isSkipped, sign, following => do
    let condition ← disjunction fuel isSkipped sign following
    if (← last) ≠ .operator "?" then return condition
    let positive ← expression fuel (isSkipped || condition = 0) (← next)
    if (← last) ≠ .operator ":" then fail "expecting ':'"
    let sign ← next
    let negative ← choice fuel (isSkipped || condition ≠ 0) sign (← next)
    return if condition ≠ 0 then positive else negative

/-- The value of an expression that starts with a sign, and may assign it. -/
def expression : Nat → (isSkipped : Bool) → Sign → Calculation Int
  | 0, _, _ => fail "expecting primary"
  | fuel + 1, isSkipped, sign => do
    let following ← next
    match sign, following with
    | .variable name, .assignment operator? =>
      let value ← expression fuel isSkipped (← next)
      if isSkipped then return value
      let value ←
        match operator? with
        | .none => pure value
        | some operator => do
          let old ← liftM (valueOf name)
          apply operator old value
      liftM (Run.assign name (decimalText value))
      return value
    | _, _ => choice fuel isSkipped sign following

end

/-- The value of a text. -/
def evaluate (text : Bytes) : Run Int := do
  let calculation : Calculation Int := do
    let value ← expression (8 * (text.length + 2)) false (← next)
    if (← last) ≠ .none then fail "expecting EOF"
    return value
  calculation.run' ⟨text, text, .none⟩

end Arithmetic

end ChangeFeed.Shell
