/-
# Patterns

A pattern matches a whole text.  In it, `*` stands for any characters, `?` for one, and brackets for
one of those listed in them, or for one that is not; a backslash takes the next character literally.
Brackets that are not closed stand for themselves.
-/

import ChangeFeed.Shell.Number

namespace ChangeFeed.Shell.Pattern

/-- The place of a byte in the order of ranges: those of half the bytes come before all others. -/
def rank (c : Char) : Int :=
  if c.toNat < 128 then c.toNat else (c.toNat : Int) - 256

/-- Whether a character belongs to a named class, if there is such a class. -/
def class? (name : String) : Option (Char → Bool) :=
  let isGraphic (c : Char) : Bool := '!' ≤ c && c ≤ '~'
  match name with
  | "alnum" => some Char.isAlphanum
  | "alpha" => some Char.isAlpha
  | "blank" => some fun c => c = ' ' || c = '\t'
  | "cntrl" => some fun c => c < ' ' || c = '\x7f'
  | "digit" => some Char.isDigit
  | "graph" => some isGraphic
  | "lower" => some Char.isLower
  | "print" => some fun c => c = ' ' || isGraphic c
  | "punct" => some fun c => isGraphic c && !c.isAlphanum
  | "space" => some isSpace
  | "upper" => some Char.isUpper
  | "xdigit" => some (isDigitIn 16)
  | _ => none

/-- The class that is named at the start of a text, between colons in front of a closing bracket,
and what follows it. -/
def takeClass? : Bytes → Option ((Char → Bool) × Bytes)
  | ':' :: text =>
    match text.span (· ≠ ':') with
    | (name, ':' :: ']' :: rest) => (class? (String.ofList name)).map (·, rest)
    | _ => none
  | _ => none

/-- The characters up to the end of a bracket expression, in at most `fuel` steps: which ones are
listed, and what follows.  A closing bracket in the first place is listed. -/
def takeList? : Nat → (isFirst : Bool) → Bytes → Option ((Char → Bool) × Bytes)
  | 0, _, _ | _, _, [] => none
  | fuel + 1, isFirst, c :: rest =>
    if c = ']' && !isFirst then some (fun _ => false, rest)
    else
      let listing (isListed : Char → Bool) (rest : Bytes) : Option ((Char → Bool) × Bytes) :=
        (takeList? fuel false rest).map fun (others, behind) =>
          (fun c => isListed c || others c, behind)
      match if c = '[' then takeClass? rest else none with
      | some (isMember, rest) => listing isMember rest
      | none =>
        let (low, rest) :=
          match c, rest with
          | '\\', escaped :: rest => (escaped, rest)
          | _, _ => (c, rest)
        match rest with
        | '-' :: next :: behind =>
          if next = ']' then listing (· = low) rest
          else
            let (high, behind) :=
              match next, behind with
              | '\\', escaped :: behind => (escaped, behind)
              | _, _ => (next, behind)
            listing (fun c => rank low ≤ rank c && rank c ≤ rank high) behind
        | _ => listing (· = low) rest

/-- The characters of a bracket expression, behind its opening bracket, and what follows it. -/
def takeBrackets? (text : Bytes) : Option ((Char → Bool) × Bytes) :=
  let (isInverted, list) :=
    match text with
    | '!' :: rest => (true, rest)
    | _ => (false, text)
  (takeList? (list.length + 1) true list).map fun (isListed, rest) =>
    (fun c => isListed c != isInverted, rest)

/-- What a part of a pattern stands for. -/
inductive Element where
  /-- One character that passes a test. -/
  | one (isMember : Char → Bool)
  /-- Any characters. -/
  | many

/-- The elements of a pattern, in at most `fuel` steps. -/
def elementsWithin : Nat → Bytes → List Element
  | 0, _ | _, [] => []
  | fuel + 1, '*' :: '*' :: rest => elementsWithin fuel ('*' :: rest)
  | fuel + 1, '*' :: rest => .many :: elementsWithin fuel rest
  | fuel + 1, '?' :: rest => .one (fun _ => true) :: elementsWithin fuel rest
  | fuel + 1, '\\' :: c :: rest => .one (· = c) :: elementsWithin fuel rest
  | fuel + 1, c :: rest =>
    match if c = '[' then takeBrackets? rest else none with
    | some (isMember, rest) => .one isMember :: elementsWithin fuel rest
    | none => .one (· = c) :: elementsWithin fuel rest

def elements (pattern : Bytes) : List Element :=
  elementsWithin pattern.length pattern

/-- Whether elements match the empty text, for those up to each one in turn. -/
def matchNothing : (before : Bool) → List Element → List Bool
  | _, [] => []
  | _, .one _ :: rest => false :: matchNothing false rest
  | before, .many :: rest => before :: matchNothing before rest

/-- Whether elements match a text and one more character, for those up to each one in turn: from
whether they match the text.  In front of the first one, what matches them without the character and
with it is given. -/
def matchMore (c : Char) : (old new : Bool) → List Element → List Bool → List Bool
  | old, _, .one isMember :: rest, reached :: others =>
    let new := old && isMember c
    new :: matchMore c reached new rest others
  | _, new, .many :: rest, reached :: others =>
    let new := new || reached
    new :: matchMore c reached new rest others
  | _, _, _, _ => []

/-- Whether elements match the starts of a text that are longer than what is given, in turn: from
whether those up to each one match that, and none at all. -/
def matchStarts (elements : List Element) : (isStart : Bool) → List Bool → Bytes → List Bool
  | isStart, reached, [] => [reached.getLastD isStart]
  | isStart, reached, c :: rest =>
    reached.getLastD isStart ::
      matchStarts elements false (matchMore c isStart false elements reached) rest

/-- Whether elements match each start of a text, from the empty one on. -/
def startsMatched (elements : List Element) (text : Bytes) : List Bool :=
  matchStarts elements true (matchNothing true elements) text

/-- Whether elements match each end of a text, from the whole on. -/
def endsMatched (elements : List Element) (text : Bytes) : List Bool :=
  (startsMatched elements.reverse text.reverse).reverse

/-- Whether a pattern matches a text. -/
def «matches» (pattern text : Bytes) : Bool :=
  (startsMatched (elements pattern) text).getLastD false

/-- The text without the shortest or the longest part at its start or its end that a pattern
matches.  Where null characters part several texts, a match sees no more than one of them, and a
search from the start goes no further than the first. -/
def remove (atStart longest : Bool) (pattern text : Bytes) : Bytes :=
  let elements := elements pattern
  let first := text.takeWhile (· ≠ '\x00')
  let isMatched :=
    if atStart then
      let starts := startsMatched elements first
      starts ++ List.replicate (text.length - first.length) (starts.getLastD false)
    else (Bytes.splitOn '\x00' text).flatMap (endsMatched elements)
  let place? :=
    if atStart = longest then
      (isMatched.reverse.findIdx? id).map (text.length - ·)
    else (isMatched.take (first.length + 1)).findIdx? id
  match place? with
  | none => text
  | some place => if atStart then text.drop place else text.take place

end ChangeFeed.Shell.Pattern
