/-
# Dates and times

A date is a year, a month and a day; a time of the day has hours, minutes and seconds, which may be
60 and may have a fraction.  A date may be followed by a time, and that by its distance from
universal time.

While a document is read a moment stands as a table whose first key is reserved for that, with the
text of the moment as its value.  A document may write such a table out, and then the text must be
that of a moment and other keys do not count.  Settings have no use for moments, so in the end a
moment is the text that it is.
-/

import ChangeFeed.Text.Scan
import ChangeFeed.Value

namespace ChangeFeed.Toml

open Text (Scan)

/-- Takes a number of so many digits that is in a range. -/
def digitsWithin (digits least greatest : Nat) : Scan Nat := fun text =>
  let front := text.take digits
  let value := front.foldl (fun value c => 10 * value + (c.toNat - '0'.toNat)) 0
  if front.length = digits && front.all Char.isDigit && least ≤ value && value ≤ greatest then
    some (value, text.drop digits)
  else none

/-- How many days a month has. -/
def daysOf (year month : Nat) : Nat :=
  if month = 2 then
    if year % 4 = 0 && (year % 100 ≠ 0 || year % 400 = 0) then 29 else 28
  else if [4, 6, 9, 11].contains month then 30
  else 31

/-- Takes a date. -/
def date : Scan Unit := do
  let year ← digitsWithin 4 0 9999
  Scan.expect '-'
  let month ← digitsWithin 2 1 12
  Scan.expect '-'
  let _ ← digitsWithin 2 1 (daysOf year month)

/-- Takes hours, up to a last one, and minutes. -/
def clock (lastHour : Nat) : Scan Unit := do
  let _ ← digitsWithin 2 0 lastHour
  Scan.expect ':'
  let _ ← digitsWithin 2 0 59

/-- Takes a time of the day, in hours up to a last one. -/
def time (lastHour : Nat) : Scan Unit := do
  clock lastHour
  Scan.expect ':'
  let _ ← digitsWithin 2 0 60
  if ← Scan.accept '.' then
    if (← Scan.takeWhile Char.isDigit).isEmpty then failure

/-- Takes the distance from universal time, if there is one, with what is behind its sign. -/
def offset (distance : Scan Unit) : Scan Unit := do
  let c ← Scan.peek?
  if c = some 'Z' || c = some 'z' then
    let _ ← Scan.next
  else if c = some '+' || c = some '-' then
    let _ ← Scan.next
    distance

/-- Takes the character between a date and a time, if it is next. -/
def dateEnd : Scan Bool := do
  let c ← Scan.peek?
  if c = some 'T' || c = some 't' || c = some ' ' then
    let _ ← Scan.next
    return true
  else return false

/-- Takes a time behind a date. -/
def timeOfDate : Scan Unit := do
  if !(← dateEnd) then failure
  time 23
  offset (clock 23)

/-- Takes a moment, if one is next. -/
def moment? : Scan (Option String) := fun text =>
  let whole : Scan Unit := do
    (do
      date
      timeOfDate <|> return ()) <|> time 23
  match whole.run text with
  | some (_, rest) => some (some (String.ofList (text.take (text.length - rest.length))), rest)
  | none => some (none, text)

/-! ## Moments as tables -/

/-- Takes a distance from universal time of at most a day. -/
def distanceWithinDay : Scan Unit := do
  let hours ← digitsWithin 2 0 99
  Scan.expect ':'
  let minutes ← digitsWithin 2 0 99
  if 24 * 60 < hours * 60 + minutes then failure

/-- Takes a moment as a table may give it: the day ends at 24 hours, what is left of the hour of a
distance is not checked, and a date that announces a time must have one. -/
def givenMoment : Scan Unit := do
  (do
    date
    if ← dateEnd then
      time 24
      offset distanceWithinDay) <|> time 24

/-- The first key of a table that is a moment. -/
def momentKey : String := "$__toml_private_datetime"

/-- A moment as a table. -/
def momentTable (text : String) : Value :=
  .table [(momentKey, .text text)]

mutual

/-- A value with the texts of the moments in place of their tables, unless one of these has no such
text. -/
def settle? : Value → Option Value
  | .table entries =>
    match entries with
    | (key, value) :: rest =>
      if key = momentKey then
        match value with
        | .text text => (Scan.readAll? givenMoment text.toList).map fun _ => .text text
        | _ => none
      else do
        let value ← settle? value
        return .table ((key, value) :: (← settleEntries? rest))
    | [] => some (.table [])
  | .list values => do
    return .list (← settleValues? values)
  | value => some value

def settleEntries? : List (String × Value) → Option (List (String × Value))
  | [] => some []
  | (key, value) :: rest => do
    let value ← settle? value
    return (key, value) :: (← settleEntries? rest)

def settleValues? : List Value → Option (List Value)
  | [] => some []
  | value :: rest => do
    let value ← settle? value
    return value :: (← settleValues? rest)

end

end ChangeFeed.Toml
