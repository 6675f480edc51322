/-
# Settings from environment variables

A variable sets a field if its name starts with a fixed head, whatever the case of its letters; the
rest of the name holds the keys of the field, parted by double underscores.  A variable without a
value sets nothing.  A value is a truth value, a whole number of 64 bits or a fraction if it reads
as one, and else a text.
-/

import ChangeFeed.Settings.Layer

namespace ChangeFeed.Settings

/-- The start of the names of variables that set fields, in lower case. -/
def variableHead : String := "statewatch__"

/-- Decimal digits after a sign or none, as a whole number of 64 bits. -/
def int64? (text : List Char) : Option Int :=
  let (negative, digits) := Binary64.splitSign text
  if digits.isEmpty || !digits.all Char.isDigit then none
  else
    let value : Int := Binary64.digitsValue digits
    let value := if negative then -value else value
    if minInt64 ≤ value ∧ value ≤ maxInt64 then some value else none

/-- The value of a variable. -/
def ofVariableText (text : String) : Value :=
  match Text.lowered text with
  | "true" => .bool true
  | "false" => .bool false
  | _ =>
    match int64? text.toList with
    | some value => .int value
    | none =>
      match Binary64.read? text with
      | some value => .float value
      | none => .text text

/-- A name with every double underscore replaced by a point. -/
def pointed : List Char → List Char
  | '_' :: '_' :: rest => '.' :: pointed rest
  | c :: rest => c :: pointed rest
  | [] => []

/-- The field that a variable sets, as a path, with its value. -/
def ofVariable? (name text : String) : Option (String × Value) :=
  let name := (Text.lowered name).toList
  if text.isEmpty || !variableHead.toList.isPrefixOf name then none
  else
    some (String.ofList (pointed (name.drop variableHead.length)), ofVariableText text)

/-- The layer of an environment. -/
def ofVariables (environment : List (String × String)) : Layer :=
  environment.filterMap fun (name, text) => ofVariable? name text

end ChangeFeed.Settings
