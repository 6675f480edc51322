/-
# Layers of settings

Settings come from several sources, each a layer over the ones before.  Tables are laid over tables
entry by entry, and any other value takes the place of what was there; a table takes the place of a
value that is none, unless it is empty.  Keys are compared in lower case.

The outermost keys of a layer are paths.  What lies on a path is made a table or a list where it is
none, and a list is filled up with nulls to the index that is wanted.  A value that is set by an
index takes the place of the one before, whatever the two are.
-/

import ChangeFeed.Settings.Path
import ChangeFeed.Value

namespace ChangeFeed

namespace Value

/-- The entries of a table; a value that is none, or absent, has none. -/
def entriesOf : Option Value → List (String × Value)
  | some (table entries) => entries
  | _ => []

/-- The values of a list; a value that is none, or absent, has none. -/
def valuesOf : Option Value → List Value
  | some (list values) => values
  | _ => []

mutual

/-- Lays a value over another. -/
def overlay (lower : Option Value) : Value → Value
  | table [] => lower.getD (table [])
  | table (entry :: rest) => table (overlayEntries (overlayEntry (entriesOf lower) entry) rest)
  | upper => upper

/-- Lays entries over those of a table, in order. -/
def overlayEntries (lower : List (String × Value)) :
    List (String × Value) → List (String × Value)
  | [] => lower
  | entry :: rest => overlayEntries (overlayEntry lower entry) rest

/-- Lays an entry over those of a table. -/
def overlayEntry (lower : List (String × Value)) : String × Value → List (String × Value)
  | (key, upper) =>
    setEntry lower (Text.lowered key) (overlay (lower.lookup (Text.lowered key)) upper)

end

end Value

namespace Settings

open Value (entriesOf valuesOf overlay setEntry)

/-- What one source says: paths as texts, and values. -/
abbrev Layer := List (String × Value)

/-- Why a value cannot be set. -/
inductive PathFault where
  /-- An index counts back to before the start of its list. -/
  | beforeStart
  /-- An index calls for a list that is too long. -/
  | tooLong
  deriving DecidableEq, Repr

def PathFault.message : PathFault → String
  | .beforeStart => "attempt to subtract with overflow"
  | .tooLong => "capacity overflow"

/-- The most values in a list that an index makes. -/
def maxListLength : Nat := 8388608

/-- The place of an index in a list of a given length, or beyond its end. -/
def placeOf (length : Nat) (index : Int) : Except PathFault Nat :=
  if 0 ≤ index then
    if index.toNat < maxListLength then .ok index.toNat else .error .tooLong
  else if index.natAbs ≤ length then .ok (length - index.natAbs)
  else .error .beforeStart

/-- Sets what lies at the end of a path. -/
def setAt (upper : Value) : Path → Option Value → Except PathFault Value
  | [], _ => .ok upper
  | [.key name], value =>
    let entries := entriesOf value
    .ok (.table (setEntry entries name (overlay (entries.lookup name) upper)))
  | .key name :: rest, value => do
    let entries := entriesOf value
    return .table (setEntry entries name (← setAt upper rest (entries.lookup name)))
  | .index index :: rest, value => do
    let values := valuesOf value
    let place ← placeOf values.length index
    let values := values ++ List.replicate (place + 1 - values.length) .null
    return .list (values.set place (← setAt upper rest values[place]?))

/-- Lays a layer over the values of the earlier ones. -/
def apply (values : Value) (layer : Layer) : Except PathFault Value :=
  layer.foldlM (fun values (path, upper) => setAt upper (.ofText path) (some values)) values

/-- Layers in order, each over the ones before. -/
def merged (layers : List Layer) : Except PathFault Value :=
  layers.foldlM apply (.table [])

end Settings

end ChangeFeed
