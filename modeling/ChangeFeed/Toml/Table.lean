/-
# Tables under construction

The tables of a settings document while it is read.  A table can be defined by a header, by the
dotted key of an entry, or be implied by the longer header of a table inside it, and each can be
defined once: a header may define a table that was implied, dotted keys may add to a table that
dotted keys defined, and nothing else may define a table or an entry again.  Repeated tables form a
list, and further headers and keys speak of its last member.

Entries stand in the order in which they were defined; for an implied table that is the place of its
own header, once it has one.
-/

import ChangeFeed.Value

namespace ChangeFeed.Toml

/-- How a table was defined. -/
inductive Origin where
  /-- By the header of a table inside it. -/
  | implied
  | header
  | dotted
  deriving DecidableEq, Repr

/-- What stands under a key. -/
inductive Item where
  /-- A value that is complete. -/
  | value (value : Value)
  | table (origin : Origin) (entries : List (String × Item))
  /-- A list of tables: those before the last, and the entries of the last. -/
  | tables (earlier : List Value) (entries : List (String × Item))

/-- The entries of a table. -/
abbrev Entries := List (String × Item)

mutual

def Item.toValue : Item → Value
  | .value value => value
  | .table _ entries => .table (entriesToValues entries)
  | .tables earlier entries => .list (earlier ++ [.table (entriesToValues entries)])

/-- Entries with the values of their items. -/
def entriesToValues : List (String × Item) → List (String × Value)
  | [] => []
  | entry :: rest => entryToValue entry :: entriesToValues rest

def entryToValue : String × Item → String × Value
  | (key, item) => (key, item.toValue)

end

namespace Entries

/-- Changes what stands under a key, if the change is allowed. -/
def alter (key : String) (change : Option Item → Option Item) : Entries → Option Entries
  | [] => (change none).map fun item => [(key, item)]
  | (other, item) :: rest =>
    if other = key then (change (some item)).map fun item => (key, item) :: rest
    else (alter key change rest).map ((other, item) :: ·)

/-- Whether a dotted key may add to a table.  On its way to its own table it may pass any table but
one that a header defined. -/
def admitsDotted (origin : Origin) (isLast : Bool) : Bool :=
  if isLast then origin = .dotted else origin ≠ .header

/-- Changes the table at a path, defining the tables on the way that do not exist yet. -/
def within (dotted : Bool) (change : Entries → Option Entries) : List String → Entries →
    Option Entries
  | [], entries => change entries
  | key :: path, entries =>
    entries.alter key fun
      | none =>
        (within dotted change path []).map (Item.table (if dotted then .dotted else .implied))
      | some (.value _) => none
      | some (.table origin inside) =>
        if dotted && !admitsDotted origin path.isEmpty then none
        else (within dotted change path inside).map (Item.table origin)
      | some (.tables earlier inside) =>
        if dotted && path.isEmpty then none
        else (within dotted change path inside).map (Item.tables earlier)

/-- Adds an entry under a dotted key, given as a path and the last key. -/
def add (path : List String) (key : String) (value : Value) (entries : Entries) :
    Option Entries :=
  entries.within true
    (fun inside => inside.alter key fun
      | none => some (.value value)
      | some _ => none) path

/-- Defines the table of a header. -/
def openTable (path : List String) (key : String) (entries : Entries) : Option Entries :=
  entries.within false
    (fun inside =>
      match inside.lookup key with
      | none => some (inside ++ [(key, .table .header [])])
      | some (.table .implied implied) =>
        some (inside.filter (·.1 ≠ key) ++ [(key, .table .header implied)])
      | some _ => none) path

/-- Adds a table to the list of a header. -/
def pushTable (path : List String) (key : String) (entries : Entries) : Option Entries :=
  entries.within false
    (fun inside => inside.alter key fun
      | none => some (.tables [] [])
      | some (.tables earlier inside) =>
        some (.tables (earlier ++ [.table (entriesToValues inside)]) [])
      | some _ => none) path

end Entries

end ChangeFeed.Toml
