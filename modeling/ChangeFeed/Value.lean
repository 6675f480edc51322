/-
# Values

Records and settings without their types: what a document or an environment can say.  A table keeps
its entries in the order in which they were first set, one for each key.

A type whose members are exchanged as values says how they are written and how they are read back.
Numbers are read within 64 bits.  A field that is absent reads as null, so an optional field may be
either.
-/

import ChangeFeed.Binary64
import ChangeFeed.Word

namespace ChangeFeed

inductive Value where
  | null
  | bool (value : Bool)
  | int (value : Int)
  | float (value : Binary64)
  | text (value : String)
  | list (values : List Value)
  | table (entries : List (String × Value))
  deriving Inhabited, Repr

/-- Types whose members can be written as values. -/
class ToValue (α : Type) where
  toValue : α → Value

/-- Types whose members can be read from values. -/
class OfValue (α : Type) where
  ofValue? : Value → Option α

export ToValue (toValue)
export OfValue (ofValue?)

namespace Value

/-- The entry of a table, if the value is one. -/
def get? (value : Value) (key : String) : Option Value :=
  match value with
  | table entries => entries.lookup key
  | _ => none

/-- Sets an entry, in its old place or at the end. -/
def setEntry (entries : List (String × Value)) (key : String) (value : Value) :
    List (String × Value) :=
  match entries with
  | [] => [(key, value)]
  | (other, old) :: rest =>
    if other = key then (key, value) :: rest else (other, old) :: setEntry rest key value

/-- Looking a key up in entries compares it with the first key first. -/
theorem lookup_entry (entry : String × Value) (rest : List (String × Value)) (key : String) :
    (entry :: rest).lookup key = if key = entry.1 then some entry.2 else rest.lookup key := by
  obtain ⟨first, value⟩ := entry
  by_cases here : key = first
  · simp [here]
  · simp [List.lookup_cons, here, beq_false_of_ne here]

theorem lookup_setEntry (entries : List (String × Value)) (key other : String) (value : Value) :
    (setEntry entries key value).lookup other =
      if other = key then some value else entries.lookup other := by
  induction entries with
  | nil => rw [setEntry, lookup_entry]
  | cons entry rest ih =>
    obtain ⟨first, old⟩ := entry
    by_cases head : first = key
    · subst head
      rw [setEntry, if_pos rfl, lookup_entry, lookup_entry]
      by_cases same : other = first <;> simp [same]
    · rw [setEntry, if_neg head, lookup_entry, lookup_entry, ih]
      by_cases here : other = first
      · subst here
        simp [head]
      · simp [here]

/-- Reads a field; one that is absent reads as null. -/
def field? {α : Type} [OfValue α] (value : Value) (name : String) : Option α :=
  ofValue? ((value.get? name).getD null)

/-- The values of a list. -/
def elements? : Value → Option (List Value)
  | list values => some values
  | _ => none

end Value

instance : ToValue Value := ⟨id⟩

instance : ToValue Bool := ⟨.bool⟩

instance : ToValue Int := ⟨.int⟩

instance : ToValue Nat := ⟨fun n => .int n⟩

instance : ToValue String := ⟨.text⟩

instance {α : Type} [ToValue α] : ToValue (Option α) where
  toValue
    | none => .null
    | some a => toValue a

instance {α : Type} [ToValue α] : ToValue (List α) :=
  ⟨fun items => .list (items.map toValue)⟩

/-- A pair is written as a list of two. -/
instance {α β : Type} [ToValue α] [ToValue β] : ToValue (α × β) :=
  ⟨fun (a, b) => .list [toValue a, toValue b]⟩

instance : OfValue Value := ⟨some⟩

instance : OfValue Bool where
  ofValue?
    | .bool value => some value
    | _ => none

instance : OfValue Nat where
  ofValue?
    | .int value => if 0 ≤ value ∧ value ≤ maxUInt64 then some value.toNat else none
    | _ => none

instance : OfValue String where
  ofValue?
    | .text value => some value
    | _ => none

instance {α : Type} [OfValue α] : OfValue (Option α) where
  ofValue?
    | .null => some none
    | value => (ofValue? value).map some

instance {α : Type} [OfValue α] : OfValue (List α) :=
  ⟨fun value => value.elements?.bind fun values => values.mapM ofValue?⟩

end ChangeFeed
