/-
# Settings documents

The text form of settings files, the TOML format: entries and tables line by line, with comments,
dotted keys, lists and tables inside a line.  Neither the parts of a key nor the lists and tables
inside each other may be too many.
-/

import ChangeFeed.Toml.LongText
import ChangeFeed.Toml.Moment
import ChangeFeed.Toml.Table

namespace ChangeFeed.Toml

open Text (Scan)

/-- There are fewer parts of a key, and fewer lists and tables inside each other, than this. -/
def depthLimit : Nat := 80

/-! ## Keys -/

/-- A character of a key without quotes. -/
def isKeyChar (c : Char) : Bool :=
  c.isAlphanum || c = '_' || c = '-'

/-- Takes one part of a key. -/
def keyPart : Scan String := do
  match ← quoted? with
  | some text => return text
  | none =>
    let cs ← Scan.takeWhile isKeyChar
    if cs.isEmpty then failure
    return String.ofList cs

/-- Takes a key of at most `fuel` parts: those before the last, and the last. -/
def keyParts : Nat → Scan (List String × String)
  | 0 => failure
  | fuel + 1 => do
    let part ← keyPart
    blanks
    if ← Scan.accept '.' then
      blanks
      let (path, last) ← keyParts fuel
      return (part :: path, last)
    else return ([], part)

/-- Takes a key and the blanks behind it. -/
def key : Scan (List String × String) := do
  keyParts (depthLimit - 1)

/-! ## Values -/

/-- Takes a text, a moment, a number or a truth value. -/
def scalar : Scan Value := do
  match ← longText? with
  | some text => return .text text
  | none =>
    match ← quoted? with
    | some text => return .text text
    | none =>
      match ← moment? with
      | some text => return momentTable text
      | none => word

mutual

/-- Takes a value in at most `fuel` steps, with at most `levels` lists and tables inside each
other. -/
def valueWithin (levels : Nat) : Nat → Scan Value
  | 0 => failure
  | fuel + 1 => do
    if ← Scan.accept '[' then
      if levels = 0 then failure
      return .list (← elements (levels - 1) fuel)
    else if ← Scan.accept '\x7b' then
      if levels = 0 then failure
      blanks
      if ← Scan.accept '\x7d' then return .table []
      else return .table (entriesToValues (← pairs (levels - 1) fuel []))
    else scalar

/-- Takes the elements of a list and its closing bracket. -/
def elements (levels : Nat) : Nat → Scan (List Value)
  | 0 => failure
  | fuel + 1 => do
    space fuel
    if ← Scan.accept ']' then return []
    let value ← valueWithin levels fuel
    space fuel
    if ← Scan.accept ',' then return value :: (← elements levels fuel)
    Scan.expect ']'
    return [value]

/-- Takes the entries of a table inside a line and its closing brace. -/
def pairs (levels : Nat) : Nat → Entries → Scan Entries
  | 0, _ => failure
  | fuel + 1, entries => do
    blanks
    let (path, last) ← key
    Scan.expect '='
    blanks
    let value ← valueWithin levels fuel
    blanks
    let entries ← (entries.add path last value : Option Entries)
    if ← Scan.accept ',' then pairs levels fuel entries
    else
      Scan.expect '\x7d'
      return entries

end

/-- Takes a value in at most `fuel` steps. -/
def value (fuel : Nat) : Scan Value :=
  valueWithin (depthLimit - 1) fuel

/-! ## Lines -/

/-- A document as far as it has been read. -/
structure Draft where
  entries : Entries := []
  /-- The table that entries are added to. -/
  place : List String := []

/-- Takes an entry of the current table, its value in at most `fuel` steps. -/
def entry (fuel : Nat) (draft : Draft) : Scan Draft := do
  let (path, last) ← key
  Scan.expect '='
  blanks
  let value ← value fuel
  let entries ← (draft.entries.within false (Entries.add path last value) draft.place :
    Option Entries)
  return { draft with entries }

/-- Takes the header of a table, after its first bracket. -/
def header (draft : Draft) : Scan Draft := do
  let repeated ← Scan.accept '['
  blanks
  let (path, last) ← key
  Scan.expect ']'
  if repeated then Scan.expect ']'
  let define := if repeated then Entries.pushTable else Entries.openTable
  let entries ← (define path last draft.entries : Option Entries)
  return ⟨entries, path ++ [last]⟩

/-- Takes a line, or more of them for a value that goes on, in at most `fuel` steps. -/
def line (fuel : Nat) (draft : Draft) : Scan Draft := do
  blanks
  let draft ←
    match ← Scan.peek? with
    | none | some '\n' | some '\r' | some '#' => pure draft
    | some '[' =>
      Scan.expect '['
      header draft
    | some _ => entry fuel draft
  restOfLine
  return draft

/-- Takes at most `fuel` lines, up to the end of the text; as many as it has characters suffice,
both for the lines and for each of them. -/
def lines : Nat → Draft → Scan Draft
  | 0, draft => return draft
  | fuel + 1, draft => do
    if (← Scan.peek?).isNone then return draft
    lines fuel (← line (fuel + 1) draft)

/-- Reads a document as the entries of its outermost table, which cannot be a moment.  A byte order
mark in front does not count. -/
def read? (text : String) : Option (List (String × Value)) := do
  let text :=
    match text.toList with
    | '\uFEFF' :: rest => rest
    | text => text
  let draft ← Scan.readAll? (lines text.length {}) text
  match ← settle? (.table (entriesToValues draft.entries)) with
  | .table entries => return entries
  | _ => none

end ChangeFeed.Toml
