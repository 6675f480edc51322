/-
# Paths to settings

A path leads from the outermost table of settings to a value inside it.  It starts with a key, and
goes on with keys after points and with indices in brackets; an index below zero counts from the end
of a list.  Letters, digits, spaces, underscores and hyphens make up a key.
-/

import ChangeFeed.Text.Scan
import ChangeFeed.Text.Case
import ChangeFeed.Word

namespace ChangeFeed.Settings

open Text (Scan)

/-- A step from a value to one inside it. -/
inductive Step where
  /-- To an entry of a table. -/
  | key (name : String)
  /-- To a member of a list. -/
  | index (position : Int)
  deriving DecidableEq, Repr

abbrev Path := List Step

namespace Path

/-- A character of a key on a path. -/
def isKeyChar (c : Char) : Bool :=
  c.isAlphanum || c = ' ' || c = '_' || c = '-'

/-- Takes a key. -/
def key : Scan Step := do
  let name ← Scan.takeWhile isKeyChar
  if name.isEmpty then failure
  return .key (Text.lowered (String.ofList name))

/-- Skips spaces and tabs. -/
def blanks : Scan Unit := do
  let _ ← Scan.takeWhile fun c => c = ' ' || c = '\t'

/-- Takes an index of 64 bits, after its opening bracket. -/
def index : Scan Step := do
  blanks
  let negative ← Scan.accept '-'
  let digits ← Scan.takeWhile Char.isDigit
  if digits.isEmpty then failure
  blanks
  Scan.expect ']'
  let size : Int := digits.foldl (fun value c => 10 * value + (c.toNat - '0'.toNat)) 0
  let position := if negative then -size else size
  if position < minInt64 ∨ maxInt64 < position then failure
  return .index position

/-- Takes at most `fuel` steps after the first key. -/
def steps : Nat → Scan Path
  | 0 => return []
  | fuel + 1 => do
    if ← Scan.accept '.' then return (← key) :: (← steps fuel)
    else if ← Scan.accept '[' then return (← index) :: (← steps fuel)
    else return []

/-- Reads a path. -/
def read? (text : String) : Option Path :=
  Scan.readAll? (do return (← key) :: (← steps text.length)) text.toList

/-- The path that a text stands for: a text that is no path is a key as a whole. -/
def ofText (text : String) : Path :=
  (read? text).getD [.key (Text.lowered text)]

end Path

end ChangeFeed.Settings
