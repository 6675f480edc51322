/-
# Output of builtin commands

What a command writes waits until it ends or until there is too much of it, while its complaints
are written at once.
-/

import ChangeFeed.Shell.Builtin.Option
import ChangeFeed.Shell.Format

namespace ChangeFeed.Shell.Builtin

/-- Writes what a command puts out; its status tells whether that is possible. -/
def emit (name : String) (output : Bytes) (status : Nat) : Run Nat := do
  if output.isEmpty || (← Run.write 1 output) then return status
  Run.warn (name ++ ": I/O error").toList
  return if status = 0 then 1 else status

/-- A text between single quotes. -/
def quoted (text : Bytes) : Bytes :=
  let (plain, rest) := text.span (· ≠ '\'')
  '\'' :: plain ++ ['\''] ++ requote rest.length rest
where
  /-- Continues behind a quotation, in at most `fuel` steps. -/
  requote : Nat → Bytes → Bytes
    | 0, _ | _, [] => []
    | fuel + 1, '\'' :: rest =>
      let quotes := '\'' :: rest.takeWhile (· = '\'')
      let rest := rest.dropWhile (· = '\'')
      let plain := rest.takeWhile (· ≠ '\'')
      let rest := rest.dropWhile (· ≠ '\'')
      let inQuotes := '"' :: quotes ++ ['"']
      inQuotes ++ (if plain.isEmpty then [] else '\'' :: plain ++ ['\'']) ++ requote fuel rest
    | fuel + 1, c :: rest => c :: requote fuel rest

/-- Texts that wait to be written together, the last first. -/
structure Buffer where
  texts : List Bytes := []
  size : Nat := 0
  /-- Whether a text could not be written. -/
  isBroken : Bool := false

namespace Buffer

/-- How many characters can wait. -/
def capacity : Nat := 8192

/-- Writes what waits. -/
def flush (buffer : Buffer) : Run Buffer := do
  if buffer.size = 0 then return buffer
  let isWritten ← Run.write 1 buffer.texts.reverse.flatten
  return { isBroken := buffer.isBroken || !isWritten }

/-- Adds a text to those that wait.  If there is no room for it, the others are written first, and a
text for which there is no room at all is written at once. -/
def add (buffer : Buffer) (text : Bytes) : Run Buffer := do
  let push (buffer : Buffer) : Buffer :=
    { buffer with texts := text :: buffer.texts, size := buffer.size + text.length }
  if buffer.size + text.length ≤ capacity && (0 < buffer.size || text.length < capacity) then
    return push buffer
  let buffer ← buffer.flush
  if text.length < capacity then return push buffer
  let isWritten ← Run.write 1 text
  return { buffer with isBroken := buffer.isBroken || !isWritten }

/-- Takes what comes of a part of a format. -/
def print (buffer : Buffer) : Printed → Run Buffer
  | .text text => buffer.add text
  | .complaint argument fault => do
    let reason :=
      match fault with
      | .notNumeric => "expected numeric value"
      | .notWhole => "not completely converted"
      | .outOfRange => "Numerical result out of range"
    Run.warn (argument ++ ':' :: ' ' :: reason.toList)
    return buffer

end Buffer

def printf (arguments : List Bytes) : Run Nat := do
  match (← takeOptions [] [] arguments).2 with
  | [] => Run.fail "usage: printf format [arg ...]".toList
  | format :: arguments =>
    let (printing, failure?) := Shell.printf format arguments
    let buffer ← printing.parts.foldlM Buffer.print {}
    match failure? with
    | none =>
      let buffer ← buffer.flush
      if buffer.isBroken then Run.warn "printf: I/O error".toList
      return if buffer.isBroken || printing.hasComplaints then 1 else 0
    | some reason =>
      Run.warn reason
      let _ ← buffer.flush
      modify fun session => { session with status := 2 }
      throw .failure

end ChangeFeed.Shell.Builtin
