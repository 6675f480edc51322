/-
# Traps

What a shell does about signals, and about its end.
-/

import ChangeFeed.Shell.Builtin.Variable

namespace ChangeFeed.Shell.Builtin

/-- Sets what is done about signals, or brings back what happens by default. -/
def setTraps (action? : Option Bytes) : List Bytes → Run Nat
  | [] => return 0
  | name :: rest => do
    match Signal.ofText? 0 name with
    | none =>
      let _ ← Run.write 2 ("trap: ".toList ++ name ++ ": bad trap\n".toList)
      return 1
    | some signal =>
      modify fun session =>
        let others := session.traps.filter (·.1 ≠ signal)
        { session with traps := (action?.map (signal, ·)).toList ++ others }
      setTraps action? rest

def trap (arguments : List Bytes) : Run Nat := do
  let arguments := (← takeOptions [] [] arguments).2
  match arguments with
  | [] =>
    let traps := (← get).traps
    let lines := (List.range Signal.count).flatMap fun signal =>
      match traps.lookup signal with
      | none => []
      | some action =>
        "trap -- ".toList ++ quoted action ++ ' ' :: (Signal.name signal).toList ++ ['\n']
    emit "trap" lines 0
  | action :: rest =>
    if rest.isEmpty || (action.all Char.isDigit && (Signal.ofText? 0 action).isSome) then
      setTraps none arguments
    else setTraps (if action = ['-'] then none else some action) rest

end ChangeFeed.Shell.Builtin
