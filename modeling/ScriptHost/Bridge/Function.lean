import ScriptHost.Script.Call
/-!
# Script functions held by the host

A script function that the host takes in is pinned in the machine's registry, and counts as live until
it is disposed.  Each time one is taken in it becomes a new holding with a number of its own, even if
the function is the same.  A disposed holding can be used for nothing any more.
-/

namespace ScriptHost

open World

namespace Bridge

/-- Takes in the function behind a reference. -/
def adoptFunction (reference : Nat) : Bridge HostValue := do
  changeSession fun s => { s with liveFunctions := s.liveFunctions + 1 }
  return .function (← onHost (·.newFunction reference))

def pinFunction (index : Int) : Bridge HostValue := do
  adoptFunction (← onMachine (·.reference index))

def functionReference (number : Nat) : Bridge Nat := do
  match ← askHost (·.functionReference? number) with
  | some reference => return reference
  | none => fail .disposedFunction

def disposeFunction (number : Nat) : Bridge Unit := do
  let reference ← functionReference number
  changeHost (·.disposeFunction number)
  changeMachine (·.releaseReference reference)
  changeSession fun s => { s with liveFunctions := s.liveFunctions - 1 }

end Bridge

end ScriptHost
