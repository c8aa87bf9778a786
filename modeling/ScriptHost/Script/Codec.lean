import ScriptHost.World
/-!
# Decoding through the stack

`Machine.handleOf?` and `Machine.readSlot` say what a slot is decoded to.  Here is how that is found with
the operations that the machine has: the token of a table is fetched by way of the stack, onto which its
metatable is pushed and the field of that, and from which both are popped again.
-/

namespace ScriptHost

open World

namespace Vm

/-- The token carried by the value at an index. -/
def handleOf (i : Int) : Vm (Option Token) := do
  let i ← askMachine (·.absIndex i)
  match ← askMachine (·.valueAt i) with
  | .light t => return some t
  | .table _ =>
    if ← onMachine (·.getMetatable i) then
      let _ ← onMachine (·.rawGet (-1) "__handle")
      let token ← askMachine fun m => (m.valueAt (-1)).token?
      changeMachine (·.pop 2)
      return token
    else return none
  | _ => return none

/-- Decodes the value at an index.  A table that carries no token decodes to nil. -/
def readSlot (i : Int) : Vm SlotValue := do
  let i ← askMachine (·.absIndex i)
  match ← askMachine (·.valueAt i) with
  | .nil => return .nil
  | .boolean b => return .bool b
  | .number x => return .float x
  | .string bytes => return .string bytes
  | .function .. => return .function (.slot i)
  | .light _ | .table _ =>
    match ← handleOf i with
    | some t => return .handle t
    | none => return .nil

end Vm

end ScriptHost
