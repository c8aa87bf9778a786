import ScriptHost.World
/-!
# Borrowing records

Access to the record behind an object goes through its guard.  A plain access holds the guard only for
itself, so it is a check; `Bridge.holding` keeps it while other code runs and gives it back however
that code ends.
-/

namespace ScriptHost

open World

namespace Bridge

def conflict (o : HostObject) : BridgeError := .borrowConflict o.typeName

/-- Fails unless the guard of an object's record admits one more user. -/
def checkBorrow (isExclusive : Bool) (o : HostObject) : Bridge Unit := do
  match (← askHost (·.record o.record)).borrow.admit? isExclusive with
  | some _ => return ()
  | none => fail (conflict o)

def checkType (o : HostObject) (type : RecordType) : Bridge Unit := do
  if (← askHost (·.record o.record)).type ≠ type then
    fail (.typeMismatch type.label o.typeName)

/-- An entry of an object, nil if there is none. -/
def readEntry (o : HostObject) (key : String) : Bridge HostValue := do
  checkBorrow false o
  return (← askHost (·.record o.record)).read key

/-- Sets an entry of an object, if its storage accepts the value. -/
def writeEntry (o : HostObject) (key : String) (v : HostValue) : Bridge Unit := do
  checkBorrow true o
  changeHost fun h => h.setRecord o.record ((h.record o.record).put key v)

/-- Runs code while the guard of an object's record is held. -/
def holding {α : Type} (isExclusive : Bool) (o : HostObject) (x : Bridge α) : Bridge α := do
  let r ← askHost (·.record o.record)
  match r.borrow.admit? isExclusive with
  | none => fail (conflict o)
  | some borrow =>
    changeHost (·.setRecord o.record { r with borrow })
    let result ← Action.attempt x
    changeHost fun h =>
      let r := h.record o.record
      h.setRecord o.record { r with borrow := r.borrow.release }
    Action.ofExcept result

end Bridge

end ScriptHost
