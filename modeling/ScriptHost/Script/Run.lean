import ScriptHost.Script.Call
import ScriptHost.Script.Codec
/-!
# Running stack programs

What each operation of a stack program does and answers.  Unless its program is quiet, an operation is
reported when it has ended, after the reports of everything it called.
-/

namespace ScriptHost

open World

namespace Op

/-- What an operation does to the machine, and its answer. -/
def perform (c : Caller) : Op → Vm OpAnswer
  | .top => do return .int (← askMachine (·.top))
  | .setTop i => do changeMachine (·.setTop i); return .nothing
  | .pop n => do changeMachine (·.pop n); return .nothing
  | .absIndex i => do return .int (← askMachine (·.absIndex i))
  | .typeOf i => do return .text (← askMachine (·.valueAt i)).typeName
  | .pushNil => do changeMachine (·.push .nil); return .nothing
  | .pushBoolean b => do changeMachine (·.push (.boolean b)); return .nothing
  | .pushNumber x => do changeMachine (·.push (.number x)); return .nothing
  | .pushInteger n => do changeMachine (·.push (.number (.ofInt n.toInt))); return .nothing
  | .pushString bytes => do changeMachine (·.push (.string bytes)); return .nothing
  | .pushLight t => do changeMachine (·.push (.light t)); return .nothing
  | .pushValue i => do changeMachine fun m => m.push (m.valueAt i); return .nothing
  | .toBoolean i => do return .flag (← askMachine (·.valueAt i)).isTruthy
  | .toNumber i => do return .number (← askMachine (·.numberAt? i))
  | .toInteger i => do return .integer (← askMachine (·.integerAt? i))
  | .toBytes i => do return .bytes (← askMachine (·.bytesAt? i))
  | .toLight i => do return .light (← askMachine (·.valueAt i)).token?
  | .newTable => do changeMachine (·.newTable); return .nothing
  | .getField i name => do return .text (← Vm.getField c i name)
  | .setField i name => do Vm.setField c i name; return .nothing
  | .rawGet i name => do return .text (← onMachine (·.rawGet i name)).typeName
  | .rawSet i name => do changeMachine (·.rawSet i name); return .nothing
  | .setMeta i => do tryMachine (·.setMetatable i); return .nothing
  | .getMeta i => do return .flag (← onMachine (·.getMetatable i))
  | .getGlobal name => do return .text (← onMachine (·.getGlobal name)).typeName
  | .setGlobal name => do changeMachine (·.setGlobal name); return .nothing
  | .pushFunction name body => do
    changeMachine (·.push (.function name (.program body)))
    return .nothing
  | .call args results => do Vm.call c args results false; return .nothing
  | .protectedCall args results => do Vm.call c args results true; return .nothing
  | .reference i => do return .int (← onMachine (·.reference i))
  | .pushReference r => do return .flag (← onMachine (·.pushReference r))
  | .releaseReference r => do changeMachine (·.releaseReference r); return .nothing
  | .load chunk source => do tryMachine (·.load chunk source); return .nothing
  | .close => do changeMachine (·.close); return .nothing
  | .isClosed => do return .flag (← askMachine (·.isClosed))
  | .display i => do return .text (← Vm.display c i)
  | .render i => do return .text (← Vm.render c i)
  | .readSlot i => do return .slot (← Vm.readSlot i)
  | .writeSlot v => do changeMachine (·.writeSlot v); return .nothing
  | .readInteger i => do return .integer (← askMachine (·.integerAt? i))
  | .handleOf i => do return .token (← Vm.handleOf i)
  | .attempt op => perform c op

def shownSlots : Nat := 6

def report (name : String) (result : Except VmError OpAnswer) : Vm Unit := do
  let top ← askMachine (·.top)
  emit (.op name result top (← askMachine fun m => (m.topmost shownSlots).map m.viewOf))

/-- Runs an operation and reports it; one that is only attempted does not fail. -/
def run (c : Caller) (isQuiet : Bool) : Op → Vm Unit
  | .attempt op => do
    let _ ← Action.attempt (run c isQuiet op)
    return ()
  | op => do
    c.before op
    let result ← Action.attempt (perform c op)
    if !isQuiet then report op.name result
    let _ ← Action.ofExcept result
    return ()

/-- Runs operations in order, up to the first failure. -/
def runAll (c : Caller) (isQuiet : Bool) : List Op → Vm Unit
  | [] => pure ()
  | op :: ops => do
    run c isQuiet op
    runAll c isQuiet ops

/-- Runs operations in order, failures or not. -/
def runEach (c : Caller) : List Op → Vm Unit
  | [] => pure ()
  | op :: ops => do
    let _ ← Action.attempt (run c false op)
    runEach c ops

end Op

/-- Runs a native function body, and gives the number of results it claims. -/
def Program.run (c : Caller) : Program → Native Nat
  | .mk ops resultCount failure isQuiet => do
    Vm.inNative (Op.runAll c isQuiet ops)
    match failure with
    | some text => Action.fail text
    | none => return resultCount.getD (← askMachine (·.frameSize))

end ScriptHost
