import ScriptHost.World
/-!
# Calls and metamethods

Calling a native function, indexing through metatables, and rendering values.  These are the places
where the machine runs code.  What running code means is a parameter here, the `Caller`, so that each
definition stands on its own and a statement about it can assume of nested code just what it needs.
-/

namespace ScriptHost

/-- How to run code one level further in. -/
structure Caller where
  /-- Runs native code in a frame that has been set up for it, and gives the number of results. -/
  run : NativeCode → Native Nat
  render : Int → Vm String
  /-- Runs a host callable on arguments; no value if it returns none. -/
  apply : HostFunction → List HostValue → Bridge (Option HostValue)
  /-- What is done before each operation of a stack program: nothing, unless the run is watched. -/
  before : Op → Vm Unit

namespace Caller

/-- What is done before an operation if nobody watches. -/
def unwatched (_ : Op) : Vm Unit := pure ()

/-- The caller that is not allowed to run anything. -/
def none (before : Op → Vm Unit) : Caller :=
  { run := fun _ => .exhaust, render := fun _ => .exhaust, apply := fun _ _ => .exhaust, before }

end Caller

/-! ## Calls -/

inductive Callee where
  /-- Nothing, and no slot that it should have been in. -/
  | missing (e : VmError)
  /-- Something in a slot that cannot be called now. -/
  | refused (slot : Nat) (e : VmError)
  | ready (slot : Nat) (code : NativeCode)

namespace Machine

/-- The slot of the function that a call with so many arguments calls, if the frame reaches down to
    it. -/
def calleeIndex? (m : Machine) (argCount : Int) : Option Nat :=
  let needed := argCount.toNat + 1
  if needed ≤ m.height ∧ m.base ≤ m.height - needed then some (m.height - needed) else none

def calleeAt (m : Machine) (slot : Nat) : Callee :=
  match m.stack[slot]?.getD .nil with
  | .function _ code =>
    if m.maxDepth ≤ m.depth then .refused slot .stackOverflow else .ready slot code
  | v => .refused slot (.typeError ("attempt to call a " ++ v.typeName ++ " value"))

/-- What a call with so many arguments calls. -/
def callee (m : Machine) (argCount : Int) : Callee :=
  if m.isClosed then .missing .closed
  else
    match m.calleeIndex? argCount with
    | none => .missing (.invalidIndex (-(argCount + 1)))
    | some slot => m.calleeAt slot

/-- Opens a frame above a function's slot. -/
def enter (m : Machine) (callee : Nat) : Machine :=
  { m with frames := m.frames.push (callee + 1) }

/-- Closes the frames opened since there were `depth` of them. -/
def leave (m : Machine) (depth : Nat) : Machine :=
  { m with frames := m.frames.shrink depth }

/-- A list of results cut, or filled up with nils, to the number asked for; all of them for `-1`. -/
def adjust (resultCount : Int) (results : Array Value) : Array Value :=
  if resultCount = -1 then results else resize resultCount.toNat results

/-- Replaces a function and everything above it by its results, which are the topmost `claimed` values
    or as many as its frame holds. -/
def deliver (m : Machine) (callee claimed : Nat) (resultCount : Int) : Machine :=
  let returned := min claimed (m.height - (callee + 1))
  let first := m.height - returned
  let results := m.stack.extract first m.height
  { m with stack := (m.stack.shrink first).shrink callee ++ adjust resultCount results }

/-- What handles the assignment of a key of a table: the `__newindex` of its metatable, nil if the table
    has the key. -/
def newIndexHandler (m : Machine) (address : Nat) (key : String) : Value :=
  if (m.table address).contains (utf8Encode key) then .nil else m.metamethod address "__newindex"

end Machine

open World

namespace Vm

/-- Fails; a protected call first removes the function and everything above it. -/
def giveUp {α : Type} (isProtected : Bool) (callee : Nat) (e : VmError) : Vm α := do
  if isProtected then changeMachine (·.truncate callee)
  Action.fail e

/-- Runs native code as the function in a slot, and delivers its results. -/
def runFrame (c : Caller) (code : NativeCode) (callee : Nat) (resultCount : Int)
    (isProtected : Bool) : Vm Unit := do
  let depth ← askMachine (·.depth)
  changeMachine (·.enter callee)
  let outcome ← Action.attempt (c.run code)
  changeMachine (·.leave depth)
  match outcome with
  | .ok claimed => changeMachine (·.deliver callee claimed resultCount)
  | .error text => giveUp isProtected callee (.runtime text)

/-- Calls the function below the topmost `argCount` values.  A failure inside it is a runtime error
    with the text it failed with. -/
def call (c : Caller) (argCount resultCount : Int) (isProtected : Bool) : Vm Unit := do
  match ← askMachine (·.callee argCount) with
  | .missing e => Action.fail e
  | .refused slot e => giveUp isProtected slot e
  | .ready slot code => runFrame c code slot resultCount isProtected

/-- Calls a metamethod on arguments, and gives its results; the stack is as before unless the machine
    was closed meanwhile. -/
def callValue (c : Caller) (f : Value) (args : List Value) (resultCount : Nat) :
    Vm (List Value) := do
  let height ← askMachine (·.height)
  changeMachine fun m => { m with stack := m.stack.push f ++ args.toArray }
  match ← Action.attempt (call c args.length resultCount false) with
  | .error e =>
    changeMachine (·.truncate height)
    Action.fail e
  | .ok () =>
    onMachine fun m =>
      let first := m.height - resultCount
      ((m.stack.extract first m.height).toList, m.truncate first)

/-! ## Indexing through metatables -/

/-- How many tables a chain of redirections may visit. -/
def maxChain : Nat := 100

def cannotIndex (v : Value) (key : String) : VmError :=
  .typeError ("attempt to index a " ++ v.typeName ++ " value with '" ++ key ++ "'")

/-- Reads a key of a value: its field if it has one, otherwise by the `__index` handler of its
    metatable, which is a function to call or a table to go on with. -/
def index (c : Caller) (key : String) : Nat → Value → Vm Value
  | 0, _ => Action.fail (.runtime "'__index' chain too long")
  | links + 1, target => do
    match target with
    | .table address =>
      let field ← askMachine fun m => (m.table address).get (utf8Encode key)
      if !field.isNil then return field
      match ← askMachine (·.metamethod address "__index") with
      | .nil => return .nil
      | .function name code =>
        let results ← callValue c (.function name code) [target, .string (utf8Encode key)] 1
        return results.getLast?.getD .nil
      | .table next => index c key links (.table next)
      | other => Action.fail (.typeError ("invalid __index handler of type " ++ other.typeName))
    | other => Action.fail (cannotIndex other key)

/-- Assigns a key of a value: its field if there is no handler, or else by the handler. -/
def newIndex (c : Caller) (key : String) (v : Value) : Nat → Value → Vm Unit
  | 0, _ => Action.fail (.runtime "'__newindex' chain too long")
  | links + 1, target => do
    match target with
    | .table address =>
      match ← askMachine (·.newIndexHandler address key) with
      | .nil => changeMachine (·.setTableField address (utf8Encode key) v)
      | .function name code =>
        let _ ← callValue c (.function name code) [target, .string (utf8Encode key), v] 0
        return ()
      | .table next => newIndex c key v links (.table next)
      | other => Action.fail (.typeError ("invalid __newindex handler of type " ++ other.typeName))
    | other => Action.fail (cannotIndex other key)

/-- Pushes a key of the value at an index, and gives the type of what was pushed. -/
def getField (c : Caller) (i : Int) (key : String) : Vm String := do
  Action.ofExcept (← askMachine (·.checkOpen))
  let v ← index c key maxChain (← askMachine (·.valueAt i))
  changeMachine (·.push v)
  return v.typeName

/-- Pops a value into a key of the value at an index. -/
def setField (c : Caller) (i : Int) (key : String) : Vm Unit := do
  Action.ofExcept (← askMachine (·.checkOpen))
  -- An index from the top counts the value that is about to be popped.
  let target ← askMachine (·.valueAt i)
  newIndex c key (← onMachine Machine.popValue) maxChain target

/-! ## Rendering -/

/-- Renders the table at an index: by the `__tostring` function of its metatable, the result of which
    is rendered in turn. -/
def renderTable (c : Caller) (i : Int) : Vm String := do
  if ← onMachine (·.getMetatable i) then
    if (← onMachine (·.rawGet (-1) "__tostring")).isFunction then
      -- The index counts from the base, so it denotes the table still.
      changeMachine fun m => m.push (m.valueAt i)
      let text ← Action.attempt do
        call c 1 1 true
        let text ← Action.attempt (c.render (-1))
        changeMachine (·.pop 1)
        Action.ofExcept text
      changeMachine (·.pop 1)
      Action.ofExcept text
    else
      changeMachine (·.pop 2)
      return "table"
  else return "table"

/-- Renders the value at an index as text. -/
def render (c : Caller) (i : Int) : Vm String := do
  let i ← askMachine (·.absIndex i)
  match ← askMachine (·.valueAt i) with
  | .nil => return "nil"
  | .boolean b => return if b then "true" else "false"
  | .number x => return x.format
  | .string bytes => return utf8DecodeLossy bytes
  | .function .. => return "function"
  | .light _ => return "userdata"
  | .table _ => renderTable c i

/-- Renders the value at an index; one that cannot be rendered is shown as a plain table. -/
def display {ε : Type} (c : Caller) (i : Int) : Action World ε String := do
  match ← Action.attempt (render c i) with
  | .ok text => return text
  | .error _ => return "table"

end Vm

end ScriptHost
