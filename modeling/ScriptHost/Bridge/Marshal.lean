import ScriptHost.Bridge.Function
/-!
# Values across the bridge

`Bridge.push` puts a host value on the stack and `Bridge.read` takes one off it.  Scalars and text are
copied.  An object or surface is given a handle, unless it has a live one, and stands on the stack as a
proxy: an empty table whose metatable carries the token and routes member access to the host.  One
proxy is pinned for each handle, so pushing a thing twice gives the same table.

A script function is pinned each time it is read.
-/

namespace ScriptHost

namespace Machine

def withField (m : Machine) (name : String) (v : Value) : Machine := (m.push v).rawSet (-2) name

def newProxyMetatable (m : Machine) (t : Token) (typeName : String) : Machine :=
  (((m.newTable.withField "__handle" (.light t)).withField "__index"
    (.function "__index" (.readMember t))).withField "__newindex"
    (.function "__newindex" (.writeMember t))).withField "__tostring"
    (.function "__tostring" (.label typeName))

def newProxy (m : Machine) (t : Token) (typeName : String) : Machine :=
  ((m.newTable.newProxyMetatable t typeName).setMetatable (-2)).2

end Machine

namespace Bridge

open World

/-! ## Pushing -/

def alloc (entry : HandleEntry) (tag : UInt32) : Bridge Token := do
  ofExcept (← onSession fun s =>
    let (result, handles) := s.handles.alloc entry tag
    (result, { s with handles }))

/-- Pushes the proxy pinned for a token, if there is one. -/
def pushPinned (t : Token) : Bridge Bool := do
  match ← askSession (·.proxies.get? t) with
  | some reference =>
    if ← onMachine (·.pushReference reference) then return true
    else
      -- A nil was pushed for a reference that keeps nothing.
      changeMachine (·.pop 1)
      return false
  | none => return false

/-- Pushes a new proxy for a token, which is pinned from then on. -/
def pinProxy (t : Token) (typeName : String) : Bridge Unit := do
  changeMachine (·.newProxy t typeName)
  let reference ← onMachine (·.reference (-1))
  changeSession fun s => { s with proxies := s.proxies.insert t reference }

def pushProxy (t : Token) (typeName : String) : Bridge Unit := do
  if ← pushPinned t then return () else pinProxy t typeName

/-- The live token of an object, issued now if there is none. -/
def objectToken (o : HostObject) : Bridge Token := do
  match ← askSession (·.handles.tokenOf? o) with
  | some t => return t
  | none => alloc (.object o) o.descriptor.tag

/-- The token a surface was last published under, if that resolves, or else one issued now. -/
def surfaceToken (s : Surface) : Bridge Token := do
  let handles ← askSession (·.handles)
  match (← askHost (·.publishedToken s)).filter fun t => (handles.get? t).isSome with
  | some t => return t
  | none =>
    let t ← alloc (.surface s) s.descriptor.tag
    changeHost (·.setPublishedToken s t)
    return t

def push (v : HostValue) : Bridge Unit := do
  match v with
  | .nil => changeMachine (·.writeSlot .nil)
  | .bool b => changeMachine (·.writeSlot (.bool b))
  | .int n => changeMachine (·.writeSlot (.integer n))
  | .float x => changeMachine (·.writeSlot (.float x))
  | .str s => changeMachine (·.push (.string (utf8Encode s)))
  | .object o => pushProxy (← objectToken o) o.typeName
  | .surface s => pushProxy (← surfaceToken s) s.typeName
  | .function number =>
    let reference ← functionReference number
    let _ ← onMachine (·.pushReference reference)
    return ()
  | .callable f => changeMachine (·.push (.function f.name (.host f)))

/-- Pushes values in order; if one cannot be pushed, the frame is first cut back to a size. -/
def pushAll (size : Int) : List HostValue → Bridge Unit
  | [] => pure ()
  | v :: vs => do
    match ← Action.attempt (push v) with
    | .ok () => pushAll size vs
    | .error r =>
      changeMachine (·.setTop size)
      Action.fail r

/-! ## Reading -/

def resolve (t : Token) : Bridge HostValue := do
  ofExcept (← askSession (·.resolve t))

def read (index : Int) : Bridge HostValue := do
  match ← askMachine fun m => m.readSlot (m.absIndex index) with
  | .nil => return .nil
  | .bool b => return .bool b
  | .integer n => return .int n
  | .float x => return .float x
  | .string bytes => return .str (utf8DecodeLossy bytes)
  | .function (.slot slot) => pinFunction slot
  | .function (.pinned reference) => adoptFunction reference
  | .handle t => resolve t

/-- Reads `count` values from an index up. -/
def readFrom (first : Int) : Nat → Bridge (List HostValue)
  | 0 => pure []
  | count + 1 => do
    let v ← read first
    let vs ← readFrom (first + 1) count
    return v :: vs

/-- Reads all values of the frame from an index up. -/
def readArgs (first : Int) : Bridge (List HostValue) := do
  let top ← askMachine (·.top)
  readFrom first (top - first + 1).toNat

/-! ## Calling script functions -/

/-- Calls what is on the stack above `size` slots in protected mode, and reads the first result. -/
def finishCall (c : Caller) (size : Int) (argCount : Nat) : Bridge HostValue := do
  -- A call that fails in protected mode has removed all that was pushed for it, unless the machine is
  -- closed.
  Vm.inHost (Vm.call c argCount 1 true)
  let result ← Action.attempt (read (-1))
  changeMachine (·.setTop size)
  Action.ofExcept result

def callFunction (c : Caller) (number : Nat) (args : List HostValue) : Bridge HostValue := do
  let reference ← functionReference number
  let size ← askMachine (·.top)
  let _ ← onMachine (·.pushReference reference)
  pushAll size args
  finishCall c size args.length

end Bridge

end ScriptHost
