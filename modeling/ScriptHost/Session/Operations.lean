import ScriptHost.Bridge.Native
import ScriptHost.Host.Builder
/-!
# Session operations

What the host can do with a session: register and forward types, publish and read globals, run source
text, call script functions, and tear the session down.  A torn-down session refuses all of it but
looking up tokens, none of which resolves any more.
-/

namespace ScriptHost

namespace World

/-- A world with a new session on a machine, over the state a host already has. -/
def openSession (options : SessionOptions) (machine : Machine) (host : HostStore) : World :=
  let machine :=
    if options.installPrint then (machine.push (.function "print" .print)).setGlobal "print"
    else machine
  { machine, session := .start options, host, events := #[] }

end World

namespace Session

open World

def checkOpen : Bridge Unit := do
  if ← askSession (·.isTornDown) then Bridge.fail (.vm .closed)

/-! ## Types -/

/-- Fails if the type is registered and the session takes each type only once. -/
def checkDuplicate (type : RecordType) : Bridge Unit := do
  let s ← sessionNow
  match s.options.onDuplicate, s.types.lookup type with
  | .reject, some existing => Bridge.fail (.duplicateForward existing.name)
  | _, _ => return ()

/-- Registers a type, so that its objects can be wrapped. -/
def registerType (d : TypeDescriptor) : Bridge TypeDescriptor := do
  checkOpen
  checkDuplicate d.type
  onSession fun s =>
    let (registered, types) := s.types.register d
    (registered, { s with types })

/-- Gives up a token and the proxy pinned for it. -/
def releaseToken (t : Token) : Bridge Unit := do
  let proxy ← askSession (·.proxies.get? t)
  changeSession fun s =>
    { s with handles := (s.handles.release t).2, proxies := s.proxies.erase t }
  match proxy with
  | some reference => changeMachine (·.releaseReference reference)
  | none => return ()

/-! ## Globals -/

def setGlobal (name : String) (v : HostValue) : Bridge Unit := do
  checkOpen
  Bridge.push v
  changeMachine (·.setGlobal name)

def getGlobal (name : String) : Bridge HostValue := do
  checkOpen
  Bridge.global name

/-- Publishes a record of a registered type as a global object. -/
def pushObject (name : String) (type : RecordType) (record : Nat) : Bridge HostValue := do
  checkOpen
  let o ← Bridge.ofExcept (← askSession (·.wrap? type record))
  setGlobal name (.object o)
  return .object o

/-- Withdraws the surface that another one has replaced: its handle, and its global if the other has a
    different name. -/
def withdraw (previous : Surface) (name : String) : Bridge Unit := do
  match ← askHost (·.publishedToken previous) with
  | some t => releaseToken t
  | none => pure ()
  if previous.typeName ≠ name then
    changeMachine fun m => (m.push .nil).setGlobal previous.typeName

/-- Registers a type and publishes its surface as a global of the type's name.  An earlier surface of
    the type stays published until the new one is. -/
def forwardType (d : TypeDescriptor) : Bridge Surface := do
  let d ← registerType d
  let surface ← onHost (·.newSurface d)
  -- If the surface cannot be pushed, the type has been registered nonetheless.
  setGlobal d.name (.surface surface)
  let previous ← askSession (·.surfaces.get? d.type)
  changeSession fun s => { s with surfaces := s.surfaces.insert d.type surface }
  match previous with
  | some previous => withdraw previous d.name
  | none => pure ()
  return surface

/-! ## Running scripts -/

/-- Reports a failure of a script, and fails with it. -/
def report {α : Type} (e : VmError) : Bridge α := do
  emit (.reported e.message)
  Bridge.fail (.vm e)

/-- Runs an operation of the machine, a failure of which is reported. -/
def reporting {α : Type} (x : Vm α) : Bridge α := do
  match ← Action.attempt x with
  | .ok a => return a
  | .error e => report e

/-- Pins the function on top as the next chunk to run, in place of one that never ran. -/
def pinChunk : Bridge Unit := do
  let reference ← onMachine (·.reference (-1))
  changeMachine (·.pop 1)
  let stale ← askSession (·.chunk)
  changeSession fun s => { s with chunk := some reference }
  match stale with
  | some stale => changeMachine (·.releaseReference stale)
  | none => return ()

/-- Pushes the pinned chunk, which is given up; false if there is none. -/
def takeChunk : Bridge Bool := do
  match ← askSession (·.chunk) with
  | none => return false
  | some reference =>
    -- It is given up before it runs, so that code it calls may load another.
    changeSession fun s => { s with chunk := none }
    changeMachine fun m => (m.pushReference reference).2.releaseReference reference
    return true

/-- Loads source text as the next chunk to run. -/
def loadText (chunk source : String) : Bridge Unit := do
  checkOpen
  reporting (tryMachine (·.load chunk (utf8Encode source)))
  pinChunk

/-- Runs the loaded chunk, once. -/
def execute (c : Caller) : Bridge Unit := do
  checkOpen
  if ← takeChunk then reporting (Vm.call c 0 0 true)
  else report (.runtime "no chunk loaded")

def runText (c : Caller) (chunk source : String) : Bridge Unit := do
  loadText chunk source
  execute c

/-- Calls a global of the script with the given arguments. -/
def callGlobal (c : Caller) (name : String) (args : List HostValue) : Bridge HostValue := do
  checkOpen
  let size ← askMachine (·.top)
  changeMachine fun m => (m.getGlobal name).2
  Bridge.pushAll size args
  Bridge.finishCall c size args.length

/-! ## Teardown -/

/-- Gives up everything and closes the machine.  A second time it does nothing. -/
def teardown : Bridge Unit := do
  let s ← sessionNow
  if s.isTornDown then return
  match s.chunk with
  | some reference => changeMachine (·.releaseReference reference)
  | none => pure ()
  changeSession fun s =>
    { s with
      handles := s.handles.releaseAll.2, proxies := .empty, surfaces := .empty, chunk := none,
      isTornDown := true }
  changeMachine (·.close)

end Session

end ScriptHost
