import ScriptHost.Session.Operations
/-!
# Commands

A host program in first-order form: what is done with a session, or with a machine alone, one command
after the other.  Each command is answered by an event, failures included, and the next one is run in
any case.
-/

namespace ScriptHost

open World

/-- A callable that the host writes down. -/
structure FunctionSpec where
  name : String
  returnsValue : Bool
  body : Expr

inductive Command where
  /-- Runs a command and saves the value it answers with. -/
  | bind (var : String) (command : Command)
  | forward (spec : TypeSpec)
  | register (spec : TypeSpec)
  | surface (type : RecordType)
  | descriptor (type : RecordType)
  | member (type : RecordType) (name : String)
  | staticMember (type : RecordType) (name : String)
  | pushObject (name : String) (type : RecordType) (entries : List (String × Expr))
  | pushFunction (name : String) (spec : FunctionSpec)
  | setGlobal (name : String) (e : Expr)
  | getGlobal (name : String)
  | load (chunk source : String)
  | execute
  | run (chunk source : String)
  | callGlobal (name : String) (args : List Expr)
  | resolve (token : Token)
  | isTornDown
  | teardown
  | inspect
  | inspectType (type : RecordType)
  | host (e : Expr)
  | read (target : Expr) (name : String)
  | write (target : Expr) (name : String) (e : Expr)
  | invoke (target : Expr) (name : String) (args : List Expr)
  /-- Uses a compiled static member directly. -/
  | thunk (target : Expr) (name : String) (args : List Expr)
  /-- Runs operations of the machine, failures or not. -/
  | machine (ops : List Op)

namespace Command

def name : Command → String
  | bind .. => "let" | forward _ => "forward" | register _ => "register" | surface _ => "surface"
  | descriptor _ => "descriptor" | member .. => "member" | staticMember .. => "static_member"
  | pushObject .. => "push_object" | pushFunction .. => "push_function"
  | setGlobal .. => "set_global" | getGlobal _ => "get_global" | load .. => "do_text"
  | execute => "execute" | run .. => "run" | callGlobal .. => "call_global"
  | resolve _ => "resolve" | isTornDown => "is_torn_down" | teardown => "teardown"
  | inspect => "debug" | inspectType _ => "debug_type" | host _ => "host" | read .. => "read"
  | write .. => "write" | invoke .. => "invoke" | thunk .. => "thunk" | machine _ => "vm"

/-- Code of a command has neither arguments nor a receiver. -/
def scope : Scope := ⟨[], .none⟩

def replySurface (s : Surface) : Bridge (Reply HostValue) := do
  return .surface s (← askHost (·.publishedToken s))

def replyResult : Option HostValue → Reply HostValue
  | some v => .value v
  | none => .void

/-- Uses a compiled static member: an accessor reads without arguments and else writes the first, and
    a callable is called. -/
def useMember (c : Caller) (s : Surface) (name : String) (args : List HostValue) :
    Bridge (Reply HostValue) := do
  match s.member name with
  | some (.field a) | some (.property a) =>
    match args with
    | [] => return .value (← a.read)
    | v :: _ =>
      a.write name v
      return .value .nil
  | some (.method _) | some .constructor => return replyResult (← s.invokeMember c name args)
  | none => return .nothing

/-- The value that an answer leaves to be saved; a command that saves one itself leaves none. -/
def savedValue : Command → Reply HostValue → HostValue
  | bind .., _ => .nil
  | _, .value v => v
  | _, .surface s _ => .surface s
  | _, _ => .nil

def perform (c : Caller) : Command → Bridge (Reply HostValue)
  | bind var command => do
    let reply ← perform c command
    changeHost (·.save var (command.savedValue reply))
    return reply
  | forward spec => do
    replySurface (← Session.forwardType (← onHost spec.build))
  | register spec => do
    return .descriptor (← Session.registerType (← onHost spec.build))
  | surface type => do
    match ← askSession (·.surfaces.get? type) with
    | some s => replySurface s
    | none => return .nothing
  | descriptor type => do
    match ← askSession (·.types.lookup type) with
    | some d => return .descriptor d
    | none => return .nothing
  | member type name => do
    return .member ((← askSession (·.types.lookup type)).bind (·.member name))
  | staticMember type name => do
    return .member ((← askSession (·.types.lookup type)).bind (·.staticMember name))
  | pushObject name type entries => do
    let r ← Expr.evalEntries c scope (.blank type) entries
    return .value (← Session.pushObject name type (← onHost (·.newRecord r)))
  | pushFunction name spec => do
    let f ← onHost (·.newCallable spec.name spec.returnsValue spec.body)
    Session.setGlobal name (.callable f)
    return .nothing
  | setGlobal name e => do
    Session.setGlobal name (← e.eval c scope)
    return .nothing
  | getGlobal name => do return .value (← Session.getGlobal name)
  | load chunk source => do
    Session.loadText chunk source
    return .nothing
  | execute => do
    Session.execute c
    return .nothing
  | run chunk source => do
    Session.runText c chunk source
    return .nothing
  | callGlobal name args => do
    return .value (← Session.callGlobal c name (← Expr.evalAll c scope args))
  | resolve t => do return .value (← Bridge.resolve t)
  | isTornDown => do return .flag (← askSession (·.isTornDown))
  | teardown => do
    Session.teardown
    return .nothing
  | inspect => do return .text (← askSession (·.inspect))
  | inspectType type => do
    let s ← sessionNow
    let h ← hostNow
    return .texts
      [optionText ((s.types.lookup type).map TypeDescriptor.inspect),
       optionText ((s.surfaces.get? type).map fun s => s.inspect (h.publishedToken s))]
  | host e => do return .value (← e.eval c scope)
  | read e name => do
    let target ← Bridge.ofExcept (Target.ofValue (← e.eval c scope))
    match ← target.readMember name with
    | .value v => return .value v
    | .callable name => return .bound name target.typeName
  | write e name value => do
    let target ← Bridge.ofExcept (Target.ofValue (← e.eval c scope))
    return .outcome (← target.writeMember name (← value.eval c scope))
  | invoke e name args => do
    let target ← Bridge.ofExcept (Target.ofValue (← e.eval c scope))
    return replyResult (← target.invokeMember c name (← Expr.evalAll c scope args))
  | thunk e name args => do
    let target ← Bridge.ofExcept (Target.ofValue (← e.eval c scope))
    let args ← Expr.evalAll c scope args
    match target with
    | .surface s => useMember c s name args
    | .object _ => return .nothing
  | machine ops => do
    Vm.inHost (Op.runEach c ops)
    return .nothing

def report (name : String) (result : Except Raised (Reply HostValue)) : Bridge Unit := do
  let h ← hostNow
  let s ← sessionNow
  let top ← askMachine (·.top)
  emit (.command name (result.map (·.map h.viewOf)) top s.handles.size s.liveFunctions)

/-- Runs a command and answers it by an event; operations of the machine report themselves. -/
def answer (c : Caller) (command : Command) : Bridge Unit := do
  let result ← Action.attempt (perform c command)
  match command with
  | machine _ => return ()
  | command => report command.name result

def runAll (c : Caller) : List Command → Bridge Unit
  | [] => pure ()
  | command :: rest => do
    command.answer c
    runAll c rest

end Command

/-- One step with a machine alone: an operation, or a look at the machine. -/
inductive Probe where
  | op (op : Op)
  | referenceCount
  | depth
  | inspect

namespace Probe

def run (c : Caller) : Probe → Vm Unit
  | op o => Op.runEach c [o]
  | referenceCount => do emit (.count "refcount" (← askMachine (·.referenceCount)))
  | depth => do emit (.count "depth" (← askMachine (·.depth)))
  | inspect => do emit (.note "debug" (← askMachine (·.inspect)))

def runAll (c : Caller) : List Probe → Vm Unit
  | [] => pure ()
  | p :: rest => do
    p.run c
    runAll c rest

end Probe

/-! ## Whole runs -/

/-- How a machine is set up before it is used. -/
structure MachineSpec where
  maxDepth : Nat := defaultMaxDepth
  hasBase : Bool := false
  chunks : List (Bytes × Program) := []

def MachineSpec.build (s : MachineSpec) : Machine :=
  let m := s.chunks.foldl (fun m (source, body) => m.registerChunk source body) (.start s.maxDepth)
  if s.hasBase then m.openBase else m

/-- The levels of nested code that a whole run is allowed: more than any run that ends within the
    memory of a computer can use.  The machine bounds the nesting of its calls by itself, but not that
    of callables that call callables, nor that of renderings that render. -/
def nestingAllowance : Nat := 1000000000000

/-- The events of a run on a machine alone. -/
def MachineSpec.trace (s : MachineSpec) (probes : List Probe) : List Event :=
  let w : World := { machine := s.build, session := .start {}, host := .empty, events := #[] }
  ((Probe.runAll (callerAt nestingAllowance) probes).run w).2.events.toList

/-- The events of a run on a new session. -/
def MachineSpec.sessionTrace (s : MachineSpec) (options : SessionOptions)
    (commands : List Command) : List Event :=
  let w := World.openSession options s.build .empty
  ((Command.runAll (callerAt nestingAllowance) commands).run w).2.events.toList

end ScriptHost
