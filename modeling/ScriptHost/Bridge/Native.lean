import ScriptHost.Bridge.Member
/-!
# Native functions

What each kind of native code does when the machine calls it, and the evaluator that ties the knot:
`callerAt n` runs code that nests at most `n` calls deep.
-/

namespace ScriptHost

open World

namespace Bridge

/-- The member name at slot 2 of an access hook: a string, or a number in its script text. -/
def memberName : Bridge String := do
  match ← askMachine (·.valueAt 2) with
  | .string bytes => return utf8DecodeLossy bytes
  | .number x => return x.format
  | other => fail (.nullMemberAccess ("member name must be a string, got " ++ other.typeName))

/-- Reads a member for a script; a callable member becomes a function bound to the target. -/
def readHook (t : Token) : Bridge Nat := do
  let name ← memberName
  let target ← Target.resolve t
  match ← target.readMember name with
  | .value v => push v
  | .callable name => changeMachine (·.push (.function name (.callMember t name)))
  return 1

def writeHook (t : Token) : Bridge Nat := do
  let name ← memberName
  let v ← read 3
  let target ← Target.resolve t
  let _ ← target.writeMember name v
  return 0

/-- Pushes what a call returned, if anything, and gives the number of results. -/
def pushResult : Option HostValue → Bridge Nat
  | some v => do
    push v
    return 1
  | none => pure 0

/-- Calls a member for a script.  The receiver itself, which a method call passes first, is no
    argument. -/
def memberHook (c : Caller) (receiver : Token) (name : String) : Bridge Nat := do
  let isBound ← askMachine fun m => decide (m.handleOf? 1 = some receiver)
  let args ← readArgs (if isBound then 2 else 1)
  let target ← Target.resolve receiver
  pushResult (← target.invokeMember c name args)

def hostHook (c : Caller) (f : HostFunction) : Bridge Nat := do
  pushResult (← f.invoke c (← readArgs 1))

end Bridge

/-- Renders `count` values from an index up. -/
def Vm.displayFrom {ε : Type} (c : Caller) (first : Int) : Nat → Action World ε (List String)
  | 0 => pure []
  | count + 1 => do
    let text ← Vm.display c first
    let texts ← Vm.displayFrom c (first + 1) count
    return text :: texts

/-- Renders all values of the frame to a line of output. -/
def Native.print (c : Caller) : Native Nat := do
  let texts ← Vm.displayFrom c 1 (← askMachine (·.frameSize))
  emit (.printed ("\t".intercalate texts))
  return 0

namespace NativeCode

/-- Runs native code in the current frame, and gives the number of results it leaves on top. -/
def run (c : Caller) : NativeCode → Native Nat
  | program p => p.run c
  | toText => do
    let text ← Vm.inNative (Vm.render c 1)
    changeMachine (·.push (.string (utf8Encode text)))
    return 1
  | typeName => do
    changeMachine fun m => m.push (.string (utf8Encode (m.valueAt 1).typeName))
    return 1
  | raise => do Action.fail (← Vm.inNative (Vm.render c 1))
  | print => Native.print c
  | readMember t => (Bridge.readHook t).inNative
  | writeMember t => (Bridge.writeHook t).inNative
  | label text => do
    changeMachine (·.push (.string (utf8Encode text)))
    return 1
  | callMember t name => (Bridge.memberHook c t name).inNative
  | host f => (Bridge.hostHook c f).inNative

end NativeCode

/-- The caller that may nest so many levels of code, with what is done before each operation of a stack
    program. -/
def watchedCaller (before : Op → Vm Unit) : Nat → Caller
  | 0 => .none before
  | depth + 1 =>
    { run := fun code => NativeCode.run (watchedCaller before depth) code
      render := fun i => Vm.render (watchedCaller before depth) i
      apply := fun f args => HostFunction.invoke (watchedCaller before depth) f args
      before }

/-- The caller that may nest so many levels of code. -/
def callerAt (depth : Nat) : Caller := watchedCaller Caller.unwatched depth

/-- The machine with the functions every script may expect. -/
def Machine.openBase (m : Machine) : Machine :=
  let define (m : Machine) (name : String) (code : NativeCode) : Machine :=
    (m.push (.function name code)).setGlobal name
  define (define (define m "tostring" .toText) "type" .typeName) "error" .raise

end ScriptHost
