import ScriptHost.Bridge.Borrowing
import ScriptHost.Bridge.Inspect
import ScriptHost.Bridge.Marshal
import ScriptHost.Script.Run
/-!
# Running host code

The evaluator of host expressions.  Arguments are evaluated from left to right; an error or a panic
ends the evaluation, and only an error can be caught.
-/

namespace ScriptHost

open World

/-- What host code was called on. -/
inductive Receiver where
  | none
  /-- An object, to be borrowed when it is used. -/
  | object (o : HostObject)
  /-- A record that is borrowed already. -/
  | borrowed (record : Nat)

/-- What host code was called with. -/
structure Scope where
  args : List HostValue
  receiver : Receiver

def Scope.arg (s : Scope) (i : Nat) : HostValue := s.args[i]?.getD .nil

/-- A record made of host code, published as an object if its type is registered. -/
def Session.wrap? (s : Session) (type : RecordType) (record : Nat) : Except BridgeError HostObject :=
  match s.types.lookup type with
  | some descriptor => .ok ⟨record, descriptor⟩
  | none => .error (.unforwardedType type.label)

namespace Receiver

def toValue : Receiver → HostValue
  | object o => .object o
  | _ => .nil

/-- An entry of the receiver, nil if there is none. -/
def read (key : String) : Receiver → Bridge HostValue
  | none => pure .nil
  | object o => Bridge.readEntry o key
  | borrowed record => do return (← askHost (·.record record)).read key

/-- Sets an entry of the receiver, if there is one and its storage accepts the value. -/
def write (key : String) (v : HostValue) : Receiver → Bridge Unit
  | none => pure ()
  | object o => Bridge.writeEntry o key v
  | borrowed record => changeHost fun h => h.setRecord record ((h.record record).put key v)

end Receiver

namespace HostValue

/-- The sum of two integers, wrapping at 64 bits, or of two values as doubles, zero standing for what
    is no number. -/
def add : HostValue → HostValue → HostValue
  | int a, int b => int (a + b)
  | a, b => float ((a.asFloat?.getD .zero).add (b.asFloat?.getD .zero))

end HostValue

namespace Bridge

def toObject (v : HostValue) : Bridge HostObject := ofExcept (Conversion.objectFromHost v)

def toFunction (v : HostValue) : Bridge Nat := ofExcept (Conversion.functionFromHost v)

def convert (c : Conversion) (v : HostValue) : Bridge HostValue := ofExcept (c.convert v)

/-- A global of the script, read through the bridge. -/
def global (name : String) : Bridge HostValue := do
  changeMachine fun m => (m.getGlobal name).2
  let result ← Action.attempt (read (-1))
  changeMachine (·.pop 1)
  Action.ofExcept result

/-- Calls the script's `print` on a text. -/
def say (c : Caller) (text : String) : Bridge Unit := do
  changeMachine fun m => (m.getGlobal "print").2
  changeMachine (·.push (.string (utf8Encode text)))
  Vm.inHost (Vm.call c 1 0 false)

def toCallable (v : HostValue) : Bridge HostFunction := do
  match v with
  | .callable f => return f
  | v => fail (.typeMismatch "callable" v.typeName)

/-- Calls a host callable directly; one that returns nothing gives a fixed text. -/
def applyCallable (c : Caller) (f : HostFunction) (args : List HostValue) : Bridge HostValue := do
  match ← c.apply f args with
  | some result => return result
  | none => return .str "(void)"

/-- Wraps a new record with the given entries as an object. -/
def wrapRecord (isStrict : Bool) (r : Record) : Bridge HostValue := do
  -- The record is made even if it turns out that it cannot be wrapped.
  let record ← onHost (·.newRecord r)
  match ← askSession (·.wrap? r.type record) with
  | .ok o => return .object o
  | .error e => if isStrict then fail e else return .nil

end Bridge

namespace Expr

mutual

def eval (c : Caller) (s : Scope) : Expr → Bridge HostValue
  | .literal l => do return (← askHost (·.literal l))
  | .arg i => pure (s.arg i)
  | .argAs i conv => Bridge.convert conv (s.arg i)
  | .argCount => pure (.int (Int64.ofNat s.args.length))
  | .convert e conv => do Bridge.convert conv (← eval c s e)
  | .coerce e t => do Bridge.ofExcept ((← eval c s e).coerceOrMismatch t)
  | .isOf e t => do return .bool (t.matches (← eval c s e))
  | .this => pure s.receiver.toValue
  | .get key => s.receiver.read key
  | .put key e => do
    let v ← eval c s e
    s.receiver.write key v
    return v
  | .peek e type key => do
    let o ← Bridge.toObject (← eval c s e)
    Bridge.checkBorrow false o
    Bridge.checkType o type
    Bridge.readEntry o key
  | .poke e type key value => do
    let o ← Bridge.toObject (← eval c s e)
    let v ← eval c s value
    -- Only now is the object claimed, so the code of the value may use it.
    Bridge.checkBorrow true o
    Bridge.checkType o type
    Bridge.writeEntry o key v
    return v
  | .isRecord e type => do
    let o ← Bridge.toObject (← eval c s e)
    let r ← askHost (·.record o.record)
    return .bool (r.borrow ≠ .exclusive && r.type = type)
  | .hold isExclusive e type body => do
    let o ← Bridge.toObject (← eval c s e)
    Bridge.checkBorrow isExclusive o
    Bridge.checkType o type
    Bridge.holding isExclusive o (eval c s body)
  | .call f args => do
    let number ← Bridge.toFunction (← eval c s f)
    Bridge.callFunction c number (← evalAll c s args)
  | .callAs f conv args => do
    let number ← Bridge.toFunction (← eval c s f)
    Bridge.convert conv (← Bridge.callFunction c number (← evalAll c s args))
  | .dispose f => do
    Bridge.disposeFunction (← Bridge.toFunction (← eval c s f))
    return .nil
  | .isDisposed f => do
    let number ← Bridge.toFunction (← eval c s f)
    return .bool (← askHost (·.functionReference? number)).isNone
  | .invoke f args => do
    let f ← Bridge.toCallable (← eval c s f)
    Bridge.applyCallable c f (← evalAll c s args)
  | .callable name returnsValue body => do
    return .callable (← onHost (·.newCallable name returnsValue body))
  | .wrap isStrict type entries => do
    Bridge.wrapRecord isStrict (← evalEntries c s (.blank type) entries)
  | .panic text => Action.fail (.panic text)
  | .fail e => Bridge.fail e
  | .machine ops => do
    Vm.inHost (Op.runAll c false ops)
    return .nil
  | .global name => Bridge.global name
  | .say e => do
    Bridge.say c (← eval c s e).joinText
    return .nil
  | .push e => do
    Bridge.push (← eval c s e)
    return .nil
  | .readArg i => Bridge.read i
  | .resolve t => Bridge.resolve t
  | .liveHandles => do return .int (Int64.ofNat (← askSession (·.handles.size)))
  | .save var e => do
    let v ← eval c s e
    changeHost (·.save var v)
    return v
  | .add e₁ e₂ => do
    let a ← eval c s e₁
    return a.add (← eval c s e₂)
  | .cat es => do
    return .str (String.join ((← evalAll c s es).map HostValue.joinText))
  | .eq e₁ e₂ => do
    let a ← eval c s e₁
    return .bool (a.eq (← eval c s e₂))
  | .typeName e => do return .str (← eval c s e).typeName
  | .inspect e => do return .str (← eval c s e).inspect
  | .inspectInner e => do
    let v ← eval c s e
    return .str (← askHost v.inspectInner)
  | .log e => do
    let v ← eval c s e
    emit (.logged (← askHost (·.viewOf v)))
    return v
  | .attempt e => do
    match ← Action.attempt (eval c s e) with
    | .ok v => return v
    | .error (.error e) => return .str (e.kind ++ ": " ++ e.message)
    | .error r => Action.fail r
  | .seq es => do return ((← evalAll c s es).getLast?).getD .nil

def evalAll (c : Caller) (s : Scope) : List Expr → Bridge (List HostValue)
  | [] => pure []
  | e :: es => do
    let v ← eval c s e
    let vs ← evalAll c s es
    return v :: vs

/-- Evaluates entries in order into a record; one that its storage refuses is left out. -/
def evalEntries (c : Caller) (s : Scope) (r : Record) : List (String × Expr) → Bridge Record
  | [] => pure r
  | (key, e) :: es => do
    let v ← eval c s e
    evalEntries c s (r.put key v) es

end

end Expr

def HostFunction.invoke (c : Caller) (f : HostFunction) (args : List HostValue) :
    Bridge (Option HostValue) := do
  let v ← f.body.eval c ⟨args, .none⟩
  return if f.returnsValue then some v else none

end ScriptHost
