import ScriptHost.Bridge.HostCode
import ScriptHost.Host.Overload
/-!
# Member access

Reading, writing and calling members of a target, which is an object or a surface.

An object of a dictionary type answers reads and writes from its entries alone.  Any other looks the
name up in its descriptor: a field hides a property, and a readable accessor hides a method.  What is
neither can be called, and what is unknown ignores writes.  A surface looks the name up in its compiled
table.

Every write checks and converts the value before it changes anything.
-/

namespace ScriptHost

open World

/-- What a member is looked up on. -/
inductive Target where
  | object (o : HostObject)
  | surface (s : Surface)

namespace Target

def typeName : Target → String
  | object o => o.typeName
  | surface s => s.typeName

def ofEntry : HandleEntry → Target
  | .object o => object o
  | .surface s => surface s

/-- The target that a value is, if it can be one. -/
def ofValue : HostValue → Except BridgeError Target
  | .object o => .ok (object o)
  | .surface s => .ok (surface s)
  | v => .error (.typeMismatch "target" v.typeName)

def resolve (t : Token) : Bridge Target := do
  return ofEntry (← Bridge.ofExcept (← askSession (·.handles.resolve t)))

end Target

inductive MemberRead where
  | value (v : HostValue)
  /-- A callable member, to be bound to the target. -/
  | callable (name : String)

/-! ## Instances -/

namespace HostObject

/-- The accessors that a name may stand for, a field before a property. -/
def accessors (o : HostObject) (name : String) : List Accessor :=
  (o.descriptor.fields.get? name).toList ++ (o.descriptor.properties.get? name).toList

def readMember (o : HostObject) (name : String) : Bridge MemberRead := do
  if o.descriptor.isDictionary then return .value (← Bridge.readEntry o name)
  match (o.accessors name).findSome? Accessor.reads with
  | some key => return .value (← Bridge.readEntry o key)
  | none => return .callable name

/-- Sets an entry of a dictionary, and says whether it is new. -/
def writeDictionary (o : HostObject) (key : String) (v : HostValue) : Bridge WriteOutcome := do
  Bridge.checkBorrow true o
  let r ← askHost (·.record o.record)
  let r' ← Bridge.ofExcept (r.set key v)
  changeHost (·.setRecord o.record r')
  -- Whether the entry is new is a matter of the record as it was found.
  return if r.entries.contains key then .assigned else .inserted

def writeAccessor (o : HostObject) (name : String) (a : Accessor) (v : HostValue) : Bridge Unit := do
  match a.writes with
  | none => Bridge.fail (.readOnlyMemberWrite name)
  | some (key, conv) =>
    let v ← Bridge.ofExcept (v.coerceOrMismatch a.type)
    Bridge.checkBorrow true o
    Bridge.writeEntry o key (← Bridge.convert conv v)

def writeMember (o : HostObject) (name : String) (v : HostValue) : Bridge WriteOutcome := do
  if o.descriptor.isDictionary then o.writeDictionary name v
  else
    match o.accessors name with
    | a :: _ =>
      o.writeAccessor name a v
      return .assigned
    | [] => return .ignored

/-- Runs a method body.  Unless it is reentrant, the receiver is borrowed meanwhile. -/
def runMethod (c : Caller) (o : HostObject) (m : Method) (args : List HostValue) :
    Bridge HostValue :=
  if m.isReentrant then m.body.eval c ⟨args, .object o⟩
  else Bridge.holding true o (m.body.eval c ⟨args, .borrowed o.record⟩)

/-- Calls a method: the overload that accepts the arguments. -/
def invokeMember (c : Caller) (o : HostObject) (name : String) (args : List HostValue) :
    Bridge (Option HostValue) := do
  match o.descriptor.methods.get? name with
  | none => Bridge.fail (.noMatchingOverload name args.length)
  | some overloads =>
    let chosen ← Bridge.ofExcept (Selection.select name (overloads.map (·.signature.params)) args)
    match overloads[chosen.index]? with
    | none => Bridge.fail (.noMatchingOverload name args.length)
    | some m =>
      let v ← o.runMethod c m chosen.args
      return if m.signature.returnsValue then some v else none

end HostObject

/-! ## Surfaces -/

namespace StaticReader

def read : StaticReader → Bridge HostValue
  | cell i => do return (← askHost (·.cell i))
  | literal l => do return (← askHost (·.literal l))
  | panics text => Action.fail (.panic (some text))

end StaticReader

namespace StaticAccessor

/-- The value of a static member, nil if it cannot be read. -/
def read (a : StaticAccessor) : Bridge HostValue :=
  match a.reads with
  | some reader => reader.read
  | none => pure .nil

def write (a : StaticAccessor) (name : String) (v : HostValue) : Bridge Unit := do
  match a.writes with
  | none => Bridge.fail (.readOnlyMemberWrite name)
  | some (cell, conv) =>
    let v ← Bridge.ofExcept (v.coerceOrMismatch a.type)
    let v ← Bridge.convert conv v
    changeHost (·.setCell cell v)

end StaticAccessor

/-- Calls a static method: the overload that accepts the arguments. -/
def StaticMethod.invoke (c : Caller) (name : String) (overloads : List StaticMethod)
    (args : List HostValue) : Bridge (Option HostValue) := do
  let chosen ← Bridge.ofExcept (Selection.select name (overloads.map (·.signature.params)) args)
  match overloads[chosen.index]? with
  | none => Bridge.fail (.noMatchingOverload name args.length)
  | some m =>
    let v ← m.body.eval c ⟨chosen.args, .none⟩
    return if m.signature.returnsValue then some v else none

namespace TypeDescriptor

/-- Whether a constructor's number of parameters admits the arguments, a trailing nil counting or
    not. -/
def arityFits (d : TypeDescriptor) (args : List HostValue) : Bool :=
  let endsInNil := (args.getLast?).any HostValue.isNil
  d.constructors.any fun k =>
    k.params.length = args.length || endsInNil && k.params.length + 1 = args.length

/-- Makes an instance: the constructor that accepts the arguments. -/
def construct (c : Caller) (d : TypeDescriptor) (args : List HostValue) : Bridge HostValue := do
  if d.arityFits args then
    let params := d.constructors.map Constructor.params
    let chosen ← Bridge.ofExcept (Selection.select constructorName params args)
    match d.constructors[chosen.index]? with
    | none => Bridge.fail (.noMatchingOverload constructorName args.length)
    | some k =>
      let r ← Expr.evalEntries c ⟨chosen.args, .none⟩ (.blank d.type) k.entries
      let record ← onHost (·.newRecord r)
      -- Its descriptor is the one at hand, whatever its type is registered with by now.
      return .object ⟨record, d⟩
  else Bridge.fail (.constructionFailure d.name args.length)

end TypeDescriptor

namespace Surface

def readMember (s : Surface) (name : String) : Bridge MemberRead := do
  match s.member name with
  | some (.field a) | some (.property a) => return .value (← a.read)
  | some (.method _) | some .constructor => return .callable name
  | none => return .value .nil

def writeMember (s : Surface) (name : String) (v : HostValue) : Bridge WriteOutcome := do
  match s.member name with
  | some (.field a) | some (.property a) =>
    a.write name v
    return .assigned
  | some (.method _) | some .constructor => Bridge.fail (.readOnlyMemberWrite name)
  | none => return .ignored

def invokeMember (c : Caller) (s : Surface) (name : String) (args : List HostValue) :
    Bridge (Option HostValue) := do
  match s.member name with
  | some (.method overloads) => StaticMethod.invoke c name overloads args
  | some .constructor => return some (← s.descriptor.construct c args)
  | _ => Bridge.fail (.noMatchingOverload name args.length)

end Surface

/-! ## Targets -/

namespace Target

def readMember (name : String) : Target → Bridge MemberRead
  | object o => o.readMember name
  | surface s => s.readMember name

def writeMember (name : String) (v : HostValue) : Target → Bridge WriteOutcome
  | object o => o.writeMember name v
  | surface s => s.writeMember name v

/-- Calls a member; no value if it returns none. -/
def invokeMember (c : Caller) (name : String) (args : List HostValue) :
    Target → Bridge (Option HostValue)
  | object o => o.invokeMember c name args
  | surface s => s.invokeMember c name args

end Target

end ScriptHost
