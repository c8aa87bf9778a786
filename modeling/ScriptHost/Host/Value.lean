import ScriptHost.Host.Surface
/-!
# Host values

The values that host code works with.  Scalars and text are themselves; objects, surfaces, script
functions and callables have an identity, and equality of values compares it.
-/

namespace ScriptHost

/-- A reference to a record of the host, with the directory its members are looked up in. -/
structure HostObject where
  record : Nat
  descriptor : TypeDescriptor

/-- Host code that scripts can call by name. -/
structure HostFunction where
  number : Nat
  name : String
  returnsValue : Bool
  body : Expr

inductive HostValue where
  | nil
  | bool (b : Bool)
  | int (n : Int64)
  | float (x : Binary64)
  | str (s : String)
  | object (o : HostObject)
  | surface (s : Surface)
  /-- A script function held by the host. -/
  | function (number : Nat)
  | callable (f : HostFunction)

instance : Inhabited HostValue := ⟨.nil⟩

def HostObject.typeName (o : HostObject) : String := o.descriptor.name

namespace HostValue

def isNil : HostValue → Bool
  | nil => true
  | _ => false

def typeName : HostValue → String
  | nil => "nil"
  | bool _ => "bool"
  | int _ => "int"
  | float _ => "float"
  | str _ => "string"
  | object o => o.typeName
  | surface s => s.typeName
  | function _ => "function"
  | callable _ => "callable"

def asText? : HostValue → Option String
  | str s => some s
  | _ => none

def asFloat? : HostValue → Option Binary64
  | int n => some (.ofInt n.toInt)
  | float x => some x
  | _ => none

/-- Equality: by value for scalars and text, by identity otherwise, never across kinds. -/
def eq : HostValue → HostValue → Bool
  | nil, nil => true
  | bool a, bool b => a = b
  | int a, int b => a = b
  | float a, float b => a.eq b
  | str a, str b => a = b
  | object a, object b => a.record = b.record
  | surface a, surface b => a.number = b.number
  | function a, function b => a = b
  | callable a, callable b => a.number = b.number
  | _, _ => false

/-- The text host code joins a value into a line with. -/
def joinText : HostValue → String
  | str s => s
  | int n => intText n.toInt
  | float x => x.format
  | bool b => if b then "true" else "false"
  | v => v.typeName

end HostValue

end ScriptHost
