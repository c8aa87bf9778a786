import ScriptHost.Host.Coercion
/-!
# Conversion to and from host representations

For each `Conversion` there is a type of host-side contents, its `Carrier`.  `fromHost` reads a value
as such contents or says what is wrong with it; `intoHost` is the way back.  `convert` does both.

Numbers and text are coerced first, so a number written as text converts to an integer and nil, which
every coercion lets through, is refused only here.  Narrowing an integer never wraps: what does not
fit is an error that names the width and the number.
-/

namespace ScriptHost

/-- The host-side contents of a representation. -/
def Conversion.Carrier : Conversion → Type
  | .int k => k.Value
  | .single | .double => Binary64
  | .bool => Bool
  | .text => String
  | .value => HostValue
  | .object => HostObject
  | .function => Nat
  | .optional c => Option c.Carrier

namespace HostValue

/-- Coercion to a declared type, a failure naming the type and what was there. -/
def coerceOrMismatch (v : HostValue) (t : HostType) : Except BridgeError HostValue :=
  match v.coerce? t with
  | some v' => .ok v'
  | none => .error (.typeMismatch t.name v.typeName)

end HostValue

def IntKind.narrow (k : IntKind) (n : Int64) : Except BridgeError k.Value :=
  if h : k.low ≤ n.toInt ∧ n.toInt ≤ k.high then .ok ⟨n.toInt, h⟩
  else .error (.typeMismatch k.name (intText n.toInt))

namespace Conversion

def intFromHost (k : IntKind) (v : HostValue) : Except BridgeError k.Value := do
  match ← v.coerceOrMismatch .int with
  | .int n => k.narrow n
  | other => .error (.typeMismatch k.name other.typeName)

def floatFromHost (v : HostValue) : Except BridgeError Binary64 := do
  match ← v.coerceOrMismatch .float with
  | .float x => .ok x
  | other => .error (.typeMismatch "float" other.typeName)

def boolFromHost (v : HostValue) : Except BridgeError Bool := do
  match ← v.coerceOrMismatch .bool with
  | .bool b => .ok b
  | other => .error (.typeMismatch "bool" other.typeName)

def textFromHost (v : HostValue) : Except BridgeError String := do
  match ← v.coerceOrMismatch .string with
  | .str s => .ok s
  | other => .error (.typeMismatch "string" other.typeName)

def objectFromHost : HostValue → Except BridgeError HostObject
  | .object o => .ok o
  | other => .error (.typeMismatch "object" other.typeName)

/-- Only a script function will do; a host callable is refused. -/
def functionFromHost : HostValue → Except BridgeError Nat
  | .function number => .ok number
  | other => .error (.typeMismatch "function" other.typeName)

def fromHost : (c : Conversion) → HostValue → Except BridgeError c.Carrier
  | .int k, v => intFromHost k v
  | .single, v => (floatFromHost v).map Binary64.toSingle
  | .double, v => floatFromHost v
  | .bool, v => boolFromHost v
  | .text, v => textFromHost v
  | .value, v => .ok v
  | .object, v => objectFromHost v
  | .function, v => functionFromHost v
  | .optional c, v => if v.isNil then .ok none else (fromHost c v).map some

/-- The value that stands for contents of a representation.  An integer past the range of 64-bit
    words wraps. -/
def intoHost : (c : Conversion) → c.Carrier → HostValue
  | .int _, n => .int (Int64.ofInt n.val)
  | .single, x => .float x
  | .double, x => .float x
  | .bool, b => .bool b
  | .text, s => .str s
  | .value, v => v
  | .object, o => .object o
  | .function, number => .function number
  | .optional c, contents =>
    match contents with
    | none => .nil
    | some x => intoHost c x

/-- A value as it comes back from a representation. -/
def convert (c : Conversion) (v : HostValue) : Except BridgeError HostValue :=
  (c.fromHost v).map c.intoHost

end Conversion

end ScriptHost
