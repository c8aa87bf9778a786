import ScriptHost.Host.Value
/-!
# Script values and tables

The values of the script machine, with tables as references into the machine's heap and native
functions as the first-order code they run.
-/

namespace ScriptHost

/-- What a native function of the machine does when it is called. -/
inductive NativeCode where
  | program (p : Program)
  | toText
  /-- Names the type of its first argument. -/
  | typeName
  /-- Fails with its first argument, rendered. -/
  | raise
  /-- Renders all its arguments to one line of output. -/
  | print
  /-- Reads a member of the object or surface a token refers to. -/
  | readMember (target : Token)
  | writeMember (target : Token)
  | label (text : String)
  /-- Calls a member of the object or surface a token refers to. -/
  | callMember (target : Token) (name : String)
  | host (f : HostFunction)

inductive Value where
  | nil
  | boolean (b : Bool)
  | number (x : Binary64)
  | string (bytes : Bytes)
  /-- An opaque host word: a handle token. -/
  | light (token : Token)
  | table (address : Nat)
  | function (name : String) (code : NativeCode)

namespace Value

instance : Inhabited Value := ⟨nil⟩

def typeName : Value → String
  | nil => "nil"
  | boolean _ => "boolean"
  | number _ => "number"
  | string _ => "string"
  | light _ => "userdata"
  | table _ => "table"
  | function .. => "function"

def isNil : Value → Bool
  | nil => true
  | _ => false

/-- All values but nil and false count as true. -/
def isTruthy : Value → Bool
  | nil | boolean false => false
  | _ => true

def isFunction : Value → Bool
  | function .. => true
  | _ => false

/-- The token of an opaque host word. -/
def token? : Value → Option Token
  | light t => some t
  | _ => none

end Value

/-- A table: fields under byte-string keys, none of which holds nil, and perhaps a metatable. -/
structure Table where
  fields : Dict Bytes Value
  metatable : Option Nat

namespace Table

def empty : Table := ⟨.empty, none⟩

instance : Inhabited Table := ⟨empty⟩

def get (t : Table) (key : Bytes) : Value := (t.fields.get? key).getD .nil

def contains (t : Table) (key : Bytes) : Bool := t.fields.contains key

/-- Assigning nil removes the key. -/
def set (t : Table) (key : Bytes) (v : Value) : Table :=
  { t with fields := if v.isNil then t.fields.erase key else t.fields.insert key v }

def size (t : Table) : Nat := t.fields.size

/-- What the metatable, found in a heap, holds for an event. -/
def metamethod (t : Table) (heap : Array Table) (event : String) : Value :=
  match t.metatable with
  | some address => ((heap[address]?).getD .empty).get (utf8Encode event)
  | none => .nil

end Table

end ScriptHost
