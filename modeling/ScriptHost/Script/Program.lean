import ScriptHost.Number.Binary64
import ScriptHost.Text.Utf8
import ScriptHost.Token
/-!
# Stack programs

Native code for the script machine in first-order form: an `Op` is one operation of the stack
interface, a `Program` a native function body made of them.  Keeping bodies as data rather than as
functions lets one evaluator run them, and lets statements quantify over all of them.
-/

namespace ScriptHost

/-- Where a script function decoded from the stack is kept. -/
inductive FunctionRef where
  | slot (index : Int)
  | pinned (reference : Nat)
  deriving DecidableEq, Repr

/-- A value decoded from a stack slot, on its way between the machine and the host. -/
inductive SlotValue where
  | nil
  | bool (b : Bool)
  | integer (n : Int64)
  | float (x : Binary64)
  | string (bytes : Bytes)
  | function (f : FunctionRef)
  | handle (token : Token)
  deriving DecidableEq

namespace SlotValue

def isNil : SlotValue → Bool
  | nil => true
  | _ => false

def typeName : SlotValue → String
  | nil => "nil"
  | bool _ => "boolean"
  | integer _ | float _ => "number"
  | string _ => "string"
  | function _ => "function"
  | handle _ => "userdata"

def asFloat? : SlotValue → Option Binary64
  | integer n => some (.ofInt n.toInt)
  | float x => some x
  | _ => none

/-- The value as text, if it is well-formed text. -/
def asText? : SlotValue → Option String
  | string bytes => utf8Decode? bytes
  | _ => none

end SlotValue

mutual

/-- An operation of the stack interface.  Indices count from the base of the frame if positive and from
    the top if negative. -/
inductive Op where
  | top
  | setTop (index : Int)
  | pop (count : Int)
  | absIndex (index : Int)
  | typeOf (index : Int)
  | pushNil
  | pushBoolean (b : Bool)
  | pushNumber (x : Binary64)
  | pushInteger (n : Int64)
  | pushString (bytes : Bytes)
  | pushLight (token : Token)
  | pushValue (index : Int)
  | toBoolean (index : Int)
  | toNumber (index : Int)
  | toInteger (index : Int)
  | toBytes (index : Int)
  | toLight (index : Int)
  | newTable
  | getField (index : Int) (name : String)
  | setField (index : Int) (name : String)
  | rawGet (index : Int) (name : String)
  | rawSet (index : Int) (name : String)
  | setMeta (index : Int)
  | getMeta (index : Int)
  | getGlobal (name : String)
  | setGlobal (name : String)
  | pushFunction (name : String) (body : Program)
  | call (argCount resultCount : Int)
  | protectedCall (argCount resultCount : Int)
  | reference (index : Int)
  | pushReference (reference : Nat)
  | releaseReference (reference : Nat)
  | load (chunk : String) (source : Bytes)
  | close
  | isClosed
  /-- Renders a value, failures included. -/
  | display (index : Int)
  /-- Renders a value, or fails. -/
  | render (index : Int)
  | readSlot (index : Int)
  | writeSlot (value : SlotValue)
  | readInteger (index : Int)
  | handleOf (index : Int)
  /-- Runs an operation and forgets its failure. -/
  | attempt (op : Op)

/-- A native function body: operations in order, the first failure of which ends it; then a failure
    of its own, if it has one; then a claim of how many results it leaves, by default the whole
    frame. -/
inductive Program where
  | mk (ops : List Op) (resultCount : Option Nat) (failure : Option String) (isQuiet : Bool)

end

def Op.name : Op → String
  | .top => "top" | .setTop _ => "set_top" | .pop _ => "pop" | .absIndex _ => "abs_index"
  | .typeOf _ => "type_of" | .pushNil => "push_nil" | .pushBoolean _ => "push_boolean"
  | .pushNumber _ => "push_number" | .pushInteger _ => "push_integer"
  | .pushString _ => "push_string" | .pushLight _ => "push_light" | .pushValue _ => "push_value"
  | .toBoolean _ => "to_boolean" | .toNumber _ => "to_number" | .toInteger _ => "to_integer"
  | .toBytes _ => "to_bytes" | .toLight _ => "to_light" | .newTable => "new_table"
  | .getField .. => "get_field" | .setField .. => "set_field" | .rawGet .. => "raw_get"
  | .rawSet .. => "raw_set" | .setMeta _ => "set_meta" | .getMeta _ => "get_meta"
  | .getGlobal _ => "get_global" | .setGlobal _ => "set_global" | .pushFunction .. => "push_fn"
  | .call .. => "call" | .protectedCall .. => "pcall" | .reference _ => "ref"
  | .pushReference _ => "push_ref" | .releaseReference _ => "unref" | .load .. => "load"
  | .close => "close" | .isClosed => "is_closed" | .display _ => "display"
  | .render _ => "sdk_display" | .readSlot _ => "codec_read" | .writeSlot _ => "codec_write"
  | .readInteger _ => "read_integer" | .handleOf _ => "handle_of" | .attempt _ => "try"

end ScriptHost
