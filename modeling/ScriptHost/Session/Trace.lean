import ScriptHost.Host.Store
import ScriptHost.Script.Machine
/-!
# Traces

What can be observed of a run: a list of events, each a snapshot taken when it happened.  Operations of
the machine are reported with the size of the frame and its topmost slots, commands of a session with
their reply, and output as the lines written.
-/

namespace ScriptHost

/-- A slot of the stack as reported. -/
inductive SlotView where
  | nil
  | boolean (b : Bool)
  | number (x : Binary64)
  | string (bytes : Bytes)
  | function
  | light (token : Token)
  /-- A table, with the token it carries, if any. -/
  | table (token : Option Token)

/-- How a slot is reported. -/
def Machine.viewOf (m : Machine) : Value → SlotView
  | .nil => .nil
  | .boolean b => .boolean b
  | .number x => .number x
  | .string bytes => .string bytes
  | .function .. => .function
  | .light t => .light t
  | .table address => .table (m.tokenOf? (.table address))

/-- A host value as reported: things with an identity by number, and functions with whether they are
    disposed. -/
inductive ValueView where
  | nil
  | bool (b : Bool)
  | int (n : Int64)
  | float (x : Binary64)
  | str (s : String)
  | object (typeName : String) (record : Nat)
  | surface (typeName : String) (number : Nat)
  | function (number : Nat) (isDisposed : Bool)
  | callable (name : String) (returnsValue : Bool)

/-- How a host value is reported. -/
def HostStore.viewOf (h : HostStore) : HostValue → ValueView
  | .nil => .nil
  | .bool b => .bool b
  | .int n => .int n
  | .float x => .float x
  | .str s => .str s
  | .object o => .object o.typeName o.record
  | .surface s => .surface s.typeName s.number
  | .function number => .function number (h.functionReference? number).isNone
  | .callable f => .callable f.name f.returnsValue

/-- The answer of a machine operation. -/
inductive OpAnswer where
  | nothing
  | int (n : Int)
  | flag (b : Bool)
  | text (s : String)
  | number (x : Option Binary64)
  | integer (n : Option Int64)
  | bytes (bs : Option Bytes)
  /-- An opaque host word. -/
  | light (token : Option Token)
  /-- The token a value carries. -/
  | token (token : Option Token)
  | slot (v : SlotValue)

/-- What a member write did. -/
inductive WriteOutcome where
  | assigned
  /-- Made a new entry. -/
  | inserted
  | ignored
  deriving DecidableEq, Repr

/-- The answer of a session command, over a type of values. -/
inductive Reply (α : Type) where
  | nothing
  | value (v : α)
  /-- A surface, and the token it is published under. -/
  | surface (s : Surface) (token : Option Token)
  | descriptor (d : TypeDescriptor)
  | member (kind : Option MemberKind)
  | flag (b : Bool)
  | text (s : String)
  | texts (ss : List String)
  /-- A callable member, bound to a target of the named type. -/
  | bound (name typeName : String)
  | outcome (o : WriteOutcome)
  | void

def Reply.map {α β : Type} (f : α → β) : Reply α → Reply β
  | nothing => nothing
  | value v => value (f v)
  | surface s token => surface s token
  | descriptor d => descriptor d
  | member kind => member kind
  | flag b => flag b
  | text s => text s
  | texts ss => texts ss
  | bound name typeName => bound name typeName
  | outcome o => outcome o
  | void => void

inductive Event where
  /-- A machine operation has ended. -/
  | op (name : String) (result : Except VmError OpAnswer) (top : Int) (slots : List SlotView)
  /-- A session command has ended; the counts are of handles and of functions held. -/
  | command (name : String) (result : Except Raised (Reply ValueView)) (top : Int)
      (handles functions : Nat)
  | logged (v : ValueView)
  | printed (line : String)
  | reported (message : String)
  | count (name : String) (n : Nat)
  | note (name text : String)

end ScriptHost
