import ScriptHost.Script.Value
/-!
# The script machine

A stack machine for native functions.  Each running function has a frame, the part of the stack from
its base up; indices are relative to the frame, and no operation here reaches below it.  Beside the
stack there are global variables, a heap of tables, and a registry through which the host keeps values
alive by number.

This module holds the operations that run no script code: the stack, tables without metamethods,
globals, references, loading and closing.
-/

namespace ScriptHost

structure Machine where
  /-- All slots, the bottom one first. -/
  stack : Array Value
  /-- The bases of the running functions' frames, the innermost last. -/
  frames : Array Nat
  globals : Table
  tables : Array Table
  registry : Array (Option Value)
  /-- The registry numbers to use again, next one first. -/
  freeReferences : List Nat
  /-- The source texts that can be loaded. -/
  chunks : Dict Bytes Program
  /-- How many functions may be running at once. -/
  maxDepth : Nat
  isClosed : Bool

/-- The depth of calls that a machine admits unless told otherwise. -/
def defaultMaxDepth : Nat := 200

namespace Machine

def start (maxDepth : Nat) : Machine :=
  { stack := #[], frames := #[], globals := .empty, tables := #[], registry := #[],
    freeReferences := [], chunks := .empty, maxDepth, isClosed := false }

instance : Inhabited Machine := ⟨start defaultMaxDepth⟩

/-! ## The stack -/

def height (m : Machine) : Nat := m.stack.size

/-- The first slot of the current frame. -/
def base (m : Machine) : Nat := m.frames.back?.getD 0

/-- How many functions are running. -/
def depth (m : Machine) : Nat := m.frames.size

def frameSize (m : Machine) : Nat := m.height - m.base

def top (m : Machine) : Int := m.frameSize

/-- The slot an index denotes, if it denotes one: from the base if positive, from the top if
    negative. -/
def slotIndex? (m : Machine) (index : Int) : Option Nat :=
  if 0 < index then
    let i := m.base + index.toNat - 1
    if i < m.height then some i else none
  else if index < 0 then
    if index.natAbs ≤ m.frameSize then some (m.height - index.natAbs) else none
  else none

/-- The value at an index, nil where there is no slot. -/
def valueAt (m : Machine) (index : Int) : Value :=
  ((m.slotIndex? index).bind fun i => m.stack[i]?).getD .nil

/-- The index from the base that stands for the same slot; it is not positive for one that lies below
    the frame. -/
def absIndex (m : Machine) (index : Int) : Int := if 0 < index then index else m.top + index + 1

def push (m : Machine) (v : Value) : Machine := { m with stack := m.stack.push v }

/-- The slots above a height removed. -/
def truncate (m : Machine) (height : Nat) : Machine := { m with stack := m.stack.shrink height }

/-- Exactly `n` values: the first of those given, or all of them and then nils. -/
def resize (n : Nat) (vs : Array Value) : Array Value :=
  let missing := n - vs.size
  vs.shrink n ++ Array.replicate missing .nil

/-- Sets the size of the frame, given as an index; a negative index keeps the slot it denotes on top,
    and at the least empties the frame. -/
def setTop (m : Machine) (index : Int) : Machine :=
  let height : Int := if 0 ≤ index then m.base + index else max (m.height + index + 1) m.base
  { m with stack := resize height.toNat m.stack }

def pop (m : Machine) (count : Int) : Machine := m.setTop (m.top - count)

/-- The topmost value of the frame and the machine without it; nil if the frame is empty. -/
def popValue (m : Machine) : Value × Machine :=
  if m.base < m.height then (m.stack.back?.getD .nil, { m with stack := m.stack.pop })
  else (.nil, m)

/-- The topmost slots of the frame, at most `n` of them, bottom one first. -/
def topmost (m : Machine) (n : Nat) : List Value :=
  (m.stack.extract (m.height - min n m.frameSize) m.height).toList

/-! ## Tables -/

def table (m : Machine) (address : Nat) : Table := m.tables[address]?.getD .empty

def setTable (m : Machine) (address : Nat) (t : Table) : Machine :=
  { m with tables := m.tables.setIfInBounds address t }

/-- Sets a field of a table, without metamethods. -/
def setTableField (m : Machine) (address : Nat) (key : Bytes) (v : Value) : Machine :=
  m.setTable address ((m.table address).set key v)

/-- What the metatable of a table holds for an event. -/
def metamethod (m : Machine) (address : Nat) (event : String) : Value :=
  (m.table address).metamethod m.tables event

def newTable (m : Machine) : Machine :=
  { m with tables := m.tables.push .empty, stack := m.stack.push (.table m.tables.size) }

/-- The field of the table at an index, nil if there is no table. -/
@[inline] def rawField (m : Machine) (index : Int) (name : String) : Value :=
  match m.valueAt index with
  | .table address => (m.table address).get (utf8Encode name)
  | _ => .nil

/-- Pushes a field of the table at an index, and gives it. -/
@[inline] def rawGet (m : Machine) (index : Int) (name : String) : Value × Machine :=
  let v := m.rawField index name
  (v, m.push v)

/-- Pops a value into a field of the table at an index. -/
def rawSet (m : Machine) (index : Int) (name : String) : Machine :=
  -- An index from the top counts the value that is about to be popped.
  let target := m.valueAt index
  let (v, m') := m.popValue
  match target with
  | .table address => m'.setTableField address (utf8Encode name) v
  | _ => m'

/-- Pops a table, or nil for none, into the metatable of the table at an index. -/
def setMetatable (m : Machine) (index : Int) : Except VmError Unit × Machine :=
  let target := m.valueAt index
  let (v, m') := m.popValue
  match target, v with
  | .table address, .table metatable =>
    (.ok (), m'.setTable address { m'.table address with metatable := some metatable })
  | .table address, .nil =>
    (.ok (), m'.setTable address { m'.table address with metatable := none })
  | _, _ => (.error (.typeError ("cannot set a metatable on a " ++ target.typeName ++ " value")), m')

/-- The address of the metatable of the value at an index. -/
def metatableAt? (m : Machine) (index : Int) : Option Nat :=
  match m.valueAt index with
  | .table address => (m.table address).metatable
  | _ => none

/-- Pushes the metatable of the value at an index, if it has one. -/
def getMetatable (m : Machine) (index : Int) : Bool × Machine :=
  match m.metatableAt? index with
  | some metatable => (true, m.push (.table metatable))
  | none => (false, m)

/-! ## Globals -/

def global (m : Machine) (name : String) : Value := m.globals.get (utf8Encode name)

/-- Pushes a global, and gives it. -/
def getGlobal (m : Machine) (name : String) : Value × Machine :=
  let v := m.global name
  (v, m.push v)

def setGlobal (m : Machine) (name : String) : Machine :=
  let (v, m) := m.popValue
  { m with globals := m.globals.set (utf8Encode name) v }

/-! ## References -/

/-- Keeps the value at an index, and gives its number; a number given up last is used first. -/
def reference (m : Machine) (index : Int) : Nat × Machine :=
  let v := m.valueAt index
  match m.freeReferences with
  | r :: free =>
    (r, { m with registry := m.registry.setIfInBounds r (some v), freeReferences := free })
  | [] => (m.registry.size, { m with registry := m.registry.push (some v) })

def referenced? (m : Machine) (r : Nat) : Option Value := m.registry[r]?.getD none

/-- Pushes the value kept under a number, nil if there is none, and says whether there is. -/
def pushReference (m : Machine) (r : Nat) : Bool × Machine :=
  match m.referenced? r with
  | some v => (true, m.push v)
  | none => (false, m.push .nil)

/-- Gives up a number, if something is kept under it. -/
def releaseReference (m : Machine) (r : Nat) : Machine :=
  match m.referenced? r with
  | some _ =>
    { m with
      registry := m.registry.setIfInBounds r none
      freeReferences := r :: m.freeReferences }
  | none => m

def referenceCount (m : Machine) : Nat := m.registry.countP Option.isSome

/-! ## Loading and closing -/

def checkOpen (m : Machine) : Except VmError Unit :=
  if m.isClosed then .error .closed else .ok ()

def registerChunk (m : Machine) (source : Bytes) (body : Program) : Machine :=
  { m with chunks := m.chunks.insert source body }

/-- Pushes the function that a source text stands for. -/
def load (m : Machine) (chunk : String) (source : Bytes) : Except VmError Unit × Machine :=
  match m.checkOpen with
  | .error e => (.error e, m)
  | .ok () =>
    match m.chunks.get? source with
    | some body => (.ok (), m.push (.function chunk (.program body)))
    | none =>
      (.error (.badChunk chunk "no executable chunk registered for this source"), m)

/-- Drops the whole state for good. -/
def close (m : Machine) : Machine :=
  if m.isClosed then m
  else
    -- The tables stay, for whoever outside the machine has one.
    { m with
      stack := #[], frames := #[], globals := .empty, registry := #[], freeReferences := [],
      chunks := .empty, isClosed := true }

/-! ## Decoding slots -/

def numberAt? (m : Machine) (index : Int) : Option Binary64 :=
  match m.valueAt index with
  | .number x => some x
  | _ => none

/-- The number at an index as a 64-bit integer, if it equals one. -/
def integerAt? (m : Machine) (index : Int) : Option Int64 :=
  (m.numberAt? index).bind Binary64.toInt64?

def bytesAt? (m : Machine) (index : Int) : Option Bytes :=
  match m.valueAt index with
  | .string bytes => some bytes
  | _ => none

/-- The token a value carries: its own if it is an opaque host word, or the one its metatable holds
    under a reserved key. -/
def tokenOf? (m : Machine) (v : Value) : Option Token :=
  match v with
  | .light t => some t
  | .table address =>
    match (m.table address).metatable with
    | some metatable => ((m.table metatable).get (utf8Encode "__handle")).token?
    | none => none
  | _ => none

def handleOf? (m : Machine) (index : Int) : Option Token :=
  m.tokenOf? (m.valueAt (m.absIndex index))

/-- Decodes the value at an index.  A table that carries no token decodes to nil. -/
def readSlot (m : Machine) (index : Int) : SlotValue :=
  let index := m.absIndex index
  match m.valueAt index with
  | .nil => .nil
  | .boolean b => .bool b
  | .number x => .float x
  | .string bytes => .string bytes
  | .function .. => .function (.slot index)
  | .light _ | .table _ =>
    match m.handleOf? index with
    | some t => .handle t
    | none => .nil

/-- Pushes a decoded value. -/
def writeSlot (m : Machine) : SlotValue → Machine
  | .nil => m.push .nil
  | .bool b => m.push (.boolean b)
  | .integer n => m.push (.number (.ofInt n.toInt))
  | .float x => m.push (.number x)
  | .string bytes => m.push (.string bytes)
  | .function (.slot index) => m.push (m.valueAt index)
  | .function (.pinned r) => (m.pushReference r).2
  | .handle t => m.push (.light t)

end Machine

end ScriptHost
