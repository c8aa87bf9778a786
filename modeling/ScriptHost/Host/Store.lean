import ScriptHost.Host.Conversion
/-!
# The host's state

Everything of the host that outlives a call: its records, the cells behind static members, the token
each surface was last published under, the reference behind each script function it holds, and the
variables of host code.

A record is guarded by a `Borrow`: any number of readers, or one writer.  Access that the guard does
not admit fails and changes nothing.
-/

namespace ScriptHost

/-- Who is using a record. -/
inductive Borrow where
  | free
  /-- Readers; one more than the number. -/
  | shared (others : Nat)
  | exclusive
  deriving DecidableEq, Repr

namespace Borrow

/-- The guard with one more reader, if readers are admitted. -/
def share? : Borrow → Option Borrow
  | free => some (shared 0)
  | shared n => some (shared (n + 1))
  | exclusive => none

/-- The guard with a writer, if one is admitted. -/
def claim? : Borrow → Option Borrow
  | free => some exclusive
  | _ => none

/-- The guard when one reader or the writer is done. -/
def release : Borrow → Borrow
  | shared (n + 1) => shared n
  | _ => free

/-- The guard with one more user of the given kind, if it is admitted. -/
def admit? (isExclusive : Bool) (b : Borrow) : Option Borrow :=
  if isExclusive then b.claim? else b.share?

theorem release_admit {isExclusive : Bool} {b b' : Borrow} (h : b.admit? isExclusive = some b') :
    b'.release = b := by
  cases isExclusive <;> cases b <;> simp_all [admit?, share?, claim?] <;> subst h <;> rfl

end Borrow

/-- The value an entry is to hold, or why it cannot. -/
def Storage.accept (s : Storage) (key : String) (v : HostValue) : Except BridgeError HostValue :=
  match s with
  | .plain => if key.toList.head? = some '!' then .error (.typeMismatch "plain key" key) else .ok v
  | .typed c => c.convert v

/-- An object of the host: named entries under a guard. -/
structure Record where
  type : RecordType
  entries : Dict String HostValue
  borrow : Borrow

namespace Record

def blank (type : RecordType) : Record := ⟨type, .empty, .free⟩

instance : Inhabited Record := ⟨blank ⟨"", .plain⟩⟩

/-- An entry, nil if there is none. -/
def read (r : Record) (key : String) : HostValue := (r.entries.get? key).getD .nil

/-- The record with an entry set, if its storage accepts the value. -/
def set (r : Record) (key : String) (v : HostValue) : Except BridgeError Record :=
  (r.type.storage.accept key v).map fun v' => { r with entries := r.entries.insert key v' }

/-- The record with an entry set, or as it was if its storage refuses the value. -/
def put (r : Record) (key : String) (v : HostValue) : Record :=
  match r.set key v with
  | .ok r' => r'
  | .error _ => r

end Record

structure HostStore where
  records : Array Record
  cells : Array HostValue
  /-- By surface number, the token the surface was last published under. -/
  published : Array (Option Token)
  /-- By script function number, the reference it is held by, until it is disposed. -/
  functions : Array (Option Nat)
  callableCount : Nat
  vars : Dict String HostValue

namespace HostStore

def empty : HostStore := ⟨#[], #[], #[], #[], 0, .empty⟩

instance : Inhabited HostStore := ⟨empty⟩

def literal (h : HostStore) : Literal → HostValue
  | .nil => .nil
  | .bool b => .bool b
  | .int n => .int n
  | .float x => .float x
  | .str s => .str s
  | .var name => (h.vars.get? name).getD .nil

def save (h : HostStore) (name : String) (v : HostValue) : HostStore :=
  { h with vars := h.vars.insert name v }

def newCell (h : HostStore) (v : HostValue) : Nat × HostStore :=
  (h.cells.size, { h with cells := h.cells.push v })

def cell (h : HostStore) (i : Nat) : HostValue := h.cells[i]?.getD .nil

def setCell (h : HostStore) (i : Nat) (v : HostValue) : HostStore :=
  { h with cells := h.cells.setIfInBounds i v }

def newRecord (h : HostStore) (r : Record) : Nat × HostStore :=
  (h.records.size, { h with records := h.records.push r })

def record (h : HostStore) (i : Nat) : Record := h.records[i]?.getD default

def setRecord (h : HostStore) (i : Nat) (r : Record) : HostStore :=
  { h with records := h.records.setIfInBounds i r }

/-- A new surface for a descriptor, published nowhere yet. -/
def newSurface (h : HostStore) (d : TypeDescriptor) : Surface × HostStore :=
  (.build h.published.size d, { h with published := h.published.push none })

def publishedToken (h : HostStore) (s : Surface) : Option Token := h.published[s.number]?.getD none

def setPublishedToken (h : HostStore) (s : Surface) (t : Token) : HostStore :=
  let missing := s.number + 1 - h.published.size
  { h with
    published := (h.published ++ Array.replicate missing none).setIfInBounds s.number (some t) }

theorem publishedToken_setPublishedToken (h : HostStore) (s s' : Surface) (t : Token) :
    (h.setPublishedToken s t).publishedToken s' =
      if s.number = s'.number then some t else h.publishedToken s' := by
  simp only [publishedToken, setPublishedToken, Array.getElem?_setIfInBounds, Array.size_append,
    Array.size_replicate]
  by_cases same : s.number = s'.number
  · rw [if_pos same, if_pos same, if_pos (by omega)]
    rfl
  · rw [if_neg same, if_neg same, Array.getElem?_append]
    by_cases inside : s'.number < h.published.size
    · rw [if_pos inside]
    · have absent : h.published[s'.number]? = none := Array.getElem?_eq_none (by omega)
      rw [if_neg inside, absent, Array.getElem?_replicate]
      split <;> rfl

@[simp] theorem publishedToken_newSurface (h : HostStore) (d : TypeDescriptor) (s : Surface) :
    (h.newSurface d).2.publishedToken s = h.publishedToken s := by
  simp only [publishedToken, newSurface, Array.getElem?_push]
  split
  · rename_i new
    simp [new]
  · rfl

/-- A new script function held by a reference, and its number. -/
def newFunction (h : HostStore) (reference : Nat) : Nat × HostStore :=
  (h.functions.size, { h with functions := h.functions.push (some reference) })

/-- The reference a script function is held by, unless it is disposed. -/
def functionReference? (h : HostStore) (number : Nat) : Option Nat := h.functions[number]?.getD none

def disposeFunction (h : HostStore) (number : Nat) : HostStore :=
  { h with functions := h.functions.setIfInBounds number none }

def newCallable (h : HostStore) (name : String) (returnsValue : Bool) (body : Expr) :
    HostFunction × HostStore :=
  (⟨h.callableCount, name, returnsValue, body⟩, { h with callableCount := h.callableCount + 1 })

end HostStore

end ScriptHost
