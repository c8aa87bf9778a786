import ScriptHost.Host.Value
/-!
# Handles

A `HandleStore` issues tokens for host objects and surfaces.  Entries live in numbered slots.  When a
slot is given up its generation moves on, so a token, which carries the generation it was issued
under, stops resolving for good however often the slot is used again.

An index from records to tokens answers whether an object has a token already.
-/

namespace ScriptHost

inductive HandleEntry where
  | object (o : HostObject)
  | surface (s : Surface)

namespace HandleEntry

def toValue : HandleEntry → HostValue
  | object o => .object o
  | surface s => .surface s

/-- The record behind an entry, if it is an object. -/
def record? : HandleEntry → Option Nat
  | object o => some o.record
  | surface _ => none

end HandleEntry

structure HandleSlot where
  generation : UInt32
  tag : UInt32
  entry : Option HandleEntry

namespace HandleSlot

instance : Inhabited HandleSlot := ⟨1, 0, none⟩

/-- The slot after its entry is gone.  Zero is no generation, so the count wraps to one. -/
def vacate (s : HandleSlot) : HandleSlot :=
  let next := s.generation + 1
  { s with generation := if next = 0 then 1 else next, entry := none }

end HandleSlot

structure HandleStore where
  slots : Array HandleSlot
  /-- The slots to use again, next one first. -/
  free : List Nat
  /-- The number of handles, counted up and down as they come and go. -/
  live : Nat
  limit : Option Nat
  /-- By record, the token last issued for it. -/
  tokens : NumberedDict Nat Token

namespace HandleStore

/-- A store without handles, and the greatest number it may hold. -/
def empty (limit : Option Nat) : HandleStore := ⟨#[], [], 0, limit, .empty⟩

def size (h : HandleStore) : Nat := h.live

/-- Whether one more handle is one too many. -/
def isFull (h : HandleStore) : Bool :=
  match h.limit with
  | none => false
  | some limit => limit ≤ h.live

/-- The slot for the next handle, occupied; a slot given up last is used first. -/
def occupy (h : HandleStore) (entry : HandleEntry) (tag : UInt32) : Nat × HandleStore :=
  match h.free with
  | i :: free =>
    (i, { h with
      free, slots := h.slots.modify i fun s => { s with tag, entry := some entry } })
  | [] => (h.slots.size, { h with slots := h.slots.push ⟨1, tag, some entry⟩ })

/-- The token for the current contents of a slot. -/
def tokenAt (h : HandleStore) (i : Nat) : Token :=
  let s := h.slots[i]?.getD default
  ⟨s.generation, UInt32.ofNat i, s.tag⟩

/-- The store with a token in the index, if the entry has a record. -/
def remember (h : HandleStore) (entry : HandleEntry) (t : Token) : HandleStore :=
  match entry.record? with
  | some record => { h with tokens := h.tokens.insert record t }
  | none => h

def alloc (h : HandleStore) (entry : HandleEntry) (tag : UInt32) :
    Except BridgeError Token × HandleStore :=
  if h.isFull then (.error (.handleLimit (h.limit.getD 0)), h)
  else
    let (i, h) := h.occupy entry tag
    let h := { h with live := h.live + 1 }
    let token := h.tokenAt i
    (.ok token, h.remember entry token)

/-- The entry a token refers to, if the token is live. -/
def get? (h : HandleStore) (t : Token) : Option HandleEntry :=
  match h.slots[t.slot.toNat]? with
  | some s => if s.generation = t.generation ∧ s.tag = t.tag then s.entry else none
  | none => none

def resolve (h : HandleStore) (t : Token) : Except BridgeError HandleEntry :=
  match h.get? t with
  | some entry => .ok entry
  | none => .error (.unresolvedHandle t)

/-- The live token that the index gives for an object. -/
def tokenOf? (h : HandleStore) (o : HostObject) : Option Token :=
  match h.tokens.get? o.record with
  | some t =>
    match h.get? t with
    | some (.object live) => if live.record = o.record then some t else none
    | _ => none
  | none => none

/-- The store with a token out of the index, if it is there for the entry's record. -/
def forget (h : HandleStore) (entry : HandleEntry) (t : Token) : HandleStore :=
  match entry.record? with
  | some record =>
    if h.tokens.get? record = some t then { h with tokens := h.tokens.erase record } else h
  | none => h

/-- Gives up one handle: the token and every copy of it stop resolving. -/
def release (h : HandleStore) (t : Token) : Except BridgeError HandleEntry × HandleStore :=
  match h.resolve t with
  | .error e => (.error e, h)
  | .ok entry =>
    let i := t.slot.toNat
    let h := { h with
      slots := h.slots.modify i HandleSlot.vacate, free := i :: h.free, live := h.live - 1 }
    (.ok entry, h.forget entry t)

/-- Gives up every handle; the number of them, and the store, in which the lowest slots come first. -/
def releaseAll (h : HandleStore) : Nat × HandleStore :=
  (h.live,
    { h with
      slots := h.slots.map fun s => if s.entry.isSome then s.vacate else s
      free := List.range h.slots.size
      live := 0
      tokens := .empty })

end HandleStore

end ScriptHost
