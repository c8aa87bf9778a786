import ScriptHost.NumberedDict
/-!
# Handle tokens

A script never holds a host object, only a token for it: a small pair of a 64-bit identity and a
32-bit tag, which it may copy, keep for too long or make up.  The identity packs the generation of a
slot in its upper half and the slot's number in its lower half.
-/

namespace ScriptHost

structure Token where
  generation : UInt32
  slot : UInt32
  tag : UInt32
  deriving DecidableEq, Repr

namespace Token

instance : Numbered Token := ⟨fun t => t.slot.toNat⟩

/-- The identity as one 64-bit number. -/
def id (t : Token) : Nat := t.generation.toNat * 4294967296 + t.slot.toNat

/-- The token with a given 64-bit identity. -/
def ofId (id : Nat) (tag : UInt32) : Token :=
  ⟨UInt32.ofNat (id / 4294967296), UInt32.ofNat id, tag⟩

@[simp] theorem ofId_id (t : Token) : ofId t.id t.tag = t := by
  have bound := t.slot.toNat_lt
  have upper : t.id / 4294967296 = t.generation.toNat := by unfold id; omega
  have generation : UInt32.ofNat (t.id / 4294967296) = t.generation := by
    rw [upper]; exact UInt32.ofNat_toNat
  have slot : UInt32.ofNat t.id = t.slot := by
    apply UInt32.toNat_inj.mp
    simp only [UInt32.toNat_ofNat', id]
    omega
  show (⟨UInt32.ofNat (t.id / 4294967296), UInt32.ofNat t.id, t.tag⟩ : Token) = t
  rw [generation, slot]

end Token

end ScriptHost
