import ScriptHost.Host.Descriptor
/-!
# The directory of registered types

Each registration is given the next tag, also when it replaces an earlier one of the same type, so a
tag belongs to one registration and zero to none.
-/

namespace ScriptHost

structure TypeDirectory where
  types : Dict RecordType TypeDescriptor
  nextTag : UInt32

namespace TypeDirectory

def empty : TypeDirectory := ⟨.empty, 1⟩

/-- Enters a descriptor under a fresh tag. -/
def register (r : TypeDirectory) (d : TypeDescriptor) : TypeDescriptor × TypeDirectory :=
  let d := { d with tag := r.nextTag }
  (d, ⟨r.types.insert d.type d, r.nextTag + 1⟩)

def lookup (r : TypeDirectory) (type : RecordType) : Option TypeDescriptor := r.types.get? type

/-- A descriptor with the given script name, the one registered first if there are several. -/
def find (r : TypeDirectory) (name : String) : Option TypeDescriptor :=
  r.types.values.find? (·.name = name)

def contains (r : TypeDirectory) (type : RecordType) : Bool := r.types.contains type

def size (r : TypeDirectory) : Nat := r.types.size

end TypeDirectory

end ScriptHost
