import ScriptHost.Host.Descriptor
/-!
# Static surfaces

The surface of a forwarded type is the object scripts see under the type's name: its static members,
compiled from the descriptor into one table.  Members are entered kind by kind, fields first and
constructors last, and a later member replaces an earlier one of the same name.
-/

namespace ScriptHost

inductive SurfaceMember where
  | field (accessor : StaticAccessor)
  | property (accessor : StaticAccessor)
  | method (overloads : List StaticMethod)
  | constructor

namespace SurfaceMember

def kindName : SurfaceMember → String
  | field _ => "Field"
  | property _ => "Property"
  | method _ => "Method"
  | constructor => "Constructor"

end SurfaceMember

/-- A published, or publishable, surface.  Two surfaces are the same exactly if their numbers are. -/
structure Surface where
  number : Nat
  descriptor : TypeDescriptor
  members : Dict String SurfaceMember

namespace Surface

/-- Enters every member of one kind. -/
def enter {α : Type} (kind : α → SurfaceMember) (source : Dict String α)
    (members : Dict String SurfaceMember) : Dict String SurfaceMember :=
  source.toList.foldl (fun ms entry => ms.insert entry.1 (kind entry.2)) members

/-- The table of static members that a descriptor compiles to. -/
def compile (d : TypeDescriptor) : Dict String SurfaceMember :=
  let accessors := enter .property d.staticProperties (enter .field d.staticFields .empty)
  let methods := enter .method d.staticMethods accessors
  if d.constructors.isEmpty then methods else methods.insert constructorName .constructor

def build (number : Nat) (d : TypeDescriptor) : Surface := ⟨number, d, compile d⟩

def typeName (s : Surface) : String := s.descriptor.name

def member (s : Surface) (name : String) : Option SurfaceMember := s.members.get? name

/-- The names of the members, in the order of their code points. -/
def memberNames (s : Surface) : List String := s.members.keys.mergeSort (· ≤ ·)

end Surface

end ScriptHost
