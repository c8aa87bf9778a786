import ScriptHost.Host.Expr
/-!
# Type descriptors

A `TypeDescriptor` is the directory of what a forwarded host type offers to scripts: accessors and
method overloads of its instances, the same of the type itself, constructors, and whether instances
answer member access from their entries.

`TypeDescriptor.member` and `TypeDescriptor.staticMember` say what kind of member a name stands for.
-/

namespace ScriptHost

/-- A field or property of an instance: the entry it reads, and the entry it writes together with the
    representation a value must have for that. -/
structure Accessor where
  type : HostType
  reads : Option String
  writes : Option (String × Conversion)

/-- The parameters of an overload, and whether it returns a value. -/
structure Signature where
  params : List HostType
  returnsValue : Bool
  deriving DecidableEq, Repr

structure Method where
  signature : Signature
  /-- A reentrant body is handed the object; any other runs with the receiver borrowed exclusively. -/
  isReentrant : Bool
  body : Expr

/-- How a static field or property is read. -/
inductive StaticReader where
  | cell (index : Nat)
  | literal (value : Literal)
  /-- Not at all: the host code panics. -/
  | panics (text : String)

structure StaticAccessor where
  type : HostType
  reads : Option StaticReader
  writes : Option (Nat × Conversion)

structure StaticMethod where
  signature : Signature
  body : Expr

/-- One constructor: the entries it gives to a new instance. -/
structure Constructor where
  params : List HostType
  entries : List (String × Expr)

structure TypeDescriptor where
  /-- The name scripts know the type by. -/
  name : String
  type : RecordType
  /-- The tag of the type's handles, zero before registration. -/
  tag : UInt32
  fields : Dict String Accessor
  properties : Dict String Accessor
  methods : Dict String (List Method)
  staticFields : Dict String StaticAccessor
  staticProperties : Dict String StaticAccessor
  staticMethods : Dict String (List StaticMethod)
  constructors : List Constructor
  /-- Whether member access consults the entries of an instance, and only those. -/
  isDictionary : Bool

/-- What a name stands for in a type's directory. -/
inductive MemberKind where
  | field (isReadable isWritable : Bool)
  | property (isReadable isWritable : Bool)
  | method (overloads : Nat)
  | constructor (overloads : Nat)
  deriving DecidableEq, Repr

/-- The name scripts reach the constructors by. -/
def constructorName : String := "new"

namespace TypeDescriptor

def blank (name : String) (type : RecordType) : TypeDescriptor :=
  { name, type, tag := 0, fields := .empty, properties := .empty, methods := .empty,
    staticFields := .empty, staticProperties := .empty, staticMethods := .empty,
    constructors := [], isDictionary := false }

/-- What a name stands for on an instance: a field before a property before a method. -/
def member (d : TypeDescriptor) (name : String) : Option MemberKind :=
  match d.fields.get? name with
  | some a => some (.field a.reads.isSome a.writes.isSome)
  | none =>
    match d.properties.get? name with
    | some a => some (.property a.reads.isSome a.writes.isSome)
    | none => (d.methods.get? name).map fun overloads => .method overloads.length

/-- What a name stands for on the type itself: the constructors under their own name, then a field, a
    property and a method. -/
def staticMember (d : TypeDescriptor) (name : String) : Option MemberKind :=
  if name = constructorName ∧ ¬ d.constructors.isEmpty then
    some (.constructor d.constructors.length)
  else
    match d.staticFields.get? name with
    | some a => some (.field a.reads.isSome a.writes.isSome)
    | none =>
      match d.staticProperties.get? name with
      | some a => some (.property a.reads.isSome a.writes.isSome)
      | none => (d.staticMethods.get? name).map fun overloads => .method overloads.length

end TypeDescriptor

end ScriptHost
