import ScriptHost.Host.Store
/-!
# Building type descriptors

A `TypeBuilder` collects the members of one host type.  Declaring an accessor again replaces it,
declaring a method again adds an overload, and the default constructor counts only if no other
constructor was declared, before or after it.

A `TypeSpec` is a builder program in first-order form; building it may make cells for static members.
-/

namespace ScriptHost

structure TypeBuilder where
  descriptor : TypeDescriptor
  /-- The constructor to use if there is no other. -/
  defaultConstructor? : Option Constructor

namespace TypeBuilder

def start (name : String) (type : RecordType) : TypeBuilder := ⟨.blank name type, none⟩

/-! ## Instance members -/

/-- An accessor for the entry of its own name. -/
def accessor (name : String) (isReadable : Bool) (c : Option Conversion) : Accessor :=
  { type := (c.map Conversion.hostType).getD .any
    reads := if isReadable then some name else none
    writes := c.map fun c => (name, c) }

def addField (b : TypeBuilder) (name : String) (a : Accessor) : TypeBuilder :=
  { b with descriptor.fields := b.descriptor.fields.insert name a }

def addProperty (b : TypeBuilder) (name : String) (a : Accessor) : TypeBuilder :=
  { b with descriptor.properties := b.descriptor.properties.insert name a }

def field (b : TypeBuilder) (name : String) (c : Conversion) : TypeBuilder :=
  b.addField name (accessor name true (some c))

def readonlyField (b : TypeBuilder) (name : String) : TypeBuilder :=
  b.addField name (accessor name true none)

def property (b : TypeBuilder) (name : String) (c : Conversion) : TypeBuilder :=
  b.addProperty name (accessor name true (some c))

def readonlyProperty (b : TypeBuilder) (name : String) : TypeBuilder :=
  b.addProperty name (accessor name true none)

def writeonlyProperty (b : TypeBuilder) (name : String) (c : Conversion) : TypeBuilder :=
  b.addProperty name (accessor name false (some c))

def method (b : TypeBuilder) (name : String) (m : Method) : TypeBuilder :=
  { b with descriptor.methods := b.descriptor.methods.alter name fun ms => ms.getD [] ++ [m] }

/-- Makes instances answer member access from their entries. -/
def dictionary (b : TypeBuilder) : TypeBuilder :=
  { b with descriptor.isDictionary := true }

/-! ## Static members -/

def cellAccessor (c : Conversion) (cell : Nat) : StaticAccessor :=
  { type := c.hostType, reads := some (.cell cell), writes := some (cell, c) }

def readAccessor (reader : StaticReader) : StaticAccessor :=
  { type := .any, reads := some reader, writes := none }

def addStaticField (b : TypeBuilder) (name : String) (a : StaticAccessor) : TypeBuilder :=
  { b with descriptor.staticFields := b.descriptor.staticFields.insert name a }

def addStaticProperty (b : TypeBuilder) (name : String) (a : StaticAccessor) : TypeBuilder :=
  { b with descriptor.staticProperties := b.descriptor.staticProperties.insert name a }

def staticMethod (b : TypeBuilder) (name : String) (m : StaticMethod) : TypeBuilder :=
  { b with
    descriptor.staticMethods := b.descriptor.staticMethods.alter name fun ms => ms.getD [] ++ [m] }

/-! ## Construction -/

def constructor (b : TypeBuilder) (k : Constructor) : TypeBuilder :=
  { b with descriptor.constructors := b.descriptor.constructors ++ [k] }

def defaultConstructor (b : TypeBuilder) : TypeBuilder :=
  { b with defaultConstructor? := some ⟨[], []⟩ }

def build (b : TypeBuilder) : TypeDescriptor :=
  if b.descriptor.constructors.isEmpty then
    { b.descriptor with constructors := b.defaultConstructor?.toList }
  else b.descriptor

end TypeBuilder

/-- One declaration of a builder program. -/
inductive MemberSpec where
  | field (name : String) (c : Conversion)
  | property (name : String) (c : Conversion)
  | readonlyField (name : String)
  | readonlyProperty (name : String)
  | writeonlyProperty (name : String) (c : Conversion)
  | method (name : String) (m : Method)
  | dictionary
  /-- A static member over a fresh cell. -/
  | staticField (name : String) (c : Conversion) (initial : Literal)
  | staticProperty (name : String) (c : Conversion) (initial : Literal)
  | readonlyStaticField (name : String) (reader : StaticReader)
  | readonlyStaticProperty (name : String) (reader : StaticReader)
  /-- A static field that keeps the value its literal has now. -/
  | constant (name : String) (value : Literal)
  | staticMethod (name : String) (m : StaticMethod)
  | constructor (k : Constructor)
  | defaultConstructor

def MemberSpec.apply (m : MemberSpec) (b : TypeBuilder) (h : HostStore) : TypeBuilder × HostStore :=
  match m with
  | field name c => (b.field name c, h)
  | property name c => (b.property name c, h)
  | readonlyField name => (b.readonlyField name, h)
  | readonlyProperty name => (b.readonlyProperty name, h)
  | writeonlyProperty name c => (b.writeonlyProperty name c, h)
  | method name m => (b.method name m, h)
  | dictionary => (b.dictionary, h)
  | staticField name c initial =>
    let (cell, h) := h.newCell (h.literal initial)
    (b.addStaticField name (TypeBuilder.cellAccessor c cell), h)
  | staticProperty name c initial =>
    let (cell, h) := h.newCell (h.literal initial)
    (b.addStaticProperty name (TypeBuilder.cellAccessor c cell), h)
  | readonlyStaticField name reader =>
    (b.addStaticField name (TypeBuilder.readAccessor reader), h)
  | readonlyStaticProperty name reader =>
    (b.addStaticProperty name (TypeBuilder.readAccessor reader), h)
  | constant name value =>
    let (cell, h) := h.newCell (h.literal value)
    (b.addStaticField name (TypeBuilder.readAccessor (.cell cell)), h)
  | staticMethod name m => (b.staticMethod name m, h)
  | constructor k => (b.constructor k, h)
  | defaultConstructor => (b.defaultConstructor, h)

/-- A host type and the declarations that describe it. -/
structure TypeSpec where
  type : RecordType
  name : String
  members : List MemberSpec

namespace TypeSpec

def builder (s : TypeSpec) (h : HostStore) : TypeBuilder × HostStore :=
  s.members.foldl (fun (b, h) m => m.apply b h) (.start s.name s.type, h)

/-- The directory that the declarations describe. -/
def build (s : TypeSpec) (h : HostStore) : TypeDescriptor × HostStore :=
  let (b, h) := s.builder h
  (b.build, h)

end TypeSpec

end ScriptHost
