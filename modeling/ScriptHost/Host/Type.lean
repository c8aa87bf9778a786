import ScriptHost.Dict
/-!
# Host types

`HostType` is how the host declares a parameter or a member.  `Conversion` names a host-side
representation that values can be converted to and from; each has a declared `HostType`.
`RecordType` is a kind of host object: a label, and the rule for what its entries hold.
-/

namespace ScriptHost

inductive HostType where
  | bool
  | int
  | float
  | string
  /-- An instance of the type forwarded under this name. -/
  | object (name : String)
  | function
  | any
  deriving DecidableEq, Repr

namespace HostType

def name : HostType → String
  | bool => "bool"
  | int => "int"
  | float => "float"
  | string => "string"
  | object name => name
  | function => "function"
  | any => "any"

/-- The types between which text and numbers are converted. -/
def isPrimitive : HostType → Bool
  | bool | int | float | string => true
  | _ => false

end HostType

/-- The integer widths a host may ask for. -/
inductive IntKind where
  | i8 | i16 | i32 | i64 | u8 | u16 | u32 | usize
  deriving DecidableEq, Repr

namespace IntKind

def name : IntKind → String
  | i8 => "i8" | i16 => "i16" | i32 => "i32" | i64 => "i64"
  | u8 => "u8" | u16 => "u16" | u32 => "u32" | usize => "usize"

def low : IntKind → Int
  | i8 => -128 | i16 => -32768 | i32 => -2147483648 | i64 => -9223372036854775808
  | u8 | u16 | u32 | usize => 0

/-- The greatest integer of a width; machine words have 64 bits. -/
def high : IntKind → Int
  | i8 => 127 | i16 => 32767 | i32 => 2147483647 | i64 => 9223372036854775807
  | u8 => 255 | u16 => 65535 | u32 => 4294967295 | usize => 18446744073709551615

/-- The integers of a width. -/
def Value (k : IntKind) : Type := { n : Int // k.low ≤ n ∧ n ≤ k.high }

end IntKind

/-- The representations host code can take arguments in. -/
inductive Conversion where
  | int (k : IntKind)
  | single
  | double
  | bool
  | text
  /-- Any value, unconverted. -/
  | value
  | object
  | function
  /-- Nil, or a value of another representation. -/
  | optional (c : Conversion)
  deriving DecidableEq, Repr

/-- The declared type of what has this representation. -/
def Conversion.hostType : Conversion → HostType
  | .int _ => .int
  | .single | .double => .float
  | .bool => .bool
  | .text => .string
  | .value => .any
  | .object => .object "object"
  | .function => .function
  | .optional c => c.hostType

/-- What the entries of a record hold. -/
inductive Storage where
  /-- Any value as it is, under any key but the reserved ones. -/
  | plain
  /-- Values of one representation. -/
  | typed (c : Conversion)
  deriving DecidableEq, Repr

/-- A kind of host object, told apart from others by its label. -/
structure RecordType where
  label : String
  storage : Storage
  deriving DecidableEq, Repr

end ScriptHost
