import ScriptHost.Host.Value
import ScriptHost.Text.Blank
/-!
# Coercion

A value is handed to a parameter of a declared type either unchanged, if it matches the type, is nil,
or the type is no primitive, or converted between numbers and text.  A double becomes the nearest
integer, ties to even; text is read without its surrounding blanks; numbers are written in decimal.
-/

namespace ScriptHost

def HostType.matches : HostType → HostValue → Bool
  | .any, _ => true
  | .bool, .bool _ => true
  | .int, .int _ => true
  | .float, .float _ => true
  | .string, .str _ => true
  | .object name, .object o => o.typeName = name
  | .function, .function _ => true
  | .function, .callable _ => true
  | _, _ => false

namespace HostValue

def toPrimitive? (v : HostValue) (t : HostType) : Option HostValue :=
  match t, v with
  | .int, .float x => x.roundToInt64?.map .int
  | .int, .str s => ((readInteger? (trimBlanks s.toList)).bind int64?).map .int
  | .float, .int n => some (.float (.ofInt n.toInt))
  | .float, .str s => (readFloat? (trimBlanks s.toList)).map .float
  | .string, .int n => some (.str (intText n.toInt))
  | .string, .float x => some (.str x.format)
  | _, _ => none

/-- The value as it is handed to a parameter of the declared type. -/
def coerce? (v : HostValue) (t : HostType) : Option HostValue :=
  if t.matches v || !t.isPrimitive || v.isNil then some v else v.toPrimitive? t

end HostValue

end ScriptHost
