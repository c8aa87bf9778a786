import ScriptHost.Host.Store
import ScriptHost.Session.State
import ScriptHost.Script.Machine
import ScriptHost.Text.Quoted
/-!
# Inspection texts

How values, descriptors, surfaces, machines and sessions are shown to someone who debugs the host.
-/

namespace ScriptHost

def Token.inspect (t : Token) : String :=
  braced "HandleToken" [("id", natText t.id), ("tag", natText t.tag.toNat)] false

def HostValue.inspect : HostValue → String
  | .nil => "Nil"
  | .bool b => "Bool(" ++ boolText b ++ ")"
  | .int n => "Int(" ++ intText n.toInt ++ ")"
  | .float x => "Float(" ++ x.text ++ ")"
  | .str s => "Str(" ++ quoted s ++ ")"
  | .object o => "Object(" ++ o.typeName ++ ")"
  | .surface s => "Surface(" ++ s.typeName ++ ")"
  | .function _ => "Function"
  | .callable f => "Callable(" ++ f.name ++ ")"

/-- A surface, with the token it is published under. -/
def Surface.inspect (s : Surface) (token : Option Token) : String :=
  braced "StaticSurface"
    [("type_name", quoted s.typeName), ("members", bracketed (s.memberNames.map quoted)),
     ("token", optionText (token.map Token.inspect))] false

/-- What a value holds, where that has an inspection text of its own. -/
def HostValue.inspectInner (v : HostValue) (h : HostStore) : String :=
  match v with
  | .object o => braced "HostObject" [("type", quoted o.typeName)] true
  | .surface s => s.inspect (h.publishedToken s)
  | .function number =>
    let reference := (h.functionReference? number).map fun r => "RefId(" ++ natText r ++ ")"
    braced "ScriptFunction" [("reference", optionText reference)] false
  | .callable f =>
    braced "HostFunction"
      [("name", quoted f.name), ("returns_value", boolText f.returnsValue)] true
  | v => v.inspect

def TypeDescriptor.inspect (d : TypeDescriptor) : String :=
  let sorted (names : List String) := bracketed ((names.mergeSort (· ≤ ·)).map quoted)
  braced "TypeDescriptor"
    [("name", quoted d.name), ("tag", natText d.tag.toNat), ("fields", sorted d.fields.keys),
     ("methods", sorted d.methods.keys), ("constructors", natText d.constructors.length),
     ("dictionary", boolText d.isDictionary)] true

def Value.inspect : Value → String
  | .nil => "nil"
  | .boolean b => boolText b
  | .number x => x.format
  | .string bytes => quoted (utf8DecodeLossy bytes)
  | .light t => "userdata(0x" ++ hexText t.id ++ ", tag=" ++ natText t.tag.toNat ++ ")"
  | .table _ => "table"
  | .function name _ => "function: " ++ name

def Machine.inspect (m : Machine) : String :=
  braced "MemoryVm"
    [("stack", natText m.height), ("frames", natText m.depth),
     ("references", natText m.referenceCount), ("closed", boolText m.isClosed)] false

def SessionOptions.inspect (o : SessionOptions) : String :=
  braced "SessionOptions"
    [("install_print", boolText o.installPrint),
     ("duplicate_forward",
       match o.onDuplicate with
       | .replace => "Replace"
       | .reject => "Reject"),
     ("max_handles", optionText (o.maxHandles.map natText))] true

def Session.inspect (s : Session) : String :=
  braced "Session"
    [("handles_live", natText s.handles.size), ("surfaces", natText s.surfaces.size),
     ("torn_down", boolText s.isTornDown)] true

end ScriptHost
