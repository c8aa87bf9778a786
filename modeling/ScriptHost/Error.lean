import ScriptHost.Number.Decimal
import ScriptHost.Token
/-!
# Errors

`VmError` is what an operation of the script machine can end with, `BridgeError` what an operation of
the host bridge can.  Constructors are causes; `message` is the one place where they are worded.

An error that leaves a native function becomes plain text (`scriptMessage`), and the machine wraps
that text as a runtime error again.  A runtime error therefore gives up its bare text, so that the
wording stays the same however many calls it passes through.
-/

namespace ScriptHost

inductive VmError where
  | runtime (text : String)
  /-- Source text that cannot be loaded. -/
  | badChunk (chunk text : String)
  | stackOverflow
  | invalidIndex (index : Int)
  | typeError (text : String)
  | closed
  deriving DecidableEq, Repr

namespace VmError

def message : VmError → String
  | runtime text => "Runtime error: " ++ text
  | badChunk chunk text => "Syntax error in " ++ chunk ++ ": " ++ text
  | stackOverflow => "Stack overflow"
  | invalidIndex index => "Invalid stack index: " ++ intText index
  | typeError text => "Type error: " ++ text
  | closed => "VM is closed"

/-- The text a script sees when this error leaves a native function. -/
def scriptMessage : VmError → String
  | runtime text => text
  | e => e.message

end VmError

inductive BridgeError where
  | noMatchingOverload (member : String) (argCount : Nat)
  | readOnlyMemberWrite (member : String)
  | unresolvedHandle (token : Token)
  | nullMemberAccess (text : String)
  | constructionFailure (typeName : String) (argCount : Nat)
  | typeMismatch (expected got : String)
  | disposedFunction
  | borrowConflict (typeName : String)
  | unforwardedType (typeName : String)
  | duplicateForward (typeName : String)
  | hostPanic (text : String)
  | handleLimit (limit : Nat)
  | vm (e : VmError)
  deriving DecidableEq, Repr

namespace BridgeError

def message : BridgeError → String
  | noMatchingOverload member n =>
    "No matching overload for '" ++ member ++ "' with " ++ natText n ++ " argument(s)"
  | readOnlyMemberWrite member => "Member '" ++ member ++ "' is read-only"
  | unresolvedHandle t =>
    "Unresolved handle 0x" ++ hexText t.id ++ " (tag " ++ natText t.tag.toNat ++ ")"
  | nullMemberAccess text => "Null member access: " ++ text
  | constructionFailure typeName n =>
    "No constructor of '" ++ typeName ++ "' takes " ++ natText n ++ " argument(s)"
  | typeMismatch expected got => "Type mismatch: expected " ++ expected ++ ", got " ++ got
  | disposedFunction => "Script function has been disposed"
  | borrowConflict typeName => "Host object of type '" ++ typeName ++ "' is already in use"
  | unforwardedType typeName => "Type '" ++ typeName ++ "' has not been forwarded"
  | duplicateForward typeName => "Type '" ++ typeName ++ "' is already forwarded"
  | hostPanic text => "Host function panicked: " ++ text
  | handleLimit limit => "Handle limit of " ++ natText limit ++ " reached"
  | vm e => e.message

/-- The text a script sees when this error leaves a native function. -/
def scriptMessage : BridgeError → String
  | vm e => e.scriptMessage
  | e => e.message

def kind : BridgeError → String
  | noMatchingOverload .. => "NoMatchingOverload"
  | readOnlyMemberWrite .. => "ReadOnlyMemberWrite"
  | unresolvedHandle .. => "UnresolvedHandle"
  | nullMemberAccess .. => "NullMemberAccess"
  | constructionFailure .. => "ConstructionFailure"
  | typeMismatch .. => "TypeMismatch"
  | disposedFunction => "DisposedFunction"
  | borrowConflict .. => "BorrowConflict"
  | unforwardedType .. => "UnforwardedType"
  | duplicateForward .. => "DuplicateForward"
  | hostPanic .. => "HostPanic"
  | handleLimit .. => "HandleLimit"
  | vm (.runtime ..) => "Vm.Runtime"
  | vm (.badChunk ..) => "Vm.Syntax"
  | vm .stackOverflow => "Vm.StackOverflow"
  | vm (.invalidIndex ..) => "Vm.InvalidIndex"
  | vm (.typeError ..) => "Vm.TypeError"
  | vm .closed => "Vm.Closed"

end BridgeError

/-- How host code can end other than with a value.  A panic is not an error: host code cannot catch it,
    only the boundary to the machine turns it into one. -/
inductive Raised where
  | error (e : BridgeError)
  /-- A panic, with its text if what was thrown is text. -/
  | panic (text : Option String)
  deriving DecidableEq, Repr

namespace Raised

/-- What the boundary to the machine makes of it. -/
def caught : Raised → BridgeError
  | error e => e
  | panic text => .hostPanic (text.getD "Unknown panic")

end Raised

end ScriptHost
