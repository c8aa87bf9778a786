import ScriptHost.Bridge.Handles
import ScriptHost.Host.Directory
/-!
# Session state

What a session knows beside its machine: the handles it has issued, the types registered with it, the
proxy table pinned for each handle, the surfaces it has published and the chunk that waits to be run.
-/

namespace ScriptHost

/-- What happens when a type is registered a second time. -/
inductive DuplicatePolicy where
  | replace
  | reject
  deriving DecidableEq, Repr

structure SessionOptions where
  installPrint : Bool := true
  onDuplicate : DuplicatePolicy := .replace
  maxHandles : Option Nat := none

structure Session where
  options : SessionOptions
  handles : HandleStore
  types : TypeDirectory
  /-- How many script functions have been taken in and not disposed. -/
  liveFunctions : Nat
  /-- The reference that pins the proxy table of each handle. -/
  proxies : NumberedDict Token Nat
  /-- The surface published for each type. -/
  surfaces : Dict RecordType Surface
  /-- The reference of the loaded chunk. -/
  chunk : Option Nat
  isTornDown : Bool

namespace Session

def start (options : SessionOptions) : Session :=
  { options, handles := .empty options.maxHandles, types := .empty, liveFunctions := 0,
    proxies := .empty, surfaces := .empty, chunk := none, isTornDown := false }

instance : Inhabited Session := ⟨start {}⟩

def resolve (s : Session) (t : Token) : Except BridgeError HostValue :=
  (s.handles.resolve t).map HandleEntry.toValue

end Session

end ScriptHost
