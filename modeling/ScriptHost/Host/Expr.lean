import ScriptHost.Error
import ScriptHost.Host.Type
import ScriptHost.Script.Program
/-!
# Host code

What the embedding program runs when a script calls it, in first-order form.  An `Expr` is the body
of a host callable, of a method or of a constructor's entry; it can do whatever host code can do with
the bridge: convert its arguments, touch its receiver and other objects, call script functions, drive
the machine directly, fail or panic.
-/

namespace ScriptHost

/-- A value written in host code; a variable stands for what was last saved under its name. -/
inductive Literal where
  | nil
  | bool (b : Bool)
  | int (n : Int64)
  | float (x : Binary64)
  | str (s : String)
  | var (name : String)
  deriving DecidableEq

inductive Expr where
  | literal (value : Literal)
  /-- An argument, nil if there is none. -/
  | arg (index : Nat)
  /-- An argument in a given representation. -/
  | argAs (index : Nat) (c : Conversion)
  | argCount
  | convert (e : Expr) (c : Conversion)
  | coerce (e : Expr) (type : HostType)
  | isOf (e : Expr) (type : HostType)
  /-- The receiver, where the body is handed the object itself. -/
  | this
  | get (key : String)
  | put (key : String) (e : Expr)
  /-- An entry of another object, which is borrowed for it. -/
  | peek (e : Expr) (type : RecordType) (key : String)
  | poke (e : Expr) (type : RecordType) (key : String) (value : Expr)
  | isRecord (e : Expr) (type : RecordType)
  /-- Evaluates a body while an object is borrowed. -/
  | hold (isExclusive : Bool) (e : Expr) (type : RecordType) (body : Expr)
  | call (function : Expr) (args : List Expr)
  | callAs (function : Expr) (c : Conversion) (args : List Expr)
  | dispose (function : Expr)
  | isDisposed (function : Expr)
  /-- Calls a host callable directly. -/
  | invoke (callable : Expr) (args : List Expr)
  | callable (name : String) (returnsValue : Bool) (body : Expr)
  /-- A new object; where its type is not forwarded, a strict form fails and the other gives nil. -/
  | wrap (isStrict : Bool) (type : RecordType) (entries : List (String × Expr))
  /-- Panics, with text or with something that is no text. -/
  | panic (text : Option String)
  | fail (e : BridgeError)
  | machine (ops : List Op)
  | global (name : String)
  /-- Hands text to the script's `print`. -/
  | say (e : Expr)
  | push (e : Expr)
  | readArg (index : Int)
  | resolve (token : Token)
  | liveHandles
  | save (var : String) (e : Expr)
  | add (e₁ e₂ : Expr)
  | cat (es : List Expr)
  | eq (e₁ e₂ : Expr)
  | typeName (e : Expr)
  | inspect (e : Expr)
  | inspectInner (e : Expr)
  | log (e : Expr)
  /-- The text of the error, if there is one. -/
  | attempt (e : Expr)
  | seq (es : List Expr)

end ScriptHost
