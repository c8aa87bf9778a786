import ScriptHost.Host.Coercion
/-!
# Overload selection

Of several parameter lists the first that accepts the arguments is taken: it has as many parameters as
there are arguments, and every argument can be coerced to its parameter.  If none accepts them and the
last argument is nil, the search is repeated without that nil.
-/

namespace ScriptHost

/-- A chosen candidate, and the arguments coerced for it. -/
structure Selection where
  index : Nat
  args : List HostValue

namespace Selection

/-- Every argument coerced to its parameter, if the list accepts them. -/
def coerceAll? : List HostType → List HostValue → Option (List HostValue)
  | [], [] => some []
  | t :: params, v :: args => do
    let v' ← v.coerce? t
    let args' ← coerceAll? params args
    return v' :: args'
  | _, _ => none

/-- The first candidate, counted from `index`, that accepts the arguments. -/
def firstMatch? (args : List HostValue) (index : Nat) : List (List HostType) → Option Selection
  | [] => none
  | params :: rest =>
    match coerceAll? params args with
    | some args' => some ⟨index, args'⟩
    | none => firstMatch? args (index + 1) rest

/-- The arguments without a trailing nil, if there is one. -/
def dropTrailingNil? (args : List HostValue) : Option (List HostValue) :=
  match args.getLast? with
  | some .nil => some args.dropLast
  | _ => none

/-- The candidate that a call of the named member runs. -/
def select (member : String) (candidates : List (List HostType)) (args : List HostValue) :
    Except BridgeError Selection :=
  let failure := BridgeError.noMatchingOverload member args.length
  match firstMatch? args 0 candidates with
  | some s => .ok s
  | none =>
    match (dropTrailingNil? args).bind fun rest => firstMatch? rest 0 candidates with
    | some s => .ok s
    | none => .error failure

end Selection

end ScriptHost
