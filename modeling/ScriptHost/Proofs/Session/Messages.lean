import ScriptHost.Proofs.Discipline.Evaluator
import ScriptHost.Proofs.Machine.Calls
/-!
# Messages of errors

An error that code raises inside a call may pass through any number of levels: functions that call
others, metamethods, host callables that call script functions.  On its way it is turned from one kind
of error into another, and wrapped as a runtime error by each call.  A script sees the same text of it
at every level (`Layer.text`).

`Raises` says that an action fails with an error that was raised in the code it runs and passed on ever
since.  It follows the structure of actions; the levels that code is made of are lemmas about it.
-/

namespace ScriptHost

open World Machine

/-! ## Layers -/

/-- Where an error is raised or passed on. -/
inductive Layer where
  | machine
  | host
  | native

namespace Layer

@[reducible] def Error : Layer → Type
  | machine => VmError
  | host => Raised
  | native => String

/-- The text that a script sees of an error. -/
def text : (l : Layer) → l.Error → String
  | machine, e => e.scriptMessage
  | host, r => r.caught.scriptMessage
  | native, text => text

end Layer

/-! ## Raising and passing on -/

/-- The action fails from a world on, for an error that is raised in the code that it runs, and that
    nobody handles. -/
inductive Raises {origin : Layer} (e : origin.Error) :
    (l : Layer) → {α : Type} → Action World l.Error α → World → Prop where
  | here {α : Type} {w : World} : Raises e origin (Action.fail e : Action World origin.Error α) w
  | first {l : Layer} {α β : Type} {x : Action World l.Error α} {f : α → Action World l.Error β}
      {w : World} : Raises e l x w → Raises e l (x >>= f) w
  | later {l : Layer} {α β : Type} {x : Action World l.Error α} {f : α → Action World l.Error β}
      {w w₁ : World} {a : α} : x.run w = (.value a, w₁) → Raises e l (f a) w₁ → Raises e l (x >>= f) w
  /-- The error is caught, and raised again after some work. -/
  | again {l : Layer} {α β : Type} {x : Action World l.Error α}
      {f : Except l.Error α → Action World l.Error β} {w : World} : Raises e l x w →
      (∀ e' w₁, x.run w = (.failure e', w₁) → ∃ w₂, (f (.error e')).run w₁ = (.failure e', w₂)) →
      Raises e l (Action.attempt x >>= f) w
  /-- Host code uses the machine. -/
  | inHost {α : Type} {x : Vm α} {w : World} : Raises e .machine x w → Raises e .host x.inHost w
  /-- A native function uses the machine. -/
  | inNative {α : Type} {x : Vm α} {w : World} : Raises e .machine x w → Raises e .native x.inNative w
  /-- A native function runs host code. -/
  | boundary {α : Type} {x : Bridge α} {w : World} : Raises e .host x w → Raises e .native x.inNative w
  /-- The machine calls a native function. -/
  | call {c : Caller} {argCount resultCount : Int} {isProtected : Bool} {w : World} {slot : Nat}
      {code : NativeCode} : w.machine.callee argCount = .ready slot code →
      Raises e .native (c.run code) (Vm.entered w slot) →
      Raises e .machine (Vm.call c argCount resultCount isProtected) w

namespace Raises

variable {origin l : Layer} {e : origin.Error}

/-- The error that an action passes on has the text of the one that was raised, by induction on the way
    that it takes. -/
theorem fails {α : Type} {x : Action World l.Error α} {w : World} (raised : Raises e l x w) :
    ∃ e' w', x.run w = (.failure e', w') ∧ l.text e' = origin.text e := by
  induction raised with
  | here => exact ⟨e, _, rfl, rfl⟩
  | first _ ih =>
    obtain ⟨e', w', ran, same⟩ := ih
    exact ⟨e', w', by rw [Action.run_bind, ran], same⟩
  | later ran₁ _ ih =>
    obtain ⟨e', w', ran, same⟩ := ih
    exact ⟨e', w', by rw [Action.run_bind, ran₁]; exact ran, same⟩
  | again _ reraised ih =>
    obtain ⟨e', w₁, ran, same⟩ := ih
    obtain ⟨w₂, ran₂⟩ := reraised e' w₁ ran
    exact ⟨e', w₂, by rw [Action.run_bind, Action.run_attempt, ran]; exact ran₂, same⟩
  | inHost _ ih =>
    obtain ⟨e', w', ran, same⟩ := ih
    exact ⟨.error (.vm e'), w', by rw [Vm.inHost, Action.run_mapFailure, ran], same⟩
  | inNative _ ih =>
    obtain ⟨e', w', ran, same⟩ := ih
    exact ⟨e'.scriptMessage, w', by rw [Vm.inNative, Action.run_mapFailure, ran], same⟩
  | boundary _ ih =>
    obtain ⟨e', w', ran, same⟩ := ih
    exact ⟨e'.caught.scriptMessage, w', by rw [Bridge.inNative, Action.run_mapFailure, ran], same⟩
  -- A protected call fails with the same error; it only leaves something else on the stack.
  | @call c argCount resultCount isProtected w slot code called _ ih =>
    obtain ⟨text, w₁, ran, same⟩ := ih
    have run_eq := Vm.run_call c argCount resultCount isProtected w
    simp only [called, Vm.run_runFrame, ran] at run_eq
    exact ⟨.runtime text, _, run_eq, same⟩

/-! ### Levels of scripts -/

section Scripts

variable {c : Caller} {w w₁ : World}

/-- A metamethod is called, and fails. -/
theorem callValue {name : String} {code : NativeCode} {args : List Value} {resultCount : Nat}
    (whole : w.machine.base ≤ w.machine.height) (isOpen : w.machine.isClosed = false)
    (room : w.machine.depth < w.machine.maxDepth)
    (raised : Raises e .native (c.run code) (Vm.started w (.function name code) args)) :
    Raises e .machine (Vm.callValue c (.function name code) args resultCount) w := by
  refine later rfl (later rfl (again ?_ fun e' w₁ _ => ⟨_, rfl⟩))
  exact call (w := Vm.prepared w (.function name code) args) (Vm.callee_prepared whole isOpen room) raised

theorem runOp {op : Op} {isQuiet : Bool} (direct : ∀ inner, op ≠ .attempt inner)
    (unwatched : (c.before op).run w = (.value (), w)) (raised : Raises e .machine (op.perform c) w) :
    Raises e .machine (op.run c isQuiet) w := by
  rw [Op.run_eq direct, bind_assoc]
  refine later unwatched (again raised fun e' w₁ _ => ?_)
  -- What failed is reported first, unless the function is quiet.
  cases isQuiet <;> exact ⟨_, rfl⟩

theorem runAll {before rest : List Op} {isQuiet : Bool}
    (ran : (Op.runAll c isQuiet before).run w = (.value (), w₁))
    (raised : Raises e .machine (Op.runAll c isQuiet rest) w₁) :
    Raises e .machine (Op.runAll c isQuiet (before ++ rest)) w := by
  induction before generalizing w with
  | nil =>
    cases ran
    exact raised
  | cons op before ih =>
    rw [Op.runAll, Action.run_bind] at ran
    rcases first : (op.run c isQuiet).run w with ⟨_ | _ | _, w₂⟩ <;> rw [first] at ran
    · exact later first (ih ran)
    · cases ran
    · cases ran

/-- An operation of a function body fails, after others that did not. -/
theorem program {before after : List Op} {op : Op} {results : Option Nat} {failure : Option String}
    {isQuiet : Bool} (direct : ∀ inner, op ≠ .attempt inner)
    (ran : (Op.runAll c isQuiet before).run w = (.value (), w₁))
    (unwatched : (c.before op).run w₁ = (.value (), w₁)) (raised : Raises e .machine (op.perform c) w₁) :
    Raises e .native (NativeCode.run c (.program (.mk (before ++ op :: after) results failure isQuiet))) w :=
  first (inNative (runAll ran (first (runOp direct unwatched raised))))

/-- A function body calls a function that fails, protected or not. -/
theorem perform_call {argCount resultCount : Int} {slot : Nat} {code : NativeCode}
    (called : w.machine.callee argCount = .ready slot code)
    (raised : Raises e .native (c.run code) (Vm.entered w slot)) :
    Raises e .machine ((Op.call argCount resultCount).perform c) w :=
  first (call called raised)

section Metamethods

variable {address : Nat} {key : String} {name : String} {code : NativeCode} {links : Nat}

variable (whole : w.machine.base ≤ w.machine.height) (isOpen : w.machine.isClosed = false)
  (room : w.machine.depth < w.machine.maxDepth)

include whole isOpen room

/-- A key is read by a metamethod that fails. -/
theorem index_function (absent : ((w.machine.table address).get (utf8Encode key)).isNil = true)
    (handler : w.machine.metamethod address "__index" = .function name code)
    (raised : Raises e .native (c.run code)
      (Vm.started w (.function name code) [.table address, .string (utf8Encode key)])) :
    Raises e .machine (Vm.index c key (links + 1) (.table address)) w := by
  refine later rfl ?_
  simp only [absent]
  refine later rfl ?_
  simp only [handler]
  exact first (callValue whole isOpen room raised)

/-- A key is assigned by a metamethod that fails. -/
theorem newIndex_function {v : Value} (handler : w.machine.newIndexHandler address key = .function name code)
    (raised : Raises e .native (c.run code)
      (Vm.started w (.function name code) [.table address, .string (utf8Encode key), v])) :
    Raises e .machine (Vm.newIndex c key v (links + 1) (.table address)) w := by
  refine later rfl ?_
  simp only [handler]
  exact first (callValue whole isOpen room raised)

end Metamethods

section Chains

variable {address : Nat} {key : String} {next links : Nat}

/-- A key is looked up in another table. -/
theorem index_table (absent : ((w.machine.table address).get (utf8Encode key)).isNil = true)
    (handler : w.machine.metamethod address "__index" = .table next)
    (raised : Raises e .machine (Vm.index c key links (.table next)) w) :
    Raises e .machine (Vm.index c key (links + 1) (.table address)) w := by
  refine later rfl ?_
  simp only [absent]
  refine later rfl ?_
  simp only [handler]
  exact raised

/-- A key is assigned in another table. -/
theorem newIndex_table {v : Value} (handler : w.machine.newIndexHandler address key = .table next)
    (raised : Raises e .machine (Vm.newIndex c key v links (.table next)) w) :
    Raises e .machine (Vm.newIndex c key v (links + 1) (.table address)) w := by
  refine later rfl ?_
  simp only [handler]
  exact raised

end Chains

/-- A function body reads a field. -/
theorem getField {i : Int} {key : String} (isOpen : w.machine.isClosed = false)
    (raised : Raises e .machine (Vm.index c key Vm.maxChain (w.machine.valueAt i)) w) :
    Raises e .machine (Vm.getField c i key) w := by
  refine later rfl ?_
  simp only [checkOpen, isOpen]
  exact later rfl (later rfl (first raised))

/-- A function body assigns a field. -/
theorem setField {i : Int} {key : String} (isOpen : w.machine.isClosed = false)
    (raised : Raises e .machine
      (Vm.newIndex c key w.machine.popValue.1 Vm.maxChain (w.machine.valueAt i))
      { w with machine := w.machine.popValue.2 }) :
    Raises e .machine (Vm.setField c i key) w := by
  refine later rfl ?_
  simp only [checkOpen, isOpen]
  exact later rfl (later rfl (later rfl raised))

end Scripts

/-! ### Levels of the host -/

section Hosts

variable {c : Caller} {w w₁ : World}

/-- Host code calls a script function that fails. -/
theorem callFunction {number reference slot : Nat} {args : List HostValue} {code : NativeCode}
    (held : w.host.functionReference? number = some reference)
    (pushed : (Bridge.pushAll w.machine.top args).run
      { w with machine := (w.machine.pushReference reference).2 } = (.value (), w₁))
    (called : w₁.machine.callee args.length = .ready slot code)
    (raised : Raises e .native (c.run code) (Vm.entered w₁ slot)) :
    Raises e .host (Bridge.callFunction c number args) w := by
  have found : (Bridge.functionReference number).run w = (.value reference, w) := by
    simp only [Bridge.functionReference, Action.run_bind, run_askHost, held]
    rfl
  exact later found (later rfl (later rfl (later pushed (first (inHost (call called raised))))))

/-- A script calls a host callable, the body of which fails. -/
theorem hostHook {f : HostFunction} {args : List HostValue}
    (taken : (Bridge.readArgs 1).run w = (.value args, w₁))
    (raised : Raises e .host (f.body.eval c ⟨args, .none⟩) w₁) :
    Raises e .native (NativeCode.run c (.host f)) w :=
  boundary (later taken (first (first raised)))

/-- A script calls a member of an object or a surface, which fails. -/
theorem memberHook {t : Token} {name : String} {args : List HostValue} {target : Target} {w₂ : World}
    (taken : (Bridge.readArgs (if w.machine.handleOf? 1 = some t then 2 else 1)).run w = (.value args, w₁))
    (resolved : (Target.resolve t).run w₁ = (.value target, w₂))
    (raised : Raises e .host (target.invokeMember c name args) w₂) :
    Raises e .native (NativeCode.run c (.callMember t name)) w := by
  refine boundary (later rfl (later ?_ (later resolved (first raised))))
  simpa using taken

/-- Code fails that runs while a record is borrowed. -/
theorem holding {α : Type} {x : Bridge α} {isExclusive : Bool} {o : HostObject} {borrow : Borrow}
    (admitted : (w.host.record o.record).borrow.admit? isExclusive = some borrow)
    (raised : Raises e .host x { w with
      host := w.host.setRecord o.record { w.host.record o.record with borrow } }) :
    Raises e .host (Bridge.holding isExclusive o x) w := by
  refine later rfl ?_
  simp only [admitted]
  exact later rfl (again raised fun e' w₁ _ => ⟨_, rfl⟩)

end Hosts

end Raises

/-! ## Protected calls -/

/-- Whatever error is raised in a call, by the machine, by host code or by a function itself, and however
    many levels pass it on, the protected call fails with a runtime error that has the text of the error
    itself: the bare text of a runtime error, and the message of any other. -/
theorem protected_call_keeps_message {origin : Layer} (e : origin.Error) {c : Caller}
    {argCount : Int} {w : World} {slot : Nat} {code : NativeCode}
    (called : w.machine.callee argCount = .ready slot code)
    (raised : Raises e .native (c.run code) (Vm.entered w slot)) (resultCount : Int) :
    ∃ w', (Vm.call c argCount resultCount true).run w = (.failure (.runtime (origin.text e)), w') := by
  obtain ⟨text, w₁, ran, same⟩ := raised.fails
  have run_eq := Vm.run_call c argCount resultCount true w
  simp only [called, Vm.run_runFrame, ran] at run_eq
  rw [← same]
  exact ⟨_, run_eq⟩

/-! A panic in a metamethod, below a script function that a host callable calls for another one. -/

/-- A host callable that panics. -/
def panicking : HostFunction := ⟨0, "boom", false, .panic "lost"⟩

/-- A host callable that calls the script function it is given. -/
def relaying : HostFunction := ⟨1, "relay", true, .call (.arg 0) []⟩

/-- Makes a table of which the metamethod for reading is the panicking callable. -/
def trapOps : List Op :=
  [.newTable, .newTable, .getGlobal "boom", .rawSet (-2) "__index", .setMeta (-2)]

/-- A function that reads a key of such a table. -/
def readingBody : Program := .mk (trapOps ++ [.getField (-1) "x"]) none none true

def handOps : List Op := [.getGlobal "relay", .pushFunction "read" readingBody]

/-- A function that hands the reading one to the relaying callable. -/
def handingBody : Program := .mk (handOps ++ [.call 1 0]) none none true

/-- The handing function is about to be called. -/
def handingWorld : World :=
  { machine := ((((Machine.start 8).push (.function "boom" (.host panicking))).setGlobal "boom").push
      (.function "relay" (.host relaying))).setGlobal "relay" |>.push
        (.function "hand" (.program handingBody))
    session := .start {}, host := .empty, events := #[] }

/-- The relaying callable is about to be called. -/
def handedWorld : World := ((Op.runAll (callerAt 3) true handOps).run (Vm.entered handingWorld 0)).2

/-- It has taken in the function. -/
def takenWorld : World := ((Bridge.readArgs 1).run (Vm.entered handedWorld 1)).2

/-- The function is about to be called by it. -/
def relayedWorld : World := { takenWorld with machine := (takenWorld.machine.pushReference 0).2 }

/-- The table is about to be read. -/
def trappedWorld : World := ((Op.runAll (callerAt 1) true trapOps).run (Vm.entered relayedWorld 3)).2

theorem run_callerAt (depth : Nat) (code : NativeCode) :
    (callerAt (depth + 1)).run code = NativeCode.run (callerAt depth) code := rfl

/-- The message is that of the panic itself. -/
theorem protected_call_keeps_message_of_panic :
    ∃ w', (Vm.call (callerAt 4) 0 0 true).run handingWorld =
      (.failure (.runtime "Host function panicked: lost"), w') := by
  let lost : Layer.host.Error := .panic (some "lost")
  have text : Layer.host.text lost = "Host function panicked: lost" := by decide +kernel
  -- From the inside out: the panic, the table that is read, the script that reads it, the host function
  -- that calls the script, and the script that was handed that function.
  have metamethod : Raises lost .native ((callerAt 1).run (.host panicking))
      (Vm.started trappedWorld (.function "boom" (.host panicking))
        [.table 0, .string (utf8Encode "x")]) := by
    rw [run_callerAt]
    exact .hostHook rfl .here
  have read : Raises lost .machine (Op.perform (callerAt 1) (.getField (-1) "x")) trappedWorld := by
    apply Raises.first
    apply Raises.getField rfl
    exact .index_function (by decide) rfl (by decide) rfl rfl metamethod
  have reading : Raises lost .native ((callerAt 2).run (.program readingBody))
      (Vm.entered relayedWorld 3) := by
    have trapped : (Op.runAll (callerAt 1) true trapOps).run (Vm.entered relayedWorld 3) =
        (.value (), trappedWorld) := rfl
    rw [run_callerAt]
    exact .program (by simp) trapped rfl read
  have called : Raises lost .host (Bridge.callFunction (callerAt 2) 0 []) takenWorld := by
    have pushed : (Bridge.pushAll takenWorld.machine.top []).run relayedWorld =
        (.value (), relayedWorld) := rfl
    have found : relayedWorld.machine.callee ([] : List HostValue).length =
        .ready 3 (.program readingBody) := rfl
    exact .callFunction rfl pushed found reading
  have relayed : Raises lost .native ((callerAt 3).run (.host relaying)) (Vm.entered handedWorld 1) := by
    have taken : (Bridge.readArgs 1).run (Vm.entered handedWorld 1) =
        (.value [.function 0], takenWorld) := rfl
    rw [run_callerAt]
    exact .hostHook taken (.later rfl (.later rfl called))
  have handing : Raises lost .native ((callerAt 4).run (.program handingBody))
      (Vm.entered handingWorld 0) := by
    have handed : (Op.runAll (callerAt 3) true handOps).run (Vm.entered handingWorld 0) =
        (.value (), handedWorld) := rfl
    have found : handedWorld.machine.callee 1 = .ready 1 (.host relaying) := rfl
    rw [run_callerAt]
    exact .program (by simp) handed rfl (.perform_call found relayed)
  rw [← text]
  exact protected_call_keeps_message lost rfl handing 0

end ScriptHost
