import ScriptHost.Proofs.Members.Arguments
import ScriptHost.Proofs.Members.Writes
import ScriptHost.Proofs.Session.Crossing
/-!
# Who receives the values of a request

A script hands values to the host in three ways: it writes a member through a proxy, it calls a member
bound to a target, or it calls a callable.  Each of them takes the values in, decides on a `Recipient`,
and then has that receive the values (`NativeCode.run_request`).  Up to the decision nothing of the host
has seen the values, and the request can still be rejected.

A script function is pinned when it is taken in, and stays pinned until the host disposes it.  A rejected
request disposes none: `rejected_request_pins` says how many references and functions it leaves behind.
It speaks of all worlds on a path from a new session; those in which a run of commands ends, or is
stopped, are among them (`World.Reaches.path`).
-/

namespace ScriptHost

open World Machine

/-! ## Recipients -/

/-- What receives the values of a request. -/
inductive Recipient where
  | setter (s : Setter)
  | method (o : HostObject) (m : Method) (args : List HostValue)
  | staticMethod (m : StaticMethod) (args : List HostValue)
  | constructor (d : TypeDescriptor) (k : Constructor) (args : List HostValue)
  | callable (f : HostFunction) (args : List HostValue)

namespace Recipient

/-- Has the recipient receive the values, and gives the number of results. -/
def receive (c : Caller) : Recipient → Bridge Nat
  | setter s => do
    let _ ← onHost s.apply
    return 0
  | method o m args => do
    let v ← o.runMethod c m args
    Bridge.pushResult (if m.signature.returnsValue then some v else none)
  | staticMethod m args => do
    let v ← m.body.eval c ⟨args, .none⟩
    Bridge.pushResult (if m.signature.returnsValue then some v else none)
  | constructor d k args => do
    let r ← Expr.evalEntries c ⟨args, .none⟩ (.blank d.type) k.entries
    let record ← onHost (·.newRecord r)
    Bridge.pushResult (some (.object ⟨record, d⟩))
  | callable f args => do Bridge.pushResult (← f.invoke c args)

/-- Without a recipient there are no results. -/
def receive? (c : Caller) : Option Recipient → Bridge Nat
  | some r => r.receive c
  | none => pure 0

end Recipient

/-! ## Decisions -/

/-- The method that a call of a member runs.  Unless it is reentrant, its receiver must be free. -/
def HostObject.recipient (o : HostObject) (name : String) (args : List HostValue) (h : HostStore) :
    Except BridgeError Recipient :=
  match o.descriptor.methods.get? name with
  | none => .error (.noMatchingOverload name args.length)
  | some overloads => do
    let chosen ← Selection.select name (overloads.map (·.signature.params)) args
    match overloads[chosen.index]? with
    | none => .error (.noMatchingOverload name args.length)
    | some m =>
      if m.isReentrant then return .method o m chosen.args
      else do
        h.checkClaim o
        return .method o m chosen.args

/-- The constructor that makes an instance. -/
def TypeDescriptor.recipient (d : TypeDescriptor) (args : List HostValue) : Except BridgeError Recipient :=
  if d.arityFits args then do
    let chosen ← Selection.select constructorName (d.constructors.map Constructor.params) args
    match d.constructors[chosen.index]? with
    | none => .error (.noMatchingOverload constructorName args.length)
    | some k => return .constructor d k chosen.args
  else .error (.constructionFailure d.name args.length)

/-- The static method or constructor that a call of a static member runs. -/
def Surface.recipient (s : Surface) (name : String) (args : List HostValue) :
    Except BridgeError Recipient :=
  match s.member name with
  | some (.method overloads) => do
    let chosen ← Selection.select name (overloads.map (·.signature.params)) args
    match overloads[chosen.index]? with
    | none => .error (.noMatchingOverload name args.length)
    | some m => return .staticMethod m chosen.args
  | some .constructor => s.descriptor.recipient args
  | _ => .error (.noMatchingOverload name args.length)

def Target.recipient (name : String) (args : List HostValue) (h : HostStore) :
    Target → Except BridgeError Recipient
  | object o => o.recipient name args h
  | surface s => s.recipient name args

/-! ## A call is its recipient -/

/-- Goes on with what was decided. -/
def Recipient.finish (c : Caller) (w : World) : Except BridgeError Recipient → Outcome Raised Nat × World
  | .ok r => (r.receive c).run w
  | .error e => (.failure (.error e), w)

/-- If what follows on each answer is the recipient decided on there, then it is so for the whole. -/
theorem Recipient.run_decided {α : Type} {c : Caller} {w : World} {x : Except BridgeError α}
    {f : α → Bridge Nat} {g : α → Except BridgeError Recipient}
    (next : ∀ a, (f a).run w = finish c w (g a)) :
    (Bridge.ofExcept x >>= f).run w = finish c w (x >>= g) := by
  cases x with
  | error e => rfl
  | ok a => exact next a

section Calls

variable (c : Caller) (name : String) (args : List HostValue) (w : World)

theorem HostObject.run_method (o : HostObject) (m : Method) :
    (o.runMethod c m args >>= fun v =>
        Bridge.pushResult (if m.signature.returnsValue then some v else none)).run w =
      Recipient.finish c w (if m.isReentrant then return .method o m args
        else do
          w.host.checkClaim o
          return .method o m args) := by
  cases isReentrant : m.isReentrant with
  | true => rfl
  | false =>
    -- The receiver is borrowed for the body, and it is found out then whether it can be.
    cases admitted : (w.host.record o.record).borrow.admit? true with
    | none =>
      have refused : (o.runMethod c m args).run w = (.failure (.error (Bridge.conflict o)), w) := by
        simp [runMethod, isReentrant, Bridge.holding, admitted, Bridge.run_fail]
      rw [Action.run_bind, refused]
      simp only [HostStore.checkClaim, admitted]
      rfl
    | some borrow =>
      simp only [HostStore.checkClaim, admitted]
      rfl

theorem HostObject.run_call (o : HostObject) :
    (o.invokeMember c name args >>= Bridge.pushResult).run w =
      Recipient.finish c w (o.recipient name args w.host) := by
  rw [invokeMember, recipient]
  cases o.descriptor.methods.get? name with
  | none => rfl
  | some overloads =>
    rw [bind_assoc]
    refine Recipient.run_decided fun chosen => ?_
    cases overloads[chosen.index]? with
    | none => rfl
    | some m =>
      simp only [bind_assoc, pure_bind]
      exact o.run_method c chosen.args w m

theorem TypeDescriptor.run_construct (d : TypeDescriptor) :
    (d.construct c args >>= fun v => Bridge.pushResult (some v)).run w =
      Recipient.finish c w (d.recipient args) := by
  rw [construct, recipient]
  split
  case isFalse => rfl
  rw [bind_assoc]
  refine Recipient.run_decided fun chosen => ?_
  cases d.constructors[chosen.index]? with
  | none => rfl
  | some k =>
    simp only [bind_assoc, pure_bind]
    rfl

theorem Surface.run_call (s : Surface) :
    (s.invokeMember c name args >>= Bridge.pushResult).run w =
      Recipient.finish c w (s.recipient name args) := by
  rw [invokeMember, recipient]
  rcases s.member name with _ | (a | a | overloads | _)
  · rfl
  · rfl
  · rfl
  · simp only [StaticMethod.invoke, bind_assoc]
    refine Recipient.run_decided fun chosen => ?_
    cases overloads[chosen.index]? with
    | none => rfl
    | some m =>
      simp only [bind_assoc, pure_bind]
      rfl
  · simp only [bind_assoc, pure_bind]
    exact s.descriptor.run_construct c args w

theorem Target.run_call (target : Target) :
    (target.invokeMember c name args >>= Bridge.pushResult).run w =
      Recipient.finish c w (target.recipient name args w.host) := by
  cases target with
  | object o => exact o.run_call c name args w
  | surface s => exact s.run_call c name args w

end Calls

/-! ## Requests -/

/-- The code takes values of a script and hands them to the host. -/
def NativeCode.IsRequest : NativeCode → Prop
  | .writeMember _ | .callMember .. | .host _ => True
  | _ => False

instance : (code : NativeCode) → Decidable code.IsRequest
  | .writeMember _ | .callMember .. | .host _ => isTrue trivial
  | .program _ | .toText | .typeName | .raise | .print | .readMember _ | .label _ => isFalse id

/-- Takes the values of a request in and decides who receives them; nobody if a write is ignored. -/
def NativeCode.recipient : NativeCode → Bridge (Option Recipient)
  | .writeMember t => do return (← Bridge.hookedSetter t).map Recipient.setter
  | .callMember t name => do
    let isBound ← askMachine fun m => decide (m.handleOf? 1 = some t)
    let args ← Bridge.readArgs (if isBound then 2 else 1)
    let target ← Target.resolve t
    let h ← hostNow
    return some (← Bridge.ofExcept (target.recipient name args h))
  | .host f => do return some (.callable f (← Bridge.readArgs 1))
  | _ => pure none

theorem NativeCode.run_request {code : NativeCode} (isRequest : code.IsRequest) (c : Caller) :
    code.run c = (code.recipient >>= Recipient.receive? c).inNative := by
  cases code with
  | writeMember t =>
    rw [run_writeMember, Bridge.hookedWrite_eq]
    simp only [recipient, bind_assoc, pure_bind]
    refine congrArg Bridge.inNative (congrArg _ (funext fun found => ?_))
    cases found <;> rfl
  | callMember t name =>
    simp only [run, Bridge.memberHook, recipient, bind_assoc, pure_bind]
    refine congrArg Bridge.inNative (congrArg _ (funext fun isBound => congrArg _ (funext fun args =>
      congrArg _ (funext fun target => funext fun w => ?_))))
    have run_eq := target.run_call c name args w
    show (target.invokeMember c name args >>= Bridge.pushResult).run w = _
    rw [run_eq]
    show _ = (Bridge.ofExcept (target.recipient name args w.host) >>= fun r =>
      Recipient.receive? c (some r)).run w
    rw [Action.run_bind, Bridge.run_ofExcept]
    cases target.recipient name args w.host <;> rfl
  | host f =>
    simp only [run, Bridge.hostHook, recipient, bind_assoc, pure_bind, Recipient.receive?, Recipient.receive]
  | _ => exact isRequest.elim

/-! ## What a request takes in -/

/-- The slot for the name of a member holds one. -/
def Machine.namesMember (m : Machine) : Bool :=
  match m.valueAt 2 with
  | .string _ | .number _ => true
  | _ => false

theorem Bridge.run_memberName (w : World) :
    (w.machine.namesMember = true ∧ ∃ name, memberName.run w = (.value name, w)) ∨
    (w.machine.namesMember = false ∧ ∃ e, memberName.run w = (.failure e, w)) := by
  simp only [memberName, namesMember, Action.run_bind, run_askMachine]
  cases w.machine.valueAt 2 with
  | string bytes => exact .inl ⟨rfl, _, rfl⟩
  | number x => exact .inl ⟨rfl, _, rfl⟩
  | _ => exact .inr ⟨rfl, _, rfl⟩

/-- The values of a request, in the order in which they are read. -/
def NativeCode.values (w : World) : NativeCode → List Value
  | .writeMember _ => if w.machine.namesMember then [w.machine.valueAt 3] else []
  | .callMember t _ => w.machine.argumentsFrom (if w.machine.handleOf? 1 = some t then 2 else 1)
  | .host _ => w.machine.argumentsFrom 1
  | _ => []

/-- The action only looks at the world. -/
def Looks {α : Type} (x : Bridge α) : Prop :=
  ∀ w, ∃ outcome, x.run w = (outcome, w) ∧ outcome ≠ .exhausted

namespace Looks

theorem ask {α : Type} (f : World → α) : Looks (Action.gets f) := fun w => ⟨.value (f w), rfl, by simp⟩

theorem ofExcept {α : Type} (r : Except BridgeError α) : Looks (Bridge.ofExcept r) := fun w => by
  rw [Bridge.run_ofExcept]
  cases r with
  | ok a => exact ⟨_, rfl, by simp⟩
  | error e => exact ⟨_, rfl, by simp⟩

theorem seq {α β : Type} {x : Bridge α} {f : α → Bridge β} (first : Looks x)
    (second : ∀ a, Looks (f a)) : Looks (x >>= f) := fun w => by
  obtain ⟨outcome, ran, ended⟩ := first w
  rw [Action.run_bind, ran]
  cases outcome with
  | value a => exact second a w
  | failure e => exact ⟨_, rfl, by simp⟩
  | exhausted => exact absurd rfl ended

theorem pure {α : Type} (a : α) : Looks (Pure.pure a) := ask fun _ => a

theorem resolve (t : Token) : Looks (Target.resolve t) :=
  (ask _).seq fun _ => (ofExcept _).seq fun _ => pure _

end Looks

/-- The action ends, and has taken in so many functions and done nothing else. -/
def World.Takes (w : World) (count : Nat) {α : Type} (x : Bridge α) : Prop :=
  ∃ outcome w', x.run w = (outcome, w') ∧ outcome ≠ .exhausted ∧ w.TakesIn count w'

namespace World.Takes

variable {w : World} {count : Nat} {α β : Type}

theorem of_looks {x : Bridge α} (looks : Looks x) : w.Takes 0 x := by
  obtain ⟨outcome, ran, ended⟩ := looks w
  exact ⟨outcome, w, ran, ended, .refl w⟩

/-- Whatever is decided on the values once they are taken in. -/
theorem seq {x : Bridge α} {f : α → Bridge β} (taken : w.Takes count x)
    (looks : ∀ a, Looks (f a)) : w.Takes count (x >>= f) := by
  obtain ⟨outcome, w₁, ran, ended, taken⟩ := taken
  rw [Takes, Action.run_bind, ran]
  cases outcome with
  | value a =>
    obtain ⟨outcome, ran', ended'⟩ := looks a w₁
    exact ⟨outcome, w₁, ran', ended', taken⟩
  | failure e => exact ⟨_, w₁, rfl, by simp, taken⟩
  | exhausted => exact absurd rfl ended

theorem readArgs {first : Int} (positive : 0 < first) (w : World) :
    w.Takes (w.takenIn (w.machine.argumentsFrom first)) (Bridge.readArgs first) :=
  Bridge.run_readArgs positive w

theorem read {i : Int} (positive : 0 < i) (w : World) :
    w.Takes (w.takenIn [w.machine.valueAt i]) (Bridge.read i) := by
  rcases Bridge.run_read positive w with ⟨readable, v, w', ran, taken⟩ | ⟨unreadable, t, _, ran⟩
  · refine ⟨_, w', ran, by simp, ?_⟩
    rw [takenIn, List.takeWhile_cons_of_pos readable, List.takeWhile_nil, List.countP_singleton]
    exact taken
  · refine ⟨_, w, ran, by simp, ?_⟩
    rw [takenIn, List.takeWhile_cons_of_neg (by simp [unreadable])]
    exact .refl w

theorem hookedSetter (t : Token) (w : World) :
    w.Takes (w.takenIn (NativeCode.values w (.writeMember t))) (Bridge.hookedSetter t) := by
  have rest (name : String) (v : HostValue) : Looks (do
      let target ← Target.resolve t
      let h ← hostNow
      Bridge.ofExcept (target.setter? name v h)) :=
    (Looks.resolve t).seq fun target => (Looks.ask _).seq fun h => Looks.ofExcept _
  rw [Takes, Bridge.hookedSetter, Action.run_bind, NativeCode.values]
  rcases Bridge.run_memberName w with ⟨isNamed, name, ran⟩ | ⟨unnamed, e, ran⟩
  · rw [ran, if_pos isNamed]
    exact (read (by decide) w).seq (rest name)
  · rw [ran, if_neg (by simp [unnamed])]
    exact ⟨_, w, rfl, by simp, .refl w⟩

/-- Until the recipient of a request is found, the functions among its values have been taken in, up to the
    first value that cannot be read. -/
theorem recipient (code : NativeCode) (w : World) : w.Takes (w.takenIn (code.values w)) code.recipient := by
  cases code with
  | writeMember t => exact (hookedSetter t w).seq fun found => Looks.pure _
  | callMember t name =>
    have positive : 0 < (if w.machine.handleOf? 1 = some t then 2 else 1 : Int) := by
      split <;> decide
    rw [NativeCode.recipient, Takes, Action.run_bind, run_askMachine]
    simp only [decide_eq_true_eq]
    exact (readArgs positive w).seq fun args => (Looks.resolve t).seq fun target =>
      (Looks.ask _).seq fun h => (Looks.ofExcept _).seq fun r => Looks.pure _
  | host f => exact (readArgs (by decide) w).seq fun args => Looks.pure _
  | _ => exact of_looks (Looks.pure none)

end World.Takes

/-! ## Rejected requests -/

/-- A request that nobody receives ends, and has taken in what it read. -/
theorem NativeCode.run_rejected {code : NativeCode} (isRequest : code.IsRequest) (c : Caller) {w : World}
    (rejected : ∀ r, (code.recipient.run w).1 ≠ .value (some r)) :
    ∃ outcome w', (code.run c).run w = (outcome, w') ∧ outcome ≠ .exhausted ∧
      w.TakesIn (w.takenIn (code.values w)) w' := by
  obtain ⟨outcome, w', admitted, ended, taken⟩ := World.Takes.recipient code w
  rw [admitted] at rejected
  rw [run_request isRequest, Bridge.inNative, Action.run_mapFailure, Action.run_bind, admitted]
  cases outcome with
  | value found =>
    cases found with
    | some r => exact absurd rfl (rejected r)
    | none => exact ⟨.value 0, w', rfl, by simp, taken⟩
  | failure e => exact ⟨_, w', rfl, by simp, taken⟩
  | exhausted => exact absurd rfl ended

theorem Vm.run_call_ready {c : Caller} {argCount resultCount : Int} {isProtected : Bool} {w : World}
    {slot : Nat} {code : NativeCode} (called : w.machine.callee argCount = .ready slot code) :
    (call c argCount resultCount isProtected).run w =
      (outcomeOf ((c.run code).run (entered w slot)).1,
        { ((c.run code).run (entered w slot)).2 with
          machine := left ((c.run code).run (entered w slot)).2.machine w.machine.depth slot
            resultCount isProtected ((c.run code).run (entered w slot)).1 }) := by
  rw [run_call, called]
  exact run_runFrame c code slot resultCount isProtected w

/-- Wherever the run of a session has got to, a call of a request that nobody receives ends, and leaves
    the references and the functions that are not disposed more by the functions among its values, up to
    the first that cannot be read. -/
theorem rejected_request_pins {m : Machine} {host : HostStore} (fresh : IsFresh m host)
    {options : SessionOptions} {w : World}
    (passed : World.Path (fun _ _ => False) (World.openSession options m host) w) {argCount : Int}
    {slot : Nat} {code : NativeCode} (called : w.machine.callee argCount = .ready slot code)
    (isRequest : code.IsRequest) :
    (∀ c, code.run c = (code.recipient >>= Recipient.receive? c).inNative) ∧
    ((∀ r, (code.recipient.run (Vm.entered w slot)).1 ≠ .value (some r)) →
      ∀ before depth resultCount isProtected, ∃ ended w',
        (Vm.call (watchedCaller before (depth + 1)) argCount resultCount isProtected).run w = (ended, w') ∧
        ended ≠ .exhausted ∧
        let pinned := (Vm.entered w slot).takenIn (code.values (Vm.entered w slot))
        w'.machine.referenceCount = w.machine.referenceCount + pinned ∧
        w'.session.liveFunctions = w.session.liveFunctions + pinned) := by
  refine ⟨fun c => code.run_request isRequest c, fun rejected before depth resultCount isProtected => ?_⟩
  -- Entering a frame touches no reference.
  have tidy : (Vm.entered w slot).machine.HasTidyRegistry :=
    (passed.tidy (fresh.openSession options).backs.tidy).of_eq rfl rfl
  obtain ⟨outcome, w₁, ran, ended, taken⟩ :=
    NativeCode.run_rejected isRequest (watchedCaller before depth) rejected
  have run_eq : (Vm.call (watchedCaller before (depth + 1)) argCount resultCount isProtected).run w =
      (Vm.outcomeOf outcome, { w₁ with
        machine := w₁.machine.left w.machine.depth slot resultCount isProtected outcome }) := by
    rw [Vm.run_call_ready called, watchedCaller, ran]
  refine ⟨_, _, run_eq, ?_, ?_, congrArg Session.liveFunctions taken.session⟩
  · cases outcome with
    | exhausted => exact absurd rfl ended
    | _ => simp [Vm.outcomeOf]
  · rw [left_eq]
    exact taken.references tidy

/-- A script function that does nothing. -/
def idle : Program := .mk [] none none true

/-- A host callable is about to be called with two functions, and between them a token that was never
    issued. -/
def staleArgumentWorld : World :=
  ((Command.runAll (callerAt 1) [.pushFunction "notify" ⟨"notify", false, .literal .nil⟩,
    .machine [.getGlobal "notify", .pushFunction "f" idle, .pushLight ⟨1, 0, 1⟩,
      .pushFunction "g" idle]]).run (World.openSession {} (.start 8) .empty)).2

/-- The first of the functions stays pinned, the second is never read. -/
theorem rejected_request_pins_first_function :
    ∃ ended w', (Vm.call (callerAt 1) 3 0 false).run staleArgumentWorld = (ended, w') ∧
      ended ≠ .exhausted ∧
      w'.machine.referenceCount = staleArgumentWorld.machine.referenceCount + 1 ∧
      w'.session.liveFunctions = staleArgumentWorld.session.liveFunctions + 1 := by
  have fresh : IsFresh (.start 8) .empty := .start 8 fun _ => rfl
  have reached : World.Reaches (fun _ _ => false) (World.openSession {} (.start 8) .empty)
      staleArgumentWorld := ⟨1, _, _, rfl⟩
  have passed := reached.path (fun _ _ => False.elim) (fresh.openSession {}).whole
  have ready : (staleArgumentWorld.machine.callee 3).ready?.any (fun called =>
      decide called.2.IsRequest &&
      (called.2.recipient.run (Vm.entered staleArgumentWorld called.1)).1.failure?.isSome &&
      decide ((Vm.entered staleArgumentWorld called.1).takenIn
        (called.2.values (Vm.entered staleArgumentWorld called.1)) = 1)) = true := by decide +kernel
  generalize staleArgumentWorld = w at passed ready ⊢
  obtain ⟨called, found, ready⟩ := (Option.any_eq_true _ _).1 ready
  simp only [Bool.and_eq_true, decide_eq_true_eq] at ready
  obtain ⟨⟨isRequest, failed⟩, taken⟩ := ready
  obtain ⟨ended, w', ran, notExhausted, references, functions⟩ :=
    (rejected_request_pins fresh passed (Callee.eq_ready found) isRequest).2 (fun r admitted => by
      rw [admitted] at failed
      cases failed) Caller.unwatched 0 0 false
  rw [taken] at references functions
  exact ⟨ended, w', ran, notExhausted, references, functions⟩

/-- A script is about to assign a function to a member of a surface that has none. -/
def unknownMemberWorld : World :=
  ((Command.runAll (callerAt 1) [.forward (blankSpec "Gauge"),
    .machine [.getGlobal "Gauge", .pushFunction "f" idle]]).run
      (World.openSession {} (.start 8) .empty)).2

/-- The write is ignored, and the function stays pinned. -/
theorem ignored_write_pins_function :
    ∃ t s w', unknownMemberWorld.machine.tokenOf? (unknownMemberWorld.machine.valueAt (-2)) = some t ∧
      unknownMemberWorld.session.handles.get? t = some (.surface s) ∧ s.member "Reset" = none ∧
      (Vm.setField (callerAt 1) (-2) "Reset").run unknownMemberWorld = (.value (), w') ∧
      w'.machine.referenceCount = unknownMemberWorld.machine.referenceCount + 1 ∧
      w'.session.liveFunctions = unknownMemberWorld.session.liveFunctions + 1 := by
  have token : unknownMemberWorld.machine.tokenOf? (unknownMemberWorld.machine.valueAt (-2)) =
      some ⟨1, 0, 1⟩ := by decide +kernel
  have unknown : ((unknownMemberWorld.session.handles.get? ⟨1, 0, 1⟩).bind HandleEntry.surface?).any
      (fun s => (s.member "Reset").isNone) = true := by decide +kernel
  have ended : ((Vm.setField (callerAt 1) (-2) "Reset").run unknownMemberWorld).1.value? = some () := by
    decide +kernel
  have references : ((Vm.setField (callerAt 1) (-2) "Reset").run unknownMemberWorld).2.machine.referenceCount
      = unknownMemberWorld.machine.referenceCount + 1 := by decide +kernel
  have functions : ((Vm.setField (callerAt 1) (-2) "Reset").run unknownMemberWorld).2.session.liveFunctions
      = unknownMemberWorld.session.liveFunctions + 1 := by decide +kernel
  generalize unknownMemberWorld = w at token unknown ended references functions ⊢
  obtain ⟨s, found, missing⟩ := HandleEntry.exists_surface unknown
  exact ⟨_, s, _, token, found, Option.isNone_iff_eq_none.1 missing, Action.run_of_value? ended, references,
    functions⟩

end ScriptHost
