import ScriptHost.Proofs.Discipline.Guards
import ScriptHost.Proofs.Members.Recipients
/-!
# A receiver in use is left alone

While the body of a method runs that is not reentrant, its receiver is borrowed exclusively.  All the
code that it calls in turn, to any depth, is entered while the receiver is held: that is said by
comparison with a caller that stops where it is not (`vettedCaller`).  An access that is made while an
object is held, and that would run a getter, a setter, a dictionary access or such a body on it, fails
with a conflict and changes nothing (`HostObject.access_conflicts`).

However a call ends, all guards are then as they were before.
-/

namespace ScriptHost

open World Machine

/-! ## Vetted callers -/

/-- The action, stopped at once in a state that fails the test. -/
def Action.onlyIf {σ ε α : Type} (test : σ → Bool) (x : Action σ ε α) : Action σ ε α := fun s =>
  if test s then x.run s else (.exhausted, s)

/-- The caller that may nest so many levels of code, and is stopped where code is entered in a world that
    fails the test. -/
def vettedCaller (test : World → Bool) : Nat → Caller
  | 0 => .none Caller.unwatched
  | depth + 1 =>
    { run := fun code => (NativeCode.run (vettedCaller test depth) code).onlyIf test
      render := fun i => (Vm.render (vettedCaller test depth) i).onlyIf test
      apply := fun f args => (HostFunction.invoke (vettedCaller test depth) f args).onlyIf test
      before := Caller.unwatched }

theorem Action.Guarded.onlyIf {K : GuardCondition} {test : World → Bool} {ε α : Type}
    {x y : Action World ε α} (passes : ∀ w : World, K.Holds w.host.guards → test w = true)
    (guarded : x.Guarded K y) : x.Guarded K (y.onlyIf test) := by
  intro w holds
  have run_eq : (y.onlyIf test).run w = y.run w := if_pos (passes w holds)
  rw [run_eq]
  exact guarded w holds

/-- A condition that holds when code is entered holds when the code that it calls is entered. -/
theorem covers_vettedCaller {K : GuardCondition} {test : World → Bool}
    (passes : ∀ w : World, K.Holds w.host.guards → test w = true) (depth : Nat) :
    (guarding K).Covers (callerAt depth) (vettedCaller test depth) := by
  induction depth with
  | zero =>
    exact ⟨fun _ => (guarding K).exhausted, fun _ => (guarding K).exhausted,
      fun _ _ => (guarding K).exhausted, rfl, rfl⟩
  | succ depth ih =>
    exact ⟨fun code => (ih.runNative code).onlyIf passes, fun i => (ih.renderValue i).onlyIf passes,
      fun f args => (ih.invokeFunction f args).onlyIf passes, rfl, rfl⟩

/-- The record is borrowed exclusively. -/
def World.isHeld (i : Nat) (w : World) : Bool := w.host.guards i = .exclusive

/-- While a body runs that is not reentrant, code is entered only as long as the receiver is held. -/
theorem HostObject.runMethod_vetted (depth : Nat) {o : HostObject} {m : Method} {w : World}
    (direct : m.isReentrant = false) (inside : o.record < w.host.records.size) (args : List HostValue) :
    (o.runMethod (vettedCaller (isHeld o.record) depth) m args).run w =
      (o.runMethod (callerAt depth) m args).run w := by
  simp only [runMethod, direct, Bool.false_eq_true, if_false]
  cases admitted : (w.host.guards o.record).admit? true with
  | none => rw [Action.Guarded.run_holding_refused admitted, Action.Guarded.run_holding_refused admitted]
  | some b =>
    have exclusive : b = .exclusive := by
      cases free : w.host.guards o.record <;> rw [free] at admitted <;> cases admitted
      rfl
    subst exclusive
    have held : (GuardCondition.held o.record).Holds (w.host.borrowed o.record .exclusive).guards := by
      show (w.host.borrowed o.record .exclusive).guards o.record = .exclusive
      rw [HostStore.borrowed, HostStore.guards_setRecord, if_pos ⟨rfl, inside⟩]
    have passes (w : World) (held : (GuardCondition.held o.record).Holds w.host.guards) :
        isHeld o.record w = true := decide_eq_true held
    have covers := covers_vettedCaller passes depth
    obtain ⟨same, -⟩ := covers.eval ⟨args, .borrowed o.record⟩ m.body
      { w with host := w.host.borrowed o.record .exclusive } held
    rw [Action.Guarded.run_holding admitted, Action.Guarded.run_holding admitted, same]

/-! ## Accesses -/

/-- An access to a member. -/
inductive Access where
  | read (name : String)
  | write (name : String) (v : HostValue)
  | call (name : String) (args : List HostValue)

namespace Access

/-- Makes the access to an object. -/
def perform (c : Caller) (o : HostObject) : Access → Bridge Unit
  | read name => do let _ ← o.readMember name; return ()
  | write name v => do let _ ← o.writeMember name v; return ()
  | call name args => do let _ ← o.invokeMember c name args; return ()

/-- Makes the access for a script, and gives the number of results. -/
def serve (c : Caller) (t : Token) (target : Target) : Access → Bridge Nat
  | read name => do
    match ← target.readMember name with
    | .value v => Bridge.push v
    | .callable name => changeMachine (·.push (.function name (.callMember t name)))
    return 1
  | write name v => do
    let _ ← target.writeMember name v
    return 0
  | call name args => do Bridge.pushResult (← target.invokeMember c name args)

/-- There is a getter for the access, a setter that takes the value, a body that is not reentrant and takes
    the arguments, or the object is a dictionary that is read or written. -/
def Runs (o : HostObject) : Access → Prop
  | read name => o.descriptor.isDictionary = true ∨
      ∃ key, (o.accessors name).findSome? Accessor.reads = some key
  | write name v => o.descriptor.isDictionary = true ∨
      ∃ a rest stored v', o.accessors name = a :: rest ∧ a.writes = some stored ∧
        v.coerceOrMismatch a.type = .ok v'
  | call name args => ∃ overloads chosen m, o.descriptor.methods.get? name = some overloads ∧
      Selection.select name (overloads.map (·.signature.params)) args = .ok chosen ∧
      overloads[chosen.index]? = some m ∧ m.isReentrant = false

end Access

namespace HostObject

variable {o : HostObject} {w : World} (held : w.isHeld o.record = true)

include held

theorem checkBorrow_held (isExclusive : Bool) :
    (Bridge.checkBorrow isExclusive o).run w = (.failure (.error (Bridge.conflict o)), w) := by
  have guard : (w.host.record o.record).borrow = .exclusive := of_decide_eq_true held
  cases isExclusive <;> simp [Bridge.checkBorrow, guard, Borrow.admit?, Borrow.share?, Borrow.claim?,
    Bridge.run_fail]

theorem readEntry_held (key : String) :
    (Bridge.readEntry o key).run w = (.failure (.error (Bridge.conflict o)), w) := by
  rw [Bridge.readEntry, Action.run_bind, checkBorrow_held held]

theorem checkClaim_held : w.host.checkClaim o = .error (Bridge.conflict o) := by
  have guard : (w.host.record o.record).borrow = .exclusive := of_decide_eq_true held
  simp [HostStore.checkClaim, guard, Borrow.admit?, Borrow.claim?]

theorem readMember_held {name : String} (runs : (Access.read name).Runs o) :
    (o.readMember name).run w = (.failure (.error (Bridge.conflict o)), w) := by
  have read (key : String) : (Bridge.readEntry o key >>= fun v => pure (MemberRead.value v)).run w =
      (.failure (.error (Bridge.conflict o)), w) := by
    rw [Action.run_bind, readEntry_held held]
  rw [readMember]
  cases isDictionary : o.descriptor.isDictionary with
  | true => exact read name
  | false =>
    obtain isDictionary' | ⟨key, found⟩ := runs
    · rw [isDictionary] at isDictionary'
      cases isDictionary'
    · simp only [found]
      exact read key

theorem writeMember_held {name : String} {v : HostValue} (runs : (Access.write name v).Runs o) :
    (o.writeMember name v).run w = (.failure (.error (Bridge.conflict o)), w) := by
  rw [run_writeMember, setter?]
  cases isDictionary : o.descriptor.isDictionary with
  | true =>
    simp only [if_true, checkClaim_held held]
    rfl
  | false =>
    obtain isDictionary' | ⟨a, rest, stored, v', found, writes, coerced⟩ := runs
    · rw [isDictionary] at isDictionary'
      cases isDictionary'
    · simp only [found, writes, coerced, Except.ok_bind, checkClaim_held held]
      rfl

theorem invokeMember_held {name : String} {args : List HostValue} (runs : (Access.call name args).Runs o)
    (c : Caller) : (o.invokeMember c name args).run w = (.failure (.error (Bridge.conflict o)), w) := by
  obtain ⟨overloads, chosen, m, found, selected, there, direct⟩ := runs
  have guard : w.host.guards o.record = .exclusive := of_decide_eq_true held
  have refused : (w.host.guards o.record).admit? true = none := by
    rw [guard]
    rfl
  have body : (o.runMethod c m chosen.args).run w = (.failure (.error (Bridge.conflict o)), w) := by
    rw [runMethod, direct]
    exact Action.Guarded.run_holding_refused refused _
  simp only [invokeMember, found, Action.run_bind, selected, Bridge.run_ofExcept, there, body]

/-- An access that would run something on an object that is held fails, and nothing has happened. -/
theorem access_conflicts {a : Access} (runs : a.Runs o) (c : Caller) :
    (a.perform c o).run w = (.failure (.error (Bridge.conflict o)), w) := by
  cases a with
  | read name => rw [Access.perform, Action.run_bind, readMember_held held runs]
  | write name v => rw [Access.perform, Action.run_bind, writeMember_held held runs]
  | call name args => rw [Access.perform, Action.run_bind, invokeMember_held held runs]

theorem serve_conflicts {a : Access} (runs : a.Runs o) (c : Caller) (t : Token) :
    (a.serve c t (.object o)).run w = (.failure (.error (Bridge.conflict o)), w) := by
  cases a with
  | read name => rw [Access.serve, Action.run_bind, Target.readMember, readMember_held held runs]
  | write name v => rw [Access.serve, Action.run_bind, Target.writeMember, writeMember_held held runs]
  | call name args => rw [Access.serve, Action.run_bind, Target.invokeMember, invokeMember_held held runs]

end HostObject

/-! ## Accesses of scripts -/

/-- The access that a script makes through native code, and the token of its target; the values that come
    with it are taken in. -/
def NativeCode.access : NativeCode → Bridge (Option (Token × Access))
  | readMember t => do return some (t, .read (← Bridge.memberName))
  | writeMember t => do
    let name ← Bridge.memberName
    return some (t, .write name (← Bridge.read 3))
  | callMember t name => do
    let isBound ← askMachine fun m => decide (m.handleOf? 1 = some t)
    return some (t, .call name (← Bridge.readArgs (if isBound then 2 else 1)))
  | _ => pure none

/-- Makes the access that was found, on the target that its token resolves to. -/
def Access.follow (c : Caller) : Option (Token × Access) → Bridge Nat
  | some (t, a) => do a.serve c t (← Target.resolve t)
  | none => pure 0

/-- The token of the target, if the code makes an access. -/
def NativeCode.token? : NativeCode → Option Token
  | readMember t | writeMember t | callMember t _ => some t
  | _ => none

/-- Native code that makes an access first finds out what it is and then resolves the target. -/
theorem NativeCode.run_follow {code : NativeCode} {t : Token} (token : code.token? = some t) (c : Caller) :
    code.run c = (code.access >>= Access.follow c).inNative := by
  cases code with
  | readMember s =>
    simp only [run, Bridge.readHook, access, bind_assoc, pure_bind, Access.follow]
    rfl
  | writeMember s =>
    simp only [run, Bridge.writeHook, access, bind_assoc, pure_bind, Access.follow, Access.serve]
  | callMember s name =>
    simp only [run, Bridge.memberHook, access, bind_assoc, pure_bind, Access.follow, Access.serve]
  | _ => cases token

theorem NativeCode.run_access {code : NativeCode} {t : Token} {a : Access} {w w' : World}
    (accesses : code.access.run w = (.value (some (t, a)), w')) (c : Caller) :
    (code.run c).run w = (Access.follow c (some (t, a))).inNative.run w' := by
  have token : ∃ s, code.token? = some s := by
    cases code with
    | readMember s | writeMember s | callMember s _ => exact ⟨s, rfl⟩
    | _ => cases accesses
  obtain ⟨s, token⟩ := token
  rw [run_follow token, Bridge.inNative, Action.run_mapFailure, Action.run_bind, accesses]
  rfl

theorem looks_memberName : Looks Bridge.memberName := fun w => by
  obtain ⟨-, name, ran⟩ | ⟨-, e, ran⟩ := Bridge.run_memberName w
  · exact ⟨_, ran, by simp⟩
  · exact ⟨_, ran, by simp⟩

/-- Until the access is found, the functions among its values have been taken in. -/
theorem NativeCode.access_takes {code : NativeCode} {t : Token} (token : code.token? = some t) (w : World) :
    w.Takes (w.takenIn (code.values w)) code.access := by
  cases code with
  | readMember s => exact .of_looks (looks_memberName.seq fun name => Looks.pure _)
  | writeMember s =>
    rw [World.Takes, access, Action.run_bind, values]
    obtain ⟨isNamed, name, ran⟩ | ⟨unnamed, e, ran⟩ := Bridge.run_memberName w
    · rw [ran, if_pos isNamed]
      exact (World.Takes.read (by decide) w).seq fun v => Looks.pure (some (s, Access.write name v))
    · rw [ran, if_neg (by simp [unnamed])]
      exact ⟨_, w, rfl, by simp, .refl w⟩
  | callMember s name =>
    have positive : 0 < (if w.machine.handleOf? 1 = some s then 2 else 1 : Int) := by
      split <;> decide
    rw [World.Takes, access, Action.run_bind, run_askMachine]
    simp only [decide_eq_true_eq]
    exact (World.Takes.readArgs positive w).seq fun args => Looks.pure (some (s, Access.call name args))
  | _ => cases token

theorem NativeCode.takes_access (code : NativeCode) (w : World) : ∃ count, w.Takes count code.access := by
  cases token : code.token? with
  | some t => exact ⟨_, access_takes token w⟩
  | none =>
    cases code with
    | readMember t | writeMember t | callMember t name => cases token
    | _ => exact ⟨0, .of_looks (Looks.pure none)⟩

/-! ## Exclusion and recovery -/

/-- Whatever is called, and however calls of the host and of scripts nest in it: when it has ended, with
    results, with an error or with a panic, all records are as free or borrowed as they were before.  As
    long as a body runs that is not reentrant, all code that is entered finds its receiver held.  And an
    access to an object that is held fails with a conflict, if it would run anything on the object; it
    changes nothing, but that the functions among the values of a script's access have been taken in. -/
theorem receiver_excluded_and_given_back (depth : Nat) :
    (∀ (code : NativeCode) (w : World), (((callerAt depth).run code).run w).1 ≠ .exhausted →
      (((callerAt depth).run code).run w).2.host.guards = w.host.guards) ∧
    (∀ (command : Command) (w : World), ((command.perform (callerAt depth)).run w).1 ≠ .exhausted →
      ((command.perform (callerAt depth)).run w).2.host.guards = w.host.guards) ∧
    (∀ (o : HostObject) (m : Method) (args : List HostValue) (w : World), m.isReentrant = false →
      o.record < w.host.records.size →
        (o.runMethod (vettedCaller (World.isHeld o.record) depth) m args).run w =
          (o.runMethod (callerAt depth) m args).run w) ∧
    ∀ (o : HostObject) (a : Access) (w : World), w.isHeld o.record = true → a.Runs o →
      (a.perform (callerAt depth) o).run w = (.failure (.error (.borrowConflict o.typeName)), w) ∧
      ∀ (code : NativeCode) (t : Token) (w₀ : World), code.access.run w₀ = (.value (some (t, a)), w) →
        w.session.handles.get? t = some (.object o) →
          (code.run (callerAt depth)).run w₀ =
            (.failure (BridgeError.borrowConflict o.typeName).message, w) ∧
          ∃ count, w₀.TakesIn count w := by
  -- The condition that always holds makes every run a guarded one, under its own caller.
  have covers : (guarding .always).Covers (callerAt depth) (callerAt depth) :=
    (guarding .always).covers_watchedCaller depth 0
  refine ⟨fun code w ended => ?_, fun command w ended => ?_, fun o m args w direct inside => ?_,
    fun o a w held runs => ⟨?_, fun code t w₀ accesses target => ⟨?_, ?_⟩⟩⟩
  · obtain ⟨-, kept⟩ := covers.run code w trivial
    exact kept ended
  · obtain ⟨-, kept⟩ := SessionDiscipline.perform covers command w trivial
    exact kept ended
  · exact HostObject.runMethod_vetted depth direct inside args
  · exact HostObject.access_conflicts held runs (callerAt depth)
  · have resolved : (Target.resolve t).run w = (.value (.object o), w) := by
      simp only [Target.resolve, HandleStore.resolve_eq, Action.run_bind, run_askSession, target]
      rfl
    rw [NativeCode.run_access accesses, Access.follow, Bridge.inNative, Action.run_mapFailure,
      Action.run_bind, resolved]
    simp only [HostObject.serve_conflicts held runs]
    rfl
  · obtain ⟨count, outcome, w', ran, -, taken⟩ := code.takes_access w₀
    rw [accesses] at ran
    cases ran
    exact ⟨count, taken⟩

/-- A gauge has a level, and a method that calls a function. -/
def visitSpec : TypeSpec :=
  ⟨⟨"Gauge", .plain⟩, "Gauge", [.property "Level" (.int .u8),
    .method "Visit" ⟨⟨[.function], true⟩, false, .call (.arg 0) []⟩]⟩

/-- A gauge has been published, and a script function that reads its level has been taken in. -/
def visitWorld : World :=
  ((Command.runAll (callerAt 8) [.forward visitSpec,
    .bind "gauge" (.pushObject "gauge" ⟨"Gauge", .plain⟩ []),
    .machine [.pushFunction "peek" (.mk [.getGlobal "gauge", .getField (-1) "Level"] (some 1) none true),
      .setGlobal "peek"],
    .getGlobal "peek"]).run (World.openSession {} (.start 8) .empty)).2

/-- When the method calls that function, the function finds the gauge held and fails, and so does the
    method.  The gauge is free afterwards. -/
theorem receiver_excluded_from_gauge :
    ∃ o m w', visitWorld.host.vars.get? "gauge" = some (.object o) ∧
      (o.runMethod (vettedCaller (World.isHeld o.record) 8) m [.function 0]).run visitWorld =
        (.failure (.error (.vm (.runtime "Host object of type 'Gauge' is already in use"))), w') ∧
      w'.host.guards o.record = .free ∧
      ∀ w : World, w.isHeld o.record = true → ((Access.read "Level").perform (callerAt 8) o).run w =
        (.failure (.error (.borrowConflict "Gauge")), w) := by
  have visited : ((visitWorld.host.vars.get? "gauge").bind HostValue.object?).any (fun o =>
      ((o.descriptor.methods.get? "Visit").bind List.head?).any (fun m =>
        let ended := (o.runMethod (callerAt 8) m [.function 0]).run visitWorld
        decide (ended.1.failure? =
          some (.error (.vm (.runtime "Host object of type 'Gauge' is already in use")))) &&
        decide (ended.2.host.guards o.record = .free) && decide (m.isReentrant = false) &&
        decide (o.record < visitWorld.host.records.size) && decide (o.typeName = "Gauge") &&
        decide ((o.accessors "Level").findSome? Accessor.reads = some "Level"))) = true := by
    decide +kernel
  obtain ⟨-, -, exclusion, conflict⟩ := receiver_excluded_and_given_back 8
  generalize visitWorld = w at visited ⊢
  obtain ⟨o, saved, visited⟩ := HostValue.exists_object visited
  obtain ⟨m, -, visited⟩ := (Option.any_eq_true _ _).1 visited
  simp only [Bool.and_eq_true, decide_eq_true_eq] at visited
  obtain ⟨⟨⟨⟨⟨failed, free⟩, direct⟩, inside⟩, named⟩, level⟩ := visited
  refine ⟨o, m, _, saved, (exclusion o m _ w direct inside).trans (Action.run_of_failure? failed), free,
    fun later held => ?_⟩
  rw [← named]
  exact (conflict o (.read "Level") later held (Or.inr ⟨_, level⟩)).1

end ScriptHost
