import ScriptHost.Proofs.Members.Exclusion
import ScriptHost.Proofs.Session.Turnover
/-!
# Stale proxies

A script may keep the proxy of a handle that was given up, and functions that were bound to it.  They
carry the token for good.  But such code finds out the access, takes in the values that come with it and
resolves its token before anything of the host runs (`NativeCode.reach`), and the token does not resolve
again until its slot has gone through all generations (`World.Path.stays_unresolved`).  So neither a read
nor a write nor a call through it reaches anything.
-/

namespace ScriptHost

open World Machine

/-! ## Reaching a target -/

/-- Finds out the access that the code makes, and its target. -/
def NativeCode.reach (code : NativeCode) : Bridge (Option (Token × Access × Target)) := do
  match ← code.access with
  | some (t, a) => return some (t, a, ← Target.resolve t)
  | none => return none

/-- Makes the access on the target that was reached. -/
def Access.enter (c : Caller) : Option (Token × Access × Target) → Bridge Nat
  | some (t, a, target) => a.serve c t target
  | none => pure 0

namespace NativeCode

variable {code : NativeCode} {t : Token} {w : World}

/-- Native code that makes an access first reaches its target. -/
theorem run_enter (token : code.token? = some t) (c : Caller) :
    code.run c = (code.reach >>= Access.enter c).inNative := by
  rw [run_follow token, reach, bind_assoc]
  refine congrArg Bridge.inNative (congrArg _ (funext fun found => ?_))
  cases found with
  | none => rfl
  | some found =>
    simp only [bind_assoc, pure_bind]
    rfl

/-- There is a name where the code looks for the name of a member. -/
def IsNamed (m : Machine) : NativeCode → Prop
  | readMember _ | writeMember _ => m.namesMember = true
  | _ => True

instance (m : Machine) : (code : NativeCode) → Decidable (code.IsNamed m)
  | readMember _ | writeMember _ => inferInstanceAs (Decidable (m.namesMember = true))
  | program _ | toText | typeName | raise | print | label _ | callMember .. | host _ => isTrue trivial

/-- Either the access is found, or one of its values is stale. -/
theorem access_cases (token : code.token? = some t) (named : code.IsNamed w.machine) :
    (∃ a w', code.access.run w = (.value (some (t, a)), w')) ∨
    ∃ t' w', (∃ v ∈ code.values w, w.IsStale t' v) ∧
      code.access.run w = (.failure (.error (.unresolvedHandle t')), w') := by
  cases code with
  | readMember s =>
    cases token
    obtain ⟨-, name, ran⟩ | ⟨unnamed, -⟩ := Bridge.run_memberName w
    · exact .inl ⟨.read name, w, by rw [access, Action.run_bind, ran]; rfl⟩
    · exact absurd (named.symm.trans unnamed) (by decide)
  | writeMember s =>
    cases token
    obtain ⟨-, name, ran⟩ | ⟨unnamed, -⟩ := Bridge.run_memberName w
    · have named : w.machine.namesMember = true := named
      simp only [access, Action.run_bind, ran, values, if_pos named]
      obtain ⟨-, v, w', read, -⟩ | ⟨-, t', stale, failed⟩ :=
        Bridge.run_read (show 0 < (3 : Int) by decide) w
      · exact .inl ⟨.write name v, w', by simp only [read]; rfl⟩
      · exact .inr ⟨t', w, ⟨_, List.mem_singleton_self _, stale⟩, by simp only [failed]⟩
    · exact absurd (named.symm.trans unnamed) (by decide)
  | callMember s name =>
    cases token
    -- The receiver in front is not read, so the values begin at the first or the second slot.
    have positive : 0 < (if w.machine.handleOf? 1 = some t then 2 else 1 : Int) := by
      split <;> decide
    obtain ⟨outcome, w', read, ended, -⟩ := Bridge.run_readArgs positive w
    simp only [access, values, Action.run_bind, run_askMachine, decide_eq_true_eq, read]
    cases outcome with
    | value args => exact .inl ⟨.call name args, w', rfl⟩
    | failure e =>
      obtain ⟨t', stale, rfl⟩ := Bridge.readFrom_failure positive read
      exact .inr ⟨t', w', stale, rfl⟩
    | exhausted => exact absurd rfl ended
  | _ => cases token

end NativeCode

/-! ## Missing it -/

theorem Target.run_resolve_stale {t : Token} {w : World} (stale : w.session.handles.get? t = none) :
    (Target.resolve t).run w = (.failure (.error (.unresolvedHandle t)), w) := by
  simp only [resolve, HandleStore.resolve_eq, Action.run_bind, run_askSession, stale]
  rfl

/-- Code with the token `t` reaches nothing: `t'` does not resolve, which is that token or the one of a
    value that comes with the access.  Until then the functions among the values were taken in. -/
structure World.Misses (w : World) (code : NativeCode) (t t' : Token) (w' : World) : Prop where
  unresolved : code.reach.run w = (.failure (.error (.unresolvedHandle t')), w')
  stale : t' = t ∨ ∃ v ∈ code.values w, w.IsStale t' v
  taken : w.TakesIn (w.takenIn (code.values w)) w'

theorem NativeCode.misses {code : NativeCode} {t : Token} {w : World} (token : code.token? = some t)
    (named : code.IsNamed w.machine) (stale : w.session.handles.get? t = none) :
    ∃ t' w', w.Misses code t t' w' := by
  obtain ⟨outcome, w', ran, -, taken⟩ := access_takes token w
  obtain ⟨a, w₁, accesses⟩ | ⟨t', w₁, among, failed⟩ := access_cases token named
  · rw [accesses] at ran
    cases ran
    have unresolved := Target.run_resolve_stale ((taken.get?_eq t).trans stale)
    exact ⟨t, w', by simp only [reach, Action.run_bind, accesses, unresolved], .inl rfl, taken⟩
  · rw [failed] at ran
    cases ran
    exact ⟨t', w', by simp only [reach, Action.run_bind, failed], .inr among, taken⟩

/-- A read has no values. -/
theorem NativeCode.misses_readMember {t : Token} {w : World} (named : w.machine.namesMember = true)
    (stale : w.session.handles.get? t = none) : w.Misses (.readMember t) t t w := by
  refine ⟨?_, .inl rfl, .refl w⟩
  obtain ⟨-, name, ran⟩ | ⟨unnamed, -⟩ := Bridge.run_memberName w
  · simp only [reach, access, Action.run_bind, ran, Action.run_pure, Target.run_resolve_stale stale]
  · exact absurd (named.symm.trans unnamed) (by decide)

namespace World.Misses

variable {w w' : World} {code : NativeCode} {t t' : Token}

theorem run (misses : w.Misses code t t' w') (token : code.token? = some t) (c : Caller) :
    (code.run c).run w = (.failure (BridgeError.unresolvedHandle t').message, w') := by
  rw [NativeCode.run_enter token, Bridge.inNative, Action.run_mapFailure, Action.run_bind,
    misses.unresolved]
  rfl

/-- A call of the code fails, and that is all that it does. -/
theorem run_call {slot : Nat} (misses : (Vm.entered w slot).Misses code t t' w')
    (token : code.token? = some t) {argCount : Int} (called : w.machine.callee argCount = .ready slot code)
    (before : Op → Vm Unit) (depth : Nat) (resultCount : Int) (isProtected : Bool) :
    (Vm.call (watchedCaller before (depth + 1)) argCount resultCount isProtected).run w =
      (.failure (.runtime (BridgeError.unresolvedHandle t').message), { w' with
        machine := w'.machine.left w.machine.depth slot resultCount isProtected
          (.failure (BridgeError.unresolvedHandle t').message) }) := by
  rw [Vm.run_call_ready called, watchedCaller, misses.run token]
  rfl

end World.Misses

/-- What a metamethod took in stays so when its frame is cut away. -/
theorem World.TakesIn.of_started {w w' : World} {f : Value} {args : List Value} {n : Nat}
    (taken : (Vm.started w f args).TakesIn n w') :
    w.TakesIn n (Vm.cut { w' with machine := w'.machine.leave w.machine.depth } w.machine.height) where
  machine := by
    have cut : { ((Vm.started w f args).machine.leave w.machine.depth).truncate w.machine.height with
        registry := w'.machine.registry, freeReferences := w'.machine.freeReferences } =
        { w.machine with
          registry := w'.machine.registry, freeReferences := w'.machine.freeReferences } := by
      rw [Vm.cut_started]
    show (w'.machine.leave w.machine.depth).truncate w.machine.height = _
    rw [taken.machine]
    exact cut
  session := taken.session
  host := taken.host
  functions := taken.functions
  events := taken.events
  tidy tidy := (taken.tidy (tidy.of_eq rfl rfl)).of_eq rfl rfl
  references tidy := taken.references (tidy.of_eq rfl rfl)

/-! ## Accesses of scripts -/

theorem Machine.tokenOf?_of_table {m m' : Machine} (same : ∀ a, m'.table a = m.table a) (v : Value) :
    m'.tokenOf? v = m.tokenOf? v := by
  simp only [tokenOf?, same]

/-- The machine can call one function more. -/
structure Machine.CanCall (m : Machine) : Prop where
  isOpen : m.isClosed = false
  room : m.depth < m.maxDepth

theorem Machine.CanCall.checkOpen {m : Machine} (canCall : m.CanCall) : m.checkOpen = .ok () := by
  rw [Machine.checkOpen, canCall.isOpen]
  rfl

/-! ### Without the topmost value -/

section Popped

variable {w : World}

theorem Machine.CanCall.popped (canCall : w.machine.CanCall) : w.popped.machine.CanCall := by
  have popped := isSteady_popValue
  refine ⟨(popped.isClosed w.machine).trans canCall.isOpen, ?_⟩
  show w.machine.popValue.2.frames.size < w.machine.popValue.2.maxDepth
  rw [popped.frames, popped.maxDepth]
  exact canCall.room

theorem World.tokenOf?_popped (v : Value) : w.popped.machine.tokenOf? v = w.machine.tokenOf? v :=
  tokenOf?_of_table (isSteady_popValue.table w.machine) v

theorem World.isStale_popped {t : Token} {v : Value} : w.popped.IsStale t v ↔ w.IsStale t v := by
  rw [IsStale, tokenOf?_popped]
  rfl

theorem World.takenIn_popped (vs : List Value) : w.popped.takenIn vs = w.takenIn vs := by
  have readable : w.popped.isReadable = w.isReadable := by
    funext v
    rw [isReadable, tokenOf?_popped]
    rfl
  rw [takenIn, readable, takenIn]

end Popped

/-! ### Handlers -/

section Handlers

variable {w : World} {t : Token} {address : Nat} {i : Int} {key name : String}

/-- The name of a member is the second argument of the function that handles an access. -/
theorem namesMember_started {f target : Value} {key : Bytes} {rest : List Value} :
    (Vm.started w f (target :: .string key :: rest)).machine.namesMember = true := by
  have second : (Vm.started w f (target :: .string key :: rest)).machine.valueAt 2 = .string key :=
    Vm.valueAt_started (i := 1) rfl
  rw [namesMember, second]

/-- The value to assign is the third one. -/
theorem values_started {f target v : Value} {key : Bytes} :
    NativeCode.values (Vm.started w f [target, .string key, v]) (.writeMember t) = [v] := by
  have third : (Vm.started w f [target, .string key, v]).machine.valueAt 3 = v :=
    Vm.valueAt_started (i := 2) rfl
  rw [NativeCode.values, if_pos namesMember_started, third]

/-- A handler that reaches nothing fails, and its frame is cut away. -/
theorem World.Misses.run_callValue {code : NativeCode} {t' : Token} {args : List Value} {w₁ : World}
    (misses : (Vm.started w (.function name code) args).Misses code t t' w₁)
    (token : code.token? = some t) (whole : w.machine.base ≤ w.machine.height)
    (canCall : w.machine.CanCall) (before : Op → Vm Unit) (depth resultCount : Nat) :
    (Vm.callValue (watchedCaller before (depth + 1)) (.function name code) args resultCount).run w =
      (.failure (.runtime (BridgeError.unresolvedHandle t').message),
        Vm.cut { w₁ with machine := w₁.machine.leave w.machine.depth } w.machine.height) := by
  have called : (Vm.prepared w (.function name code) args).machine.callee args.length =
      .ready w.machine.height code := Vm.callee_prepared whole canCall.isOpen canCall.room
  rw [Vm.run_callValue, misses.run_call token called]
  rfl

/-- A script that reads a member through a stale proxy fails, and nothing has changed. -/
theorem Vm.getField_stale (stale : w.session.handles.get? t = none)
    (whole : w.machine.base ≤ w.machine.height) (canCall : w.machine.CanCall)
    (target : w.machine.valueAt i = .table address)
    (missing : ((w.machine.table address).get (utf8Encode key)).isNil = true)
    (handled : w.machine.metamethod address "__index" = .function name (.readMember t))
    (before : Op → Vm Unit) (depth : Nat) :
    (Vm.getField (watchedCaller before (depth + 1)) i key).run w =
      (.failure (.runtime (BridgeError.unresolvedHandle t).message), w) := by
  have misses : (started w (.function name (.readMember t))
      [.table address, .string (utf8Encode key)]).Misses (.readMember t) t t _ :=
    NativeCode.misses_readMember namesMember_started stale
  have ran := misses.run_callValue rfl whole canCall before depth 1
  have same : Vm.cut { started w (.function name (.readMember t))
      [.table address, .string (utf8Encode key)] with
      machine := (started w (.function name (.readMember t))
        [.table address, .string (utf8Encode key)]).machine.leave w.machine.depth } w.machine.height = w :=
    congrArg (fun m => { w with machine := m }) cut_started
  rw [same] at ran
  have read : (index (watchedCaller before (depth + 1)) key maxChain (.table address)).run w =
      (.failure (.runtime (BridgeError.unresolvedHandle t).message), w) := by
    rw [maxChain, index]
    simp only [Action.run_bind, run_askMachine, missing, Bool.not_true, Bool.false_eq_true, if_false, handled,
      ran]
  -- Bind by bind, so that nothing has to look into the chain of redirections.
  rw [getField, Action.run_bind, run_askMachine, canCall.checkOpen]
  dsimp only
  rw [Action.run_bind, Action.run_ofExcept_ok]
  dsimp only
  rw [Action.run_bind, run_askMachine, target]
  dsimp only
  rw [Action.run_bind, read]

/-- One that writes a member through it fails, perhaps as it writes something stale. -/
theorem Vm.setField_stale (stale : w.session.handles.get? t = none)
    (whole : w.machine.base ≤ w.machine.height) (canCall : w.machine.CanCall)
    (target : w.machine.valueAt i = .table address)
    (handled : w.machine.newIndexHandler address key = .function name (.writeMember t))
    (before : Op → Vm Unit) (depth : Nat) :
    ∃ t' w', (t' = t ∨ w.IsStale t' w.machine.popValue.1) ∧
      (Vm.setField (watchedCaller before (depth + 1)) i key).run w =
        (.failure (.runtime (BridgeError.unresolvedHandle t').message), w') ∧
      w.popped.TakesIn (w.takenIn [w.machine.popValue.1]) w' := by
  -- The value to assign is taken off the stack first, which changes nothing of what is called.
  have handled' : w.popped.machine.newIndexHandler address key = .function name (.writeMember t) :=
    (Machine.newIndexHandler_of_table (isSteady_popValue.table w.machine) address key).trans handled
  have misses : ∃ t' w', (started w.popped (.function name (.writeMember t))
      [.table address, .string (utf8Encode key), w.machine.popValue.1]).Misses (.writeMember t) t t' w' :=
    NativeCode.misses rfl namesMember_started stale
  obtain ⟨t', w₁, misses⟩ := misses
  have ran := misses.run_callValue rfl (isSteady_popValue.staysWhole whole) canCall.popped before depth 0
  have taken : w.popped.TakesIn (w.popped.takenIn _) _ := misses.taken.of_started
  generalize Vm.cut _ w.popped.machine.height = w' at ran taken
  have cause := misses.stale
  simp only [values_started, List.mem_singleton, exists_eq_left] at taken cause
  refine ⟨t', w', cause.imp_right fun stale => World.isStale_popped.1 stale, ?_, ?_⟩
  · have assigned : (newIndex (watchedCaller before (depth + 1)) key w.machine.popValue.1 maxChain
        (.table address)).run w.popped =
          (.failure (.runtime (BridgeError.unresolvedHandle t').message), w') := by
      rw [maxChain, newIndex]
      simp only [Action.run_bind, run_askMachine, handled', ran]
    simp only [setField, Action.run_bind, run_askMachine, canCall.checkOpen, Action.run_ofExcept_ok, target,
      run_onMachine]
    exact assigned
  · rwa [World.takenIn_popped] at taken

end Handlers

/-! ## Whole runs -/

/-- Once a handle was given up, and until its slot can have gone through all generations, all code that
    carries its token fails before it reaches a target: called as such, in which case it must find a name
    where it looks for one, or as what handles the reading or writing of a member. -/
theorem stale_proxy_reaches_nothing {m : Machine} (whole : m.base ≤ m.height) {host : HostStore}
    {options : SessionOptions} {w₀ w₁ w₂ : World} {t : Token}
    (opened : Evolves (openSession options m host) w₀) (live : (w₀.session.handles.get? t).isSome = true)
    (passed : Evolves w₀ w₁) (released : w₁.session.handles.get? t = none) (later : Evolves w₁ w₂)
    (few : w₂.made < w₀.made + HandleHistory.generationCapacity) :
    (∀ code : NativeCode, code.token? = some t → ∀ c : Caller,
      code.run c = (code.reach >>= Access.enter c).inNative) ∧
    (∀ {argCount : Int} {slot : Nat} {code : NativeCode}, w₂.machine.callee argCount = .ready slot code →
      code.token? = some t → code.IsNamed (Vm.entered w₂ slot).machine →
      ∃ t' w₃, (Vm.entered w₂ slot).Misses code t t' w₃ ∧ ∀ before depth resultCount isProtected,
        (Vm.call (watchedCaller before (depth + 1)) argCount resultCount isProtected).run w₂ =
          (.failure (.runtime (BridgeError.unresolvedHandle t').message), { w₃ with
            machine := w₃.machine.left w₂.machine.depth slot resultCount isProtected
              (.failure (BridgeError.unresolvedHandle t').message) })) ∧
    ∀ {i : Int} {address : Nat} {key name : String}, w₂.machine.CanCall →
      w₂.machine.valueAt i = .table address →
      (((w₂.machine.table address).get (utf8Encode key)).isNil = true →
        w₂.machine.metamethod address "__index" = .function name (.readMember t) →
        ∀ before depth, (Vm.getField (watchedCaller before (depth + 1)) i key).run w₂ =
          (.failure (.runtime (BridgeError.unresolvedHandle t).message), w₂)) ∧
      (w₂.machine.newIndexHandler address key = .function name (.writeMember t) →
        ∀ before depth, ∃ t' w₃, (t' = t ∨ w₂.IsStale t' w₂.machine.popValue.1) ∧
          (Vm.setField (watchedCaller before (depth + 1)) i key).run w₂ =
            (.failure (.runtime (BridgeError.unresolvedHandle t').message), w₃) ∧
          w₂.popped.TakesIn (w₂.takenIn [w₂.machine.popValue.1]) w₃) := by
  have whole₂ : w₂.machine.base ≤ w₂.machine.height :=
    Path.whole ((opened.trans passed).trans later) (whole_openSession whole options host)
  -- The slot cannot have come round to the same generation again, so the token is still unresolved.
  have stale : w₂.session.handles.get? t = none := by
    obtain ⟨_, turnover, _⟩ := opened.ages (HandleStore.isTidy_empty options.maxHandles)
    exact Path.stays_unresolved turnover.tidy passed later live released few
  refine ⟨fun code token c => code.run_enter token c, fun {argCount slot code} called token named => ?_,
    fun {i address key name} canCall target => ⟨fun missing handled before depth => ?_,
      fun handled before depth => ?_⟩⟩
  · obtain ⟨t', w₃, misses⟩ := code.misses token named stale
    exact ⟨t', w₃, misses, fun before depth resultCount isProtected =>
      misses.run_call token called before depth resultCount isProtected⟩
  · exact Vm.getField_stale stale whole₂ canCall target missing handled before depth
  · exact Vm.setField_stale stale whole₂ canCall target handled before depth

/-- The token with which the code reads members. -/
def NativeCode.readTarget? : NativeCode → Option Token
  | readMember t => some t
  | _ => none

theorem NativeCode.eq_readMember {code : NativeCode} {t : Token} (reads : code.readTarget? = some t) :
    code = .readMember t := by
  cases code with
  | readMember s => exact congrArg readMember (Option.some.inj reads)
  | _ => cases reads

def Value.code? : Value → Option NativeCode
  | function _ code => some code
  | _ => none

theorem Value.exists_readMember {v : Value} {t : Token}
    (reads : v.code?.bind NativeCode.readTarget? = some t) : ∃ name, v = .function name (.readMember t) := by
  cases v with
  | function name code => exact ⟨name, congrArg (function name) (NativeCode.eq_readMember reads)⟩
  | _ => cases reads

/-- A gauge has a method of its type. -/
def resetSpec : TypeSpec :=
  ⟨⟨"Gauge", .plain⟩, "Gauge", [.staticMethod "Reset" ⟨⟨[], true⟩, .literal .nil⟩]⟩

/-- A script keeps the proxy of the surface of gauges, and the method bound to it. -/
def keptWorld : World :=
  ((Command.runAll (callerAt 4) [.forward resetSpec,
    .machine [.getGlobal "Gauge", .setGlobal "old", .getGlobal "Gauge", .getField (-1) "Reset",
      .setGlobal "reset"]]).run (World.openSession {} (.start 8) .empty)).2

/-- The surface has been replaced. -/
def replacedWorld : World := ((Command.runAll (callerAt 4) [.forward resetSpec]).run keptWorld).2

theorem evolves_keptWorld : World.Evolves (World.openSession {} (.start 8) .empty) keptWorld :=
  evolves_runAll (whole_openSession (by decide) {} .empty) 4 _

theorem evolves_replacedWorld : World.Evolves keptWorld replacedWorld :=
  evolves_runAll (Path.whole evolves_keptWorld (whole_openSession (by decide) {} .empty)) 4 _

theorem evolves_after_replacedWorld (commands : List Command) :
    World.Evolves replacedWorld ((Command.runAll (callerAt 4) commands).run replacedWorld).2 :=
  evolves_runAll (Path.whole (evolves_keptWorld.trans evolves_replacedWorld)
    (whole_openSession (by decide) {} .empty)) 4 commands

theorem live_keptWorld : (keptWorld.session.handles.get? ⟨1, 0, 1⟩).isSome = true := by decide +kernel

theorem released_replacedWorld : replacedWorld.session.handles.get? ⟨1, 0, 1⟩ = none :=
  Option.isNone_iff_eq_none.1 (by decide +kernel)

/-- The script takes up what it kept. -/
def staleWorld : World :=
  ((Command.runAll (callerAt 4) [.machine [.getGlobal "old", .getGlobal "reset"]]).run replacedWorld).2

/-- It cannot read a member of the proxy or call the method. -/
theorem stale_proxy_reaches_nothing_of_gauge :
    (Vm.getField (callerAt 4) (-2) "Level").run staleWorld =
        (.failure (.runtime "Unresolved handle 0x100000000 (tag 1)"), staleWorld) ∧
      ∃ w, (Vm.call (callerAt 4) 0 1 false).run staleWorld =
        (.failure (.runtime "Unresolved handle 0x100000000 (tag 1)"), w) := by
  have whole : (Machine.start 8).base ≤ (Machine.start 8).height := by decide
  have later : Evolves replacedWorld staleWorld := evolves_after_replacedWorld _
  have text : (BridgeError.unresolvedHandle ⟨1, 0, 1⟩).message = "Unresolved handle 0x100000000 (tag 1)" := by
    decide +kernel
  have few : staleWorld.made < keptWorld.made + HandleHistory.generationCapacity := by decide +kernel
  have canCall : staleWorld.machine.CanCall := ⟨by decide +kernel, by decide +kernel⟩
  have isProxy : (staleWorld.machine.valueAt (-2)).address?.any (fun address =>
      ((staleWorld.machine.table address).get (utf8Encode "Level")).isNil &&
      decide ((staleWorld.machine.metamethod address "__index").code?.bind NativeCode.readTarget? =
        some ⟨1, 0, 1⟩)) = true := by decide +kernel
  have isBound : (staleWorld.machine.callee 0).ready?.any (fun called =>
      decide (called.2.token? = some ⟨1, 0, 1⟩) &&
      decide (called.2.IsNamed (Vm.entered staleWorld called.1).machine) &&
      (called.2.values (Vm.entered staleWorld called.1)).isEmpty) = true := by decide +kernel
  obtain ⟨-, call, field⟩ := stale_proxy_reaches_nothing whole evolves_keptWorld live_keptWorld
    evolves_replacedWorld released_replacedWorld later few
  generalize staleWorld = w at call field canCall isProxy isBound ⊢
  rw [← text]
  constructor
  · obtain ⟨address, target, isProxy⟩ := (Option.any_eq_true _ _).1 isProxy
    obtain ⟨missing, handled⟩ := Bool.and_eq_true_iff.1 isProxy
    obtain ⟨name, handled⟩ := Value.exists_readMember (of_decide_eq_true handled)
    exact (field canCall (Value.eq_table target)).1 missing handled Caller.unwatched 3
  · obtain ⟨called, found, isBound⟩ := (Option.any_eq_true _ _).1 isBound
    simp only [Bool.and_eq_true, decide_eq_true_eq, List.isEmpty_iff] at isBound
    obtain ⟨⟨token, named⟩, empty⟩ := isBound
    obtain ⟨t', w₃, misses, ran⟩ := call (Callee.eq_ready found) token named
    obtain rfl : t' = ⟨1, 0, 1⟩ := by
      rcases misses.stale with same | ⟨v, among, -⟩
      · exact same
      · rw [empty] at among
        cases among
    exact ⟨_, ran Caller.unwatched 3 1 false⟩

/-- The script has put a handler of the proxy on the stack, to call it by itself with nothing for a name. -/
def namelessWorld : World :=
  ((Command.runAll (callerAt 4) [.machine [.getGlobal "old", .getMeta (-1), .rawGet (-1) "__index",
    .getGlobal "old", .pushNil]]).run replacedWorld).2

theorem BridgeError.head?_message_unresolvedHandle (t : Token) :
    (unresolvedHandle t).message.toList.head? = some 'U' := by
  have text : (unresolvedHandle t).message =
      "Unresolved handle 0x" ++ hexText t.id ++ " (tag " ++ natText t.tag.toNat ++ ")" := rfl
  have first : "Unresolved handle 0x".toList = 'U' :: "nresolved handle 0x".toList := by decide +kernel
  rw [text, String.toList_append, String.toList_append, String.toList_append, String.toList_append, first]
  rw [List.cons_append, List.cons_append, List.cons_append, List.cons_append, List.head?_cons]

/-- The handler looks for the name of the member before it resolves its token.  And a slot that has gone
    through all generations is back at the one it had. -/
theorem nameless_handler_not_unresolved :
    (∃ slot text w, Evolves (World.openSession {} (.start 8) .empty) keptWorld ∧
      (keptWorld.session.handles.get? ⟨1, 0, 1⟩).isSome = true ∧ Evolves keptWorld replacedWorld ∧
      replacedWorld.session.handles.get? ⟨1, 0, 1⟩ = none ∧ Evolves replacedWorld namelessWorld ∧
      namelessWorld.machine.callee 2 = .ready slot (.readMember ⟨1, 0, 1⟩) ∧
      (Vm.call (callerAt 4) 2 1 false).run namelessWorld = (.failure (.runtime text), w) ∧
      ∀ t, text ≠ (BridgeError.unresolvedHandle t).message) ∧
    HandleSlot.nextGeneration^[HandleHistory.generationCapacity] 1 = 1 := by
  refine ⟨?_, HandleSlot.nextGeneration_iterate_all (by decide)⟩
  have isHandler : (namelessWorld.machine.callee 2).ready?.any (fun called =>
      decide (called.2.readTarget? = some ⟨1, 0, 1⟩)) = true := by decide +kernel
  have isNameless : ((Vm.call (callerAt 4) 2 1 false).run namelessWorld).1.failure? =
      some (.runtime "Null member access: member name must be a string, got nil") := by decide +kernel
  have later : Evolves replacedWorld namelessWorld := evolves_after_replacedWorld _
  generalize namelessWorld = w at isHandler isNameless later ⊢
  obtain ⟨⟨slot, code⟩, found, reads⟩ := (Option.any_eq_true _ _).1 isHandler
  obtain rfl := NativeCode.eq_readMember (of_decide_eq_true reads)
  refine ⟨slot, _, _, evolves_keptWorld, live_keptWorld, evolves_replacedWorld, released_replacedWorld, later,
    Callee.eq_ready found, Action.run_of_failure? isNameless, fun t same => ?_⟩
  have first : some 'N' = some 'U' := by
    rw [← BridgeError.head?_message_unresolvedHandle t, ← same]
    decide +kernel
  exact absurd first (by decide)

end ScriptHost
