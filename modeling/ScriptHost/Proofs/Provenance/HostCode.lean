import ScriptHost.Proofs.Provenance.Evaluator
/-!
# Host code keeps to known descriptors

Here the descriptors travel: out of the stores, through arguments, results and receivers, and into the
stores again.  A new object takes the descriptor that its type is registered with; a new handle takes the
tag of the descriptor.
-/

namespace ScriptHost

open Yields

variable {known : TypeDescriptor → Prop}

theorem HandleEntry.isFrom_toValue {entry : HandleEntry} (isKnown : known entry.descriptor) :
    entry.toValue.IsFrom known := by
  cases entry <;> exact isKnown

namespace Session

theorem IsFrom.of_same {s s' : Session} (isFrom : s.IsFrom known) (types : s'.types = s.types)
    (surfaces : s'.surfaces = s.surfaces) (handles : s'.handles = s.handles) : s'.IsFrom known :=
  ⟨by rw [types]; exact isFrom.types, by rw [surfaces]; exact isFrom.surfaces,
    by rw [handles]; exact isFrom.handles⟩

/-- What a token resolves to is known. -/
theorem IsFrom.resolve {s : Session} (isFrom : s.IsFrom known) {t : Token} {entry : HandleEntry}
    (resolved : s.handles.resolve t = .ok entry) : known entry.descriptor := by
  rw [HandleStore.resolve_eq] at resolved
  cases live : s.handles.get? t with
  | none =>
    rw [live] at resolved
    cases resolved
  | some entry' =>
    rw [live] at resolved
    cases resolved
    exact (isFrom.handles.get? live).1

theorem IsFrom.resolveValue {s : Session} (isFrom : s.IsFrom known) {t : Token} {v : HostValue}
    (resolved : s.resolve t = .ok v) : v.IsFrom known := by
  rw [Session.resolve] at resolved
  cases found : s.handles.resolve t with
  | error e =>
    rw [found] at resolved
    cases resolved
  | ok entry =>
    rw [found] at resolved
    cases resolved
    exact HandleEntry.isFrom_toValue (isFrom.resolve found)

/-- An object is wrapped with the descriptor that its type is registered with. -/
theorem IsFrom.wrap? {s : Session} (isFrom : s.IsFrom known) {type : RecordType} {record : Nat}
    {o : HostObject} (wrapped : s.wrap? type record = .ok o) : known o.descriptor := by
  rw [Session.wrap?] at wrapped
  cases registered : s.types.lookup type with
  | none =>
    rw [registered] at wrapped
    cases wrapped
  | some d =>
    rw [registered] at wrapped
    cases wrapped
    exact isFrom.types type d registered

end Session

namespace Yields

/-! ## Borrowing -/

theorem checkBorrow (isExclusive : Bool) (o : HostObject) :
    KeepsTo known (Bridge.checkBorrow isExclusive o) := by
  refine (lookAtHost _).seq fun r _ => ?_
  cases r.borrow.admit? isExclusive with
  | some _ => exact value trivial
  | none => exact fail _

theorem checkType (o : HostObject) (type : RecordType) : KeepsTo known (Bridge.checkType o type) := by
  refine (lookAtHost _).seq fun r _ => ?_
  by_cases different : r.type ≠ type
  · rw [if_pos different]
    exact fail _
  · rw [if_neg different]
    exact value trivial

theorem record (i : Nat) :
    Yields known (Record.IsFrom known) (World.askHost (·.record i) : Bridge Record) :=
  askHost fun _ isFrom => isFrom.records i

theorem putEntry (i : Nat) (key : String) {v : HostValue} (good : v.IsFrom known) :
    KeepsTo known (World.changeHost fun h => h.setRecord i ((h.record i).put key v) : Bridge Unit) :=
  changeHost fun _ isFrom => isFrom.setRecord i ((isFrom.records i).put key good)

theorem readEntry (o : HostObject) (key : String) :
    Yields known (HostValue.IsFrom known) (Bridge.readEntry o key) :=
  (checkBorrow false o).seq fun _ _ => (record o.record).seq fun _ good => value (good key)

theorem writeEntry (o : HostObject) (key : String) {v : HostValue} (good : v.IsFrom known) :
    KeepsTo known (Bridge.writeEntry o key v) :=
  (checkBorrow true o).seq fun _ _ => putEntry o.record key good

theorem holding {α : Type} {good : α → Prop} (isExclusive : Bool) (o : HostObject) {x : Bridge α}
    (yields : Yields known good x) : Yields known good (Bridge.holding isExclusive o x) := by
  refine (record o.record).seq fun r isFrom => ?_
  cases r.borrow.admit? isExclusive with
  | none => exact fail _
  | some borrow =>
    -- The guard of the record changes twice, and its entries do not.
    refine (changeHost fun h hostFrom => hostFrom.setRecord _ ?_).seq fun _ _ =>
      yields.attempt.seq fun result good => Yields.seq (changeHost fun h hostFrom => hostFrom.setRecord _ ?_)
        fun _ _ => ofExcept good
    · exact isFrom.of_entries rfl
    · exact (hostFrom.records o.record).of_entries rfl

/-! ## Script functions -/

theorem functionReference (number : Nat) : KeepsTo known (Bridge.functionReference number) := by
  refine (lookAtHost _).seq fun r _ => ?_
  cases r with
  | some reference => exact value trivial
  | none => exact fail _

theorem adoptFunction (reference : Nat) :
    Yields known (HostValue.IsFrom known) (Bridge.adoptFunction reference) := by
  have counted : KeepsTo known
      (World.changeSession fun s => { s with liveFunctions := s.liveFunctions + 1 } : Bridge Unit) :=
    changeSession (fun _ isFrom => isFrom.of_same rfl rfl rfl) fun _ => rfl
  have taken : KeepsTo known (World.onHost (·.newFunction reference) : Bridge Nat) :=
    onHost fun _ isFrom => ⟨isFrom.of_same rfl rfl rfl, trivial⟩
  exact counted.seq fun _ _ => taken.seq fun _ _ => value trivial

theorem disposeFunction (number : Nat) : KeepsTo known (Bridge.disposeFunction number) := by
  have counted : KeepsTo known
      (World.changeSession fun s => { s with liveFunctions := s.liveFunctions - 1 } : Bridge Unit) :=
    changeSession (fun _ isFrom => isFrom.of_same rfl rfl rfl) fun _ => rfl
  have disposed : KeepsTo known (World.changeHost (·.disposeFunction number) : Bridge Unit) :=
    changeHost fun _ isFrom => isFrom.of_same rfl rfl rfl
  exact (functionReference number).seq fun _ _ => disposed.seq fun _ _ => (changeMachine _).seq fun _ _ => counted

/-! ## Pushing -/

/-- A handle is issued under the tag of the descriptor. -/
theorem alloc {entry : HandleEntry} (isKnown : known entry.descriptor) :
    KeepsTo known (Bridge.alloc entry entry.descriptor.tag) := by
  have issued : KeepsTo known (World.onSession fun s =>
      ((s.handles.alloc entry entry.descriptor.tag).1,
        { s with handles := (s.handles.alloc entry entry.descriptor.tag).2 }) :
      Bridge (Except BridgeError Token)) :=
    onSession (fun _ isFrom => ⟨⟨isFrom.types, isFrom.surfaces, isFrom.handles.alloc isKnown⟩, trivial⟩)
      fun _ => rfl
  exact issued.seq fun _ _ => ofRules fun _ _ => trivial

theorem pushPinned (t : Token) : KeepsTo known (Bridge.pushPinned t) := by
  refine (lookAtSession _).seq fun reference _ => ?_
  cases reference with
  | none => exact value trivial
  | some reference =>
    exact (onMachine _).seq fun _ _ => whenTrue _ (value trivial) ((changeMachine _).seq fun _ _ => value trivial)

theorem pushProxy (t : Token) (typeName : String) : KeepsTo known (Bridge.pushProxy t typeName) :=
  (pushPinned t).seq fun _ _ => whenTrue _ (value trivial) <|
    (changeMachine _).seq fun _ _ => (onMachine _).seq fun _ _ =>
      changeSession (fun _ isFrom => isFrom.of_same rfl rfl rfl) fun _ => rfl

theorem objectToken {o : HostObject} (isKnown : known o.descriptor) :
    KeepsTo known (Bridge.objectToken o) := by
  refine (lookAtSession _).seq fun t _ => ?_
  cases t with
  | some t => exact value trivial
  | none =>
    have issued : KeepsTo known (Bridge.alloc (.object o) o.descriptor.tag) := alloc isKnown
    exact issued

theorem surfaceToken {s : Surface} (isKnown : known s.descriptor) :
    KeepsTo known (Bridge.surfaceToken s) := by
  refine (lookAtSession _).seq fun handles _ => (lookAtHost _).seq fun t _ => ?_
  cases t.filter fun t => (handles.get? t).isSome with
  | some t => exact value trivial
  | none =>
    have issued : KeepsTo known (Bridge.alloc (.surface s) s.descriptor.tag) := alloc isKnown
    have published (t : Token) : KeepsTo known
        (World.changeHost (·.setPublishedToken s t) : Bridge Unit) :=
      changeHost fun _ isFrom => isFrom.of_same rfl rfl rfl
    exact issued.seq fun t _ => (published t).seq fun _ _ => value trivial

theorem push {v : HostValue} (good : v.IsFrom known) : KeepsTo known (Bridge.push v) := by
  -- Of all values only objects and surfaces have a descriptor to pass on.
  cases v with
  | object o => exact (objectToken good).seq fun t _ => pushProxy t _
  | surface s => exact (surfaceToken good).seq fun t _ => pushProxy t _
  | function number =>
    exact (functionReference number).seq fun _ _ => (onMachine _).seq fun _ _ => value trivial
  | _ => exact aloof fun _ => ⟨rfl, rfl⟩

theorem pushAll (size : Int) {vs : List HostValue} (good : ∀ v ∈ vs, v.IsFrom known) :
    KeepsTo known (Bridge.pushAll size vs) := by
  induction vs with
  | nil => exact value trivial
  | cons v vs ih =>
    obtain ⟨first, rest⟩ := List.forall_mem_cons.1 good
    refine (push first).attempt.seq fun result _ => ?_
    cases result with
    | ok _ => exact ih rest
    | error r => exact (changeMachine _).seq fun _ _ => failure r

/-! ## Reading -/

theorem resolve (t : Token) : Yields known (HostValue.IsFrom known) (Bridge.resolve t) := by
  have asked : Yields known (fun r => ∀ v, r = .ok v → v.IsFrom known)
      (World.askSession (·.resolve t) : Bridge (Except BridgeError HostValue)) :=
    askSession fun _ isFrom _ same => isFrom.resolveValue same
  exact asked.seq fun _ good => ofRules good

theorem read (i : Int) : Yields known (HostValue.IsFrom known) (Bridge.read i) := by
  refine (askMachine _).seq fun slot _ => ?_
  cases slot with
  | function f =>
    cases f with
    | slot slot => exact (onMachine _).seq fun reference _ => adoptFunction reference
    | pinned reference => exact adoptFunction reference
  | handle t => exact resolve t
  | _ => exact value trivial

theorem readFrom (first : Int) (count : Nat) :
    Yields known (fun vs => ∀ v ∈ vs, v.IsFrom known) (Bridge.readFrom first count) := by
  induction count generalizing first with
  | zero => exact value fun _ member => by cases member
  | succ count ih =>
    exact (read first).seq fun _ good => (ih _).seq fun _ goods => value (List.forall_mem_cons.2 ⟨good, goods⟩)

theorem readArgs (first : Int) :
    Yields known (fun vs => ∀ v ∈ vs, v.IsFrom known) (Bridge.readArgs first) :=
  (askMachine _).seq fun _ _ => readFrom first _

theorem global (name : String) : Yields known (HostValue.IsFrom known) (Bridge.global name) :=
  (changeMachine _).seq fun _ _ => (read (-1)).attempt.seq fun _ good => (changeMachine _).seq fun _ _ =>
    ofExcept good

/-! ## Operations of host code -/

theorem toObject {v : HostValue} (good : v.IsFrom known) :
    Yields known (fun o => known o.descriptor) (Bridge.toObject v) :=
  ofRules fun o converted => by
    rw [Conversion.objectFromHost_ok converted] at good
    exact good

theorem toFunction (v : HostValue) : KeepsTo known (Bridge.toFunction v) := ofRules fun _ _ => trivial

theorem convert (c : Conversion) {v : HostValue} (good : v.IsFrom known) :
    Yields known (HostValue.IsFrom known) (Bridge.convert c v) :=
  ofRules fun _ converted => good.convert converted

theorem coerce (t : HostType) {v : HostValue} (good : v.IsFrom known) :
    Yields known (HostValue.IsFrom known) (Bridge.ofExcept (v.coerceOrMismatch t)) :=
  ofRules fun _ coerced => good.coerceOrMismatch coerced

theorem toCallable (v : HostValue) : KeepsTo known (Bridge.toCallable v) := by
  cases v with
  | callable f => exact value trivial
  | _ => exact fail _

theorem newRecord {r : Record} (good : r.IsFrom known) :
    KeepsTo known (World.onHost (·.newRecord r) : Bridge Nat) :=
  onHost fun _ isFrom => ⟨isFrom.newRecord good, trivial⟩

theorem newCallable (name : String) (returnsValue : Bool) (body : Expr) :
    KeepsTo known (World.onHost (·.newCallable name returnsValue body) : Bridge HostFunction) :=
  onHost fun _ isFrom => ⟨isFrom.of_same rfl rfl rfl, trivial⟩

theorem save (name : String) {v : HostValue} (good : v.IsFrom known) :
    KeepsTo known (World.changeHost (·.save name v) : Bridge Unit) :=
  changeHost fun _ isFrom => isFrom.save name good

theorem wrap (type : RecordType) (i : Nat) :
    Yields known (fun r => ∀ o, r = .ok o → known o.descriptor)
      (World.askSession (·.wrap? type i) : Bridge (Except BridgeError HostObject)) :=
  askSession fun _ isFrom _ wrapped => isFrom.wrap? wrapped

theorem wrapRecord (isStrict : Bool) {r : Record} (good : r.IsFrom known) :
    Yields known (HostValue.IsFrom known) (Bridge.wrapRecord isStrict r) := by
  refine (newRecord good).seq fun i _ => (wrap r.type i).seq fun result isKnown => ?_
  cases result with
  | ok o => exact value (isKnown o rfl)
  | error e => exact whenTrue isStrict (fail e) (value trivial)

end Yields

/-! ## Expressions -/

/-- Nothing that host code is called with or on has an unknown descriptor. -/
structure Scope.IsFrom (known : TypeDescriptor → Prop) (s : Scope) : Prop where
  args : ∀ v ∈ s.args, v.IsFrom known
  receiver : s.receiver.toValue.IsFrom known

theorem Scope.IsFrom.arg {s : Scope} (isFrom : s.IsFrom known) (i : Nat) : (s.arg i).IsFrom known := by
  rw [Scope.arg]
  cases found : s.args[i]? with
  | none => trivial
  | some v => exact isFrom.args v (List.mem_of_getElem? found)

/-- Host code that is called on nothing. -/
theorem Scope.isFrom_unbound {args : List HostValue} (good : ∀ v ∈ args, v.IsFrom known) :
    Scope.IsFrom known ⟨args, .none⟩ := ⟨good, trivial⟩

theorem Receiver.yields_read (key : String) (r : Receiver) :
    Yields known (HostValue.IsFrom known) (r.read key) := by
  cases r with
  | none => exact value trivial
  | object o => exact readEntry o key
  | borrowed i => exact (Yields.record i).seq fun _ good => value (good key)

theorem Receiver.yields_write (key : String) {v : HostValue} (good : v.IsFrom known) (r : Receiver) :
    KeepsTo known (r.write key v) := by
  cases r with
  | none => exact value trivial
  | object o => exact writeEntry o key good
  | borrowed i => exact putEntry i key good

theorem HostValue.isFrom_add (a b : HostValue) : (a.add b).IsFrom known := by
  unfold add
  split <;> trivial

theorem HostValue.IsFrom.returned {v : HostValue} (isFrom : v.IsFrom known) (returnsValue : Bool) :
    ∀ v' ∈ (if returnsValue then some v else none), v'.IsFrom known := by
  intro v' member
  cases returnsValue with
  | true =>
    cases member
    exact isFrom
  | false => cases member

theorem HostValue.isFrom_last {vs : List HostValue} (good : ∀ v ∈ vs, v.IsFrom known) :
    (vs.getLast?.getD .nil).IsFrom known := by
  cases last : vs.getLast? with
  | none => trivial
  | some v => exact good v (List.mem_of_getLast? last)

namespace Caller.Minds

variable {c : Caller}

theorem finishCall (minds : c.Minds known) (size : Int) (argCount : Nat) :
    Yields known (HostValue.IsFrom known) (Bridge.finishCall c size argCount) :=
  (reword _ (minds.call argCount 1 true)).seq fun _ _ => (Yields.read (-1)).attempt.seq fun _ good =>
    (changeMachine _).seq fun _ _ => ofExcept good

theorem callFunction (minds : c.Minds known) (number : Nat) {args : List HostValue}
    (good : ∀ v ∈ args, v.IsFrom known) :
    Yields known (HostValue.IsFrom known) (Bridge.callFunction c number args) :=
  (functionReference number).seq fun _ _ => (askMachine _).seq fun size _ => (onMachine _).seq fun _ _ =>
    (pushAll size good).seq fun _ _ => minds.finishCall size args.length

theorem say (minds : c.Minds known) (text : String) : KeepsTo known (Bridge.say c text) :=
  (changeMachine _).seq fun _ _ => (changeMachine _).seq fun _ _ => reword _ (minds.call 1 0 false)

theorem applyCallable (minds : c.Minds known) (f : HostFunction) {args : List HostValue}
    (good : ∀ v ∈ args, v.IsFrom known) :
    Yields known (HostValue.IsFrom known) (Bridge.applyCallable c f args) := by
  refine (minds.apply f args good).seq fun result isGood => ?_
  cases result with
  | some v => exact value (isGood v rfl)
  | none => exact value trivial

mutual

theorem eval (minds : c.Minds known) {s : Scope} (isFrom : s.IsFrom known) (e : Expr) :
    Yields known (HostValue.IsFrom known) (e.eval c s) := by
  -- Descriptors come in by arguments, the receiver, records, variables, handles and new objects; what is
  -- computed from other values has none.
  cases e with
  | literal l => exact askHost fun _ isFrom => isFrom.literal l
  | arg i => exact value (isFrom.arg i)
  | argAs i conv => exact Yields.convert conv (isFrom.arg i)
  | argCount => exact value trivial
  | convert e conv => exact (minds.eval isFrom e).seq fun _ good => Yields.convert conv good
  | coerce e t => exact (minds.eval isFrom e).seq fun _ good => Yields.coerce t good
  | isOf e t => exact (minds.eval isFrom e).seq fun _ _ => value trivial
  | this => exact value isFrom.receiver
  | get key => exact s.receiver.yields_read key
  | put key e =>
    exact (minds.eval isFrom e).seq fun _ good => (s.receiver.yields_write key good).seq fun _ _ => value good
  | peek e type key =>
    exact (minds.eval isFrom e).seq fun _ good => (toObject good).seq fun o _ => (checkBorrow false o).seq
      fun _ _ => (checkType o type).seq fun _ _ => readEntry o key
  | poke e type key v =>
    exact (minds.eval isFrom e).seq fun _ good => (toObject good).seq fun o _ => (minds.eval isFrom v).seq
      fun _ good => (checkBorrow true o).seq fun _ _ => (checkType o type).seq fun _ _ =>
        (writeEntry o key good).seq fun _ _ => value good
  | isRecord e type =>
    exact (minds.eval isFrom e).seq fun _ good => (toObject good).seq fun o _ => (lookAtHost _).seq fun _ _ =>
      value trivial
  | hold isExclusive e type body =>
    exact (minds.eval isFrom e).seq fun _ good => (toObject good).seq fun o _ =>
      (checkBorrow isExclusive o).seq fun _ _ => (checkType o type).seq fun _ _ =>
        holding isExclusive o (minds.eval isFrom body)
  | call f args =>
    exact (minds.eval isFrom f).seq fun v _ => (toFunction v).seq fun number _ =>
      (minds.evalAll isFrom args).seq fun _ goods => minds.callFunction number goods
  | callAs f conv args =>
    exact (minds.eval isFrom f).seq fun v _ => (toFunction v).seq fun number _ =>
      (minds.evalAll isFrom args).seq fun _ goods => (minds.callFunction number goods).seq fun _ good =>
        Yields.convert conv good
  | dispose f =>
    exact (minds.eval isFrom f).seq fun v _ => (toFunction v).seq fun number _ =>
      (disposeFunction number).seq fun _ _ => value trivial
  | isDisposed f =>
    exact (minds.eval isFrom f).seq fun v _ => (toFunction v).seq fun number _ =>
      (lookAtHost _).seq fun _ _ => value trivial
  | invoke f args =>
    exact (minds.eval isFrom f).seq fun v _ => (toCallable v).seq fun f _ =>
      (minds.evalAll isFrom args).seq fun _ goods => minds.applyCallable f goods
  | callable name returnsValue body =>
    exact (newCallable name returnsValue body).seq fun _ _ => value trivial
  | wrap isStrict type entries =>
    exact (minds.evalEntries isFrom (Record.isFrom_blank type) entries).seq fun _ good =>
      wrapRecord isStrict good
  | panic text => exact failure _
  | fail e => exact Yields.fail e
  | machine ops => exact (reword _ (minds.runOps false ops)).seq fun _ _ => value trivial
  | global name => exact Yields.global name
  | say e => exact (minds.eval isFrom e).seq fun v _ => (minds.say _).seq fun _ _ => value trivial
  | push e => exact (minds.eval isFrom e).seq fun _ good => (Yields.push good).seq fun _ _ => value trivial
  | readArg i => exact Yields.read i
  | resolve t => exact Yields.resolve t
  | liveHandles => exact (lookAtSession _).seq fun _ _ => value trivial
  | save var e =>
    exact (minds.eval isFrom e).seq fun _ good => (Yields.save var good).seq fun _ _ => value good
  | add e₁ e₂ =>
    exact (minds.eval isFrom e₁).seq fun a _ => (minds.eval isFrom e₂).seq fun b _ => value (a.isFrom_add b)
  | cat es => exact (minds.evalAll isFrom es).seq fun _ _ => value trivial
  | eq e₁ e₂ => exact (minds.eval isFrom e₁).seq fun _ _ => (minds.eval isFrom e₂).seq fun _ _ => value trivial
  | typeName e => exact (minds.eval isFrom e).seq fun _ _ => value trivial
  | inspect e => exact (minds.eval isFrom e).seq fun _ _ => value trivial
  | inspectInner e => exact (minds.eval isFrom e).seq fun _ _ => (lookAtHost _).seq fun _ _ => value trivial
  | log e =>
    exact (minds.eval isFrom e).seq fun _ good => (lookAtHost _).seq fun _ _ => (emit _).seq fun _ _ =>
      value good
  | attempt e =>
    refine (minds.eval isFrom e).attempt.seq fun result good => ?_
    rcases result with (e | text) | v
    · exact value trivial
    · exact failure _
    · exact value (good v rfl)
  | seq es => exact (minds.evalAll isFrom es).seq fun _ goods => value (HostValue.isFrom_last goods)
termination_by sizeOf e

theorem evalAll (minds : c.Minds known) {s : Scope} (isFrom : s.IsFrom known) (es : List Expr) :
    Yields known (fun vs => ∀ v ∈ vs, v.IsFrom known) (Expr.evalAll c s es) := by
  cases es with
  | nil => exact value fun _ member => by cases member
  | cons e es =>
    exact (minds.eval isFrom e).seq fun _ good => (minds.evalAll isFrom es).seq fun _ goods =>
      value (List.forall_mem_cons.2 ⟨good, goods⟩)
termination_by sizeOf es

theorem evalEntries (minds : c.Minds known) {s : Scope} (isFrom : s.IsFrom known) {r : Record}
    (start : r.IsFrom known) (es : List (String × Expr)) :
    Yields known (Record.IsFrom known) (Expr.evalEntries c s r es) := by
  cases es with
  | nil => exact value start
  | cons entry es =>
    obtain ⟨key, e⟩ := entry
    exact (minds.eval isFrom e).seq fun _ good => minds.evalEntries isFrom (start.put key good) es
termination_by sizeOf es

end

theorem invokeFunction (minds : c.Minds known) (f : HostFunction) {args : List HostValue}
    (good : ∀ v ∈ args, v.IsFrom known) :
    Yields known (fun result => ∀ v ∈ result, v.IsFrom known) (HostFunction.invoke c f args) :=
  (minds.eval (Scope.isFrom_unbound good) f.body).seq fun _ good =>
    value (good.returned f.returnsValue)

end Caller.Minds

end ScriptHost
