import ScriptHost.Proofs.Discipline.Basic
/-!
# Host code keeps every discipline of hosts

The bridge, host expressions and members, for any discipline of hosts and any callers that serve host code
by it (`HostDiscipline.Serves`).

What host code is called with it is handed as a list.  It can reach into its frame nonetheless, if it reads
a slot or drives the machine itself (`Expr.usesSlots`), and only then does a discipline have to put up with
that.
-/

namespace ScriptHost

/-! ## Operations of the host -/

namespace Record

variable (r : Record) (key : String) (v : HostValue)

theorem borrow_set {r' : Record} (accepted : r.set key v = .ok r') : r'.borrow = r.borrow := by
  rw [set] at accepted
  cases stored : r.type.storage.accept key v with
  | error e =>
    rw [stored] at accepted
    cases accepted
  | ok v' =>
    rw [stored] at accepted
    cases accepted
    rfl

@[simp] theorem borrow_put : (r.put key v).borrow = r.borrow := by
  rw [put]
  cases accepted : r.set key v with
  | error e => rfl
  | ok r' => exact r.borrow_set key v accepted

end Record

namespace HostStore

theorem guards_setRecord (h : HostStore) (i : Nat) (r : Record) (j : Nat) :
    (h.setRecord i r).guards j = if i = j ∧ i < h.records.size then r.borrow else h.guards j := by
  simp only [guards, record, setRecord, Array.getElem?_setIfInBounds]
  by_cases same : i = j
  · subst same
    by_cases inside : i < h.records.size
    · simp [inside]
    · simp [inside]
  · simp [same]

/-- A record is replaced by one with the same guard. -/
theorem guards_setRecord_of_eq {h : HostStore} {i : Nat} {r : Record} (same : r.borrow = h.guards i) :
    (h.setRecord i r).guards = h.guards := by
  funext j
  rw [guards_setRecord]
  split
  · rename_i here
    rw [same, here.1]
  · rfl

theorem guards_newRecord (h : HostStore) {r : Record} (free : r.borrow = .free) :
    (h.newRecord r).2.guards = h.guards := by
  funext j
  simp only [guards, record, newRecord, Array.getElem?_push]
  by_cases new : j = h.records.size
  · -- There was no record of this number yet, which is as good as a free one.
    rw [if_pos new, Array.getElem?_eq_none (Nat.le_of_eq new.symm)]
    exact free
  · rw [if_neg new]

variable (i : Nat) (name : String) (v : HostValue)

theorem isPlain_setRecord (r : HostStore → Record) : IsPlain fun h => ((), h.setRecord i (r h)) :=
  fun _ => ⟨rfl, fun _ => rfl, Nat.le_refl _⟩

theorem isOrdinary_setRecord {r : HostStore → Record} (same : ∀ h, (r h).borrow = h.guards i) :
    IsOrdinary fun h => ((), h.setRecord i (r h)) :=
  ⟨isPlain_setRecord i r, fun h => guards_setRecord_of_eq (same h)⟩

theorem isOrdinary_put (key : String) :
    IsOrdinary fun h => ((), h.setRecord i ((h.record i).put key v)) :=
  isOrdinary_setRecord i fun h => (h.record i).borrow_put key v

theorem isOrdinary_setCell : IsOrdinary fun h => ((), h.setCell i v) :=
  ⟨fun _ => ⟨rfl, fun _ => rfl, Nat.le_refl _⟩, fun _ => rfl⟩

theorem isOrdinary_save : IsOrdinary fun h => ((), h.save name v) :=
  ⟨fun _ => ⟨rfl, fun _ => rfl, Nat.le_refl _⟩, fun _ => rfl⟩

theorem isOrdinary_newRecord {r : Record} (free : r.borrow = .free) : IsOrdinary (·.newRecord r) :=
  ⟨fun _ => ⟨rfl, fun _ => rfl, Nat.le_refl _⟩, fun h => h.guards_newRecord free⟩

theorem isOrdinary_newCallable (returnsValue : Bool) (body : Expr) :
    IsOrdinary (·.newCallable name returnsValue body) :=
  ⟨fun _ => ⟨rfl, fun _ => rfl, Nat.le_refl _⟩, fun _ => rfl⟩

/-- Sets an entry of a dictionary, and says whether it is new, unless its storage refuses the value. -/
def setEntry (h : HostStore) (i : Nat) (key : String) (v : HostValue) :
    Except BridgeError WriteOutcome × HostStore :=
  match (h.record i).set key v with
  | .ok r => (.ok (if (h.record i).entries.contains key then .assigned else .inserted), h.setRecord i r)
  | .error e => (.error e, h)

theorem isOrdinary_setEntry (key : String) : IsOrdinary fun h => h.setEntry i key v := by
  refine ⟨fun h => ?_, fun h => ?_⟩
  · rw [setEntry]
    cases (h.record i).set key v with
    | error e => exact ⟨rfl, fun _ => rfl, Nat.le_refl _⟩
    | ok r => exact ⟨rfl, fun _ => rfl, Nat.le_refl _⟩
  · rw [setEntry]
    cases accepted : (h.record i).set key v with
    | error e => rfl
    | ok r => exact guards_setRecord_of_eq ((h.record i).borrow_set key v accepted)

end HostStore

open World in
theorem HostObject.writeDictionary_eq (o : HostObject) (key : String) (v : HostValue) :
    o.writeDictionary key v = (do
      Bridge.checkBorrow true o
      Bridge.ofExcept (← onHost fun h => h.setEntry o.record key v)) := by
  refine congrArg (Bridge.checkBorrow true o >>= ·) (funext fun _ => ?_)
  funext w
  show (askHost (·.record o.record) >>= fun r => Bridge.ofExcept (r.set key v) >>= _ : Bridge _).run w =
    (onHost (fun h => h.setEntry o.record key v) >>= Bridge.ofExcept : Bridge _).run w
  simp only [Action.run_bind, run_askHost, run_onHost, HostStore.setEntry]
  cases (w.host.record o.record).set key v <;> rfl

/-- The entries of a new record are put into it, which leaves it as free as it was. -/
theorem Expr.borrow_evalEntries {c : Caller} {s : Scope} {entries : List (String × Expr)} {r r' : Record}
    {w w' : World} (ran : (evalEntries c s r entries).run w = (.value r', w')) : r'.borrow = r.borrow := by
  induction entries generalizing r w with
  | nil =>
    cases ran
    rfl
  | cons entry rest ih =>
    obtain ⟨key, e⟩ := entry
    rw [evalEntries, Action.run_bind] at ran
    rcases evaluated : (eval c s e).run w with ⟨v | _ | _, w₁⟩ <;> rw [evaluated] at ran
    · exact (ih ran).trans (r.borrow_put key v)
    · cases ran
    · cases ran

/-- What is done with a new record is done with a free one. -/
theorem Expr.evalEntries_bind {α : Type} (c : Caller) (s : Scope) (type : RecordType)
    (entries : List (String × Expr)) (k : Record → Bridge α) :
    evalEntries c s (.blank type) entries >>= k =
      evalEntries c s (.blank type) entries >>= fun r => k { r with borrow := .free } := by
  funext w
  show (evalEntries c s (.blank type) entries >>= k).run w =
    (evalEntries c s (.blank type) entries >>= fun r => k { r with borrow := .free }).run w
  rw [Action.run_bind, Action.run_bind]
  rcases ran : (evalEntries c s (.blank type) entries).run w with ⟨r | _ | _, w'⟩
  · have free : r.borrow = .free := borrow_evalEntries ran
    show (k r).run w' = (k { r with borrow := .free }).run w'
    rw [← free]
  · rfl
  · rfl

/-! ## Reaching into the frame -/

namespace Expr

mutual

/-- Whether the code reads a slot of its frame or drives the machine, beside what it calls. -/
def usesSlots : Expr → Bool
  | .machine _ | .readArg _ => true
  | .convert e _ | .coerce e _ | .isOf e _ | .put _ e | .peek e _ _ | .isRecord e _ | .dispose e
  | .isDisposed e | .say e | .push e | .save _ e | .typeName e | .inspect e | .inspectInner e | .log e
  | .attempt e => e.usesSlots
  | .poke e₁ _ _ e₂ | .hold _ e₁ _ e₂ | .add e₁ e₂ | .eq e₁ e₂ => e₁.usesSlots || e₂.usesSlots
  | .call f args | .callAs f _ args | .invoke f args => f.usesSlots || anyUsesSlots args
  | .cat es | .seq es => anyUsesSlots es
  | .wrap _ _ entries => entriesUseSlots entries
  | .literal _ | .arg _ | .argAs _ _ | .argCount | .this | .get _ | .callable _ _ _ | .panic _ | .fail _
  | .global _ | .resolve _ | .liveHandles => false

def anyUsesSlots : List Expr → Bool
  | [] => false
  | e :: es => e.usesSlots || anyUsesSlots es

def entriesUseSlots : List (String × Expr) → Bool
  | [] => false
  | (_, e) :: es => e.usesSlots || entriesUseSlots es

end

end Expr

/-- Whether code that a call of the member may run reaches into the frame of the call. -/
def Target.usesSlots (name : String) : Target → Bool
  | object o => ((o.descriptor.methods.get? name).getD []).any (·.body.usesSlots)
  | surface s =>
    match s.member name with
    | some (.method overloads) => overloads.any (·.body.usesSlots)
    | some .constructor => s.descriptor.constructors.any fun k => Expr.entriesUseSlots k.entries
    | _ => false

namespace HostDiscipline

open World HostStore

variable {D : HostDiscipline} {c c' : Caller}

/-! ## Borrowing -/

theorem fail {α : Type} (e : BridgeError) : D.Keeps (Bridge.fail e : Bridge α) := D.failure _

theorem ofRules {α : Type} (r : Except BridgeError α) : D.Keeps (Bridge.ofExcept r) :=
  D.reword _ (D.ofExcept r)

theorem checkBorrow (isExclusive : Bool) (o : HostObject) :
    D.Keeps (Bridge.checkBorrow isExclusive o) := by
  refine D.seq (D.askHost _) fun r => ?_
  cases r.borrow.admit? isExclusive with
  | some _ => exact D.value _
  | none => exact fail _

theorem checkType (o : HostObject) (type : RecordType) : D.Keeps (Bridge.checkType o type) := by
  refine D.seq (D.askHost _) fun r => ?_
  by_cases different : r.type ≠ type
  · rw [if_pos different]
    exact fail _
  · rw [if_neg different]
    exact D.value _

theorem readEntry (o : HostObject) (key : String) : D.Keeps (Bridge.readEntry o key) :=
  D.seq (checkBorrow false o) fun _ => D.seq (D.askHost _) fun _ => D.value _

theorem writeEntry (o : HostObject) (key : String) (v : HostValue) :
    D.Keeps (Bridge.writeEntry o key v) :=
  D.seq (checkBorrow true o) fun _ => D.changeHost (isOrdinary_put o.record v key)

/-! ## Values across the bridge -/

theorem resolve (t : Token) : D.Keeps (Bridge.resolve t) :=
  D.seq (D.askSession _) fun _ => ofRules _

theorem functionReference (number : Nat) : D.Keeps (Bridge.functionReference number) := by
  refine D.seq (D.askHost _) fun r => ?_
  cases r with
  | some reference => exact D.value _
  | none => exact fail _

theorem wrapRecord (isStrict : Bool) {r : Record} (free : r.borrow = .free) :
    D.Keeps (Bridge.wrapRecord isStrict r) := by
  refine D.seq (D.ordinary (isOrdinary_newRecord free)) fun record => D.seq (D.askSession _) fun result => ?_
  cases result with
  | ok o => exact D.value _
  | error e => exact D.whenTrue isStrict (fun _ => fail e) fun _ => D.value _

theorem toCallable (v : HostValue) : D.Keeps (Bridge.toCallable v) := by
  cases v with
  | callable f => exact D.value f
  | _ => exact fail _

theorem receiver_read (key : String) (r : Receiver) : D.Keeps (r.read key) := by
  cases r with
  | none => exact D.value _
  | object o => exact readEntry o key
  | borrowed record => exact D.seq (D.askHost _) fun _ => D.value _

theorem receiver_write (key : String) (v : HostValue) (r : Receiver) : D.Keeps (r.write key v) := by
  cases r with
  | none => exact D.value _
  | object o => exact writeEntry o key v
  | borrowed record => exact D.changeHost (isOrdinary_put record v key)

/-- What the callers do for host code is related, where host code may use the slots of its frame only on a
    condition. -/
structure Serves (D : HostDiscipline) (slots : Prop) (c c' : Caller) : Prop where
  callFunction : ∀ number args,
    D.Relates (Bridge.callFunction c number args) (Bridge.callFunction c' number args)
  apply : ∀ f args, D.Relates (c.apply f args) (c'.apply f args)
  global : ∀ name, D.Keeps (Bridge.global name)
  say : ∀ text, D.Relates (Bridge.say c text) (Bridge.say c' text)
  machine : slots → ∀ ops, D.Relates (Op.runAll c false ops) (Op.runAll c' false ops)
  readArg : slots → ∀ i, D.Keeps (Bridge.read i)

namespace Serves

variable {slots : Prop}

/-- What is granted to two pieces of code is granted to the first. -/
theorem left {a b : Bool} (granted : (a || b) = true → slots) : a = true → slots :=
  fun used => granted (Bool.or_eq_true_iff.2 (.inl used))

theorem right {a b : Bool} (granted : (a || b) = true → slots) : b = true → slots :=
  fun used => granted (Bool.or_eq_true_iff.2 (.inr used))

theorem applyCallable (serves : D.Serves slots c c') (f : HostFunction) (args : List HostValue) :
    D.Relates (Bridge.applyCallable c f args) (Bridge.applyCallable c' f args) := by
  refine D.seq (serves.apply f args) fun result => ?_
  cases result <;> exact D.value _

/-! ## Expressions -/

mutual

theorem eval (serves : D.Serves slots c c') (s : Scope) (e : Expr)
    (granted : e.usesSlots = true → slots) :
    D.Relates (e.eval c s) (e.eval c' s) := by
  cases e with
  | literal l => exact D.askHost _
  | arg i => exact D.value _
  | argAs i conv => exact ofRules _
  | argCount => exact D.value _
  | convert e conv => exact D.seq (serves.eval s e granted) fun _ => ofRules _
  | coerce e t => exact D.seq (serves.eval s e granted) fun _ => ofRules _
  | isOf e t => exact D.seq (serves.eval s e granted) fun _ => D.value _
  | this => exact D.value _
  | get key => exact receiver_read key s.receiver
  | put key e =>
    exact D.seq (serves.eval s e granted) fun v => D.seq (receiver_write key v s.receiver) fun _ => D.value _
  | peek e type key =>
    exact D.seq (serves.eval s e granted) fun _ => D.seq (ofRules _) fun o =>
      D.seq (checkBorrow false o) fun _ => D.seq (checkType o type) fun _ => readEntry o key
  -- Evaluating the value may borrow the record, so whether it may be written is looked at after that.
  | poke e type key value =>
    exact D.seq (serves.eval s e (left granted)) fun _ => D.seq (ofRules _) fun o =>
      D.seq (serves.eval s value (right granted)) fun v => D.seq (checkBorrow true o) fun _ =>
        D.seq (checkType o type) fun _ => D.seq (writeEntry o key v) fun _ => D.value _
  | isRecord e type =>
    exact D.seq (serves.eval s e granted) fun _ => D.seq (ofRules _) fun o =>
      D.seq (D.askHost _) fun _ => D.value _
  | hold isExclusive e type body =>
    exact D.seq (serves.eval s e (left granted)) fun _ => D.seq (ofRules _) fun o =>
      D.seq (checkBorrow isExclusive o) fun _ => D.seq (checkType o type) fun _ =>
        D.holding isExclusive o (serves.eval s body (right granted))
  | call f args =>
    exact D.seq (serves.eval s f (left granted)) fun _ => D.seq (ofRules _) fun number =>
      D.seq (serves.evalAll s args (right granted)) fun args => serves.callFunction number args
  | callAs f conv args =>
    exact D.seq (serves.eval s f (left granted)) fun _ => D.seq (ofRules _) fun number =>
      D.seq (serves.evalAll s args (right granted)) fun args =>
        D.seq (serves.callFunction number args) fun _ => ofRules _
  | dispose f =>
    exact D.seq (serves.eval s f granted) fun _ => D.seq (ofRules _) fun number =>
      D.seq (D.disposeFunction number) fun _ => D.value _
  | isDisposed f =>
    exact D.seq (serves.eval s f granted) fun _ => D.seq (ofRules _) fun number =>
      D.seq (D.askHost _) fun _ => D.value _
  | invoke f args =>
    exact D.seq (serves.eval s f (left granted)) fun v => D.seq (toCallable v) fun f =>
      D.seq (serves.evalAll s args (right granted)) fun args => serves.applyCallable f args
  | callable name returnsValue body =>
    exact D.seq (D.ordinary (isOrdinary_newCallable name returnsValue body)) fun _ => D.value _
  | wrap isStrict type entries =>
    show D.Relates (Expr.evalEntries c s (.blank type) entries >>= Bridge.wrapRecord isStrict)
      (Expr.evalEntries c' s (.blank type) entries >>= Bridge.wrapRecord isStrict)
    rw [Expr.evalEntries_bind c, Expr.evalEntries_bind c']
    exact D.seq (serves.evalEntries s (.blank type) entries granted) fun r => wrapRecord isStrict rfl
  | panic text => exact D.failure _
  | fail e => exact HostDiscipline.fail e
  -- What follows up to the slots of the frame is all for which anything has to be granted.
  | machine ops => exact D.seq (D.reword _ (serves.machine (granted rfl) ops)) fun _ => D.value _
  | global name => exact serves.global name
  | say e => exact D.seq (serves.eval s e granted) fun v => D.seq (serves.say _) fun _ => D.value _
  | push e => exact D.seq (serves.eval s e granted) fun v => D.seq (D.push v) fun _ => D.value _
  | readArg i => exact serves.readArg (granted rfl) i
  | resolve t => exact HostDiscipline.resolve t
  | liveHandles => exact D.seq (D.askSession _) fun _ => D.value _
  | save var e =>
    exact D.seq (serves.eval s e granted) fun v =>
      D.seq (D.changeHost (isOrdinary_save var v)) fun _ => D.value _
  | add e₁ e₂ =>
    exact D.seq (serves.eval s e₁ (left granted)) fun _ =>
      D.seq (serves.eval s e₂ (right granted)) fun _ => D.value _
  | cat es => exact D.seq (serves.evalAll s es granted) fun _ => D.value _
  | eq e₁ e₂ =>
    exact D.seq (serves.eval s e₁ (left granted)) fun _ =>
      D.seq (serves.eval s e₂ (right granted)) fun _ => D.value _
  | typeName e => exact D.seq (serves.eval s e granted) fun _ => D.value _
  | inspect e => exact D.seq (serves.eval s e granted) fun _ => D.value _
  | inspectInner e => exact D.seq (serves.eval s e granted) fun _ => D.seq (D.askHost _) fun _ => D.value _
  | log e =>
    exact D.seq (serves.eval s e granted) fun v => D.seq (D.askHost _) fun _ =>
      D.seq (D.emit _) fun _ => D.value _
  | attempt e =>
    -- An error is caught and a panic goes on.
    refine D.seq (D.attempt (serves.eval s e granted)) fun result => ?_
    rcases result with (e | text) | v
    · exact D.value _
    · exact D.failure _
    · exact D.value _
  | seq es => exact D.seq (serves.evalAll s es granted) fun _ => D.value _
termination_by sizeOf e

theorem evalAll (serves : D.Serves slots c c') (s : Scope) (es : List Expr)
    (granted : Expr.anyUsesSlots es = true → slots) :
    D.Relates (Expr.evalAll c s es) (Expr.evalAll c' s es) := by
  cases es with
  | nil => exact D.value _
  | cons e es =>
    exact D.seq (serves.eval s e (left granted)) fun v =>
      D.seq (serves.evalAll s es (right granted)) fun vs => D.value _
termination_by sizeOf es

theorem evalEntries (serves : D.Serves slots c c') (s : Scope) (r : Record)
    (es : List (String × Expr)) : (Expr.entriesUseSlots es = true → slots) →
      D.Relates (Expr.evalEntries c s r es) (Expr.evalEntries c' s r es) := by
  cases es with
  | nil => exact fun _ => D.value _
  | cons entry es =>
    obtain ⟨key, e⟩ := entry
    intro granted
    exact D.seq (serves.eval s e (left granted)) fun v =>
      serves.evalEntries s (r.put key v) es (right granted)
termination_by sizeOf es

end

theorem invokeFunction (serves : D.Serves slots c c') (f : HostFunction) (args : List HostValue)
    (granted : f.body.usesSlots = true → slots) :
    D.Relates (HostFunction.invoke c f args) (HostFunction.invoke c' f args) :=
  D.seq (serves.eval ⟨args, .none⟩ f.body granted) fun _ => D.value _

end Serves

/-! ## Members -/

theorem readMember_object (o : HostObject) (name : String) : D.Keeps (o.readMember name) := by
  refine D.whenTrue _ (fun _ => D.seq (readEntry o name) fun _ => D.value _) fun _ => ?_
  cases (o.accessors name).findSome? Accessor.reads with
  | some key => exact D.seq (readEntry o key) fun _ => D.value _
  | none => exact D.value _

theorem writeDictionary (o : HostObject) (key : String) (v : HostValue) :
    D.Keeps (o.writeDictionary key v) := by
  rw [o.writeDictionary_eq]
  exact D.seq (checkBorrow true o) fun _ => D.seq (D.ordinary (isOrdinary_setEntry o.record v key)) ofRules

theorem writeAccessor (o : HostObject) (name : String) (a : Accessor) (v : HostValue) :
    D.Keeps (o.writeAccessor name a v) := by
  obtain ⟨type, reads, writes⟩ := a
  cases writes with
  | none => exact fail _
  | some write =>
    exact D.seq (ofRules _) fun v => D.seq (checkBorrow true o) fun _ =>
      D.seq (ofRules _) fun v => writeEntry o write.1 v

theorem writeMember_object (o : HostObject) (name : String) (v : HostValue) :
    D.Keeps (o.writeMember name v) := by
  refine D.whenTrue _ (fun _ => writeDictionary o name v) fun _ => ?_
  cases o.accessors name with
  | nil => exact D.value _
  | cons a rest => exact D.seq (writeAccessor o name a v) fun _ => D.value _

theorem runReader (r : StaticReader) : D.Keeps r.read := by
  cases r with
  | cell i => exact D.askHost (·.cell i)
  | literal l => exact D.askHost (·.literal l)
  | panics text => exact D.failure _

theorem readStatic (a : StaticAccessor) : D.Keeps a.read := by
  obtain ⟨type, reads, writes⟩ := a
  cases reads with
  | some reader => exact runReader reader
  | none => exact D.value _

theorem writeStatic (a : StaticAccessor) (name : String) (v : HostValue) : D.Keeps (a.write name v) := by
  obtain ⟨type, reads, writes⟩ := a
  cases writes with
  | none => exact fail _
  | some write =>
    exact D.seq (ofRules _) fun v => D.seq (ofRules _) fun v =>
      D.changeHost (isOrdinary_setCell write.1 v)

theorem readMember_surface (s : Surface) (name : String) : D.Keeps (s.readMember name) := by
  rw [Surface.readMember]
  rcases s.member name with _ | (a | a | overloads | _)
  · exact D.value _
  · exact D.seq (readStatic a) fun _ => D.value _
  · exact D.seq (readStatic a) fun _ => D.value _
  · exact D.value _
  · exact D.value _

theorem writeMember_surface (s : Surface) (name : String) (v : HostValue) :
    D.Keeps (s.writeMember name v) := by
  rw [Surface.writeMember]
  rcases s.member name with _ | (a | a | overloads | _)
  · exact D.value _
  · exact D.seq (writeStatic a name v) fun _ => D.value _
  · exact D.seq (writeStatic a name v) fun _ => D.value _
  · exact fail _
  · exact fail _

theorem readMember (name : String) (target : Target) : D.Keeps (target.readMember name) := by
  cases target with
  | object o => exact readMember_object o name
  | surface s => exact readMember_surface s name

theorem writeMember (name : String) (v : HostValue) (target : Target) :
    D.Keeps (target.writeMember name v) := by
  cases target with
  | object o => exact writeMember_object o name v
  | surface s => exact writeMember_surface s name v

namespace Serves

variable {slots : Prop} (serves : D.Serves slots c c')

include serves

theorem runMethod (o : HostObject) (m : Method) (args : List HostValue)
    (granted : m.body.usesSlots = true → slots) :
    D.Relates (o.runMethod c m args) (o.runMethod c' m args) :=
  D.whenTrue _ (fun _ => serves.eval _ m.body granted) fun _ =>
    D.holding true o (serves.eval _ m.body granted)

theorem invokeMember_object (o : HostObject) (name : String) (args : List HostValue)
    (granted : (Target.object o).usesSlots name = true → slots) :
    D.Relates (o.invokeMember c name args) (o.invokeMember c' name args) := by
  rw [HostObject.invokeMember, HostObject.invokeMember]
  rw [Target.usesSlots] at granted
  cases declared : o.descriptor.methods.get? name with
  | none => exact fail _
  | some overloads =>
    rw [declared] at granted
    refine D.seq (ofRules _) fun chosen => ?_
    cases found : overloads[chosen.index]? with
    | none => exact fail _
    | some m =>
      have granted_m (used : m.body.usesSlots = true) : slots :=
        granted (List.any_eq_true.2 ⟨m, List.mem_of_getElem? found, used⟩)
      exact D.seq (serves.runMethod o m chosen.args granted_m) fun _ => D.value _

theorem invokeStatic (name : String) (overloads : List StaticMethod) (args : List HostValue)
    (granted : overloads.any (·.body.usesSlots) = true → slots) :
    D.Relates (StaticMethod.invoke c name overloads args)
      (StaticMethod.invoke c' name overloads args) := by
  refine D.seq (ofRules _) fun chosen => ?_
  cases found : overloads[chosen.index]? with
  | none => exact fail _
  | some m =>
    have granted_m (used : m.body.usesSlots = true) : slots :=
      granted (List.any_eq_true.2 ⟨m, List.mem_of_getElem? found, used⟩)
    exact D.seq (serves.eval _ m.body granted_m) fun _ => D.value _

theorem construct (d : TypeDescriptor) (args : List HostValue)
    (granted : (d.constructors.any fun k => Expr.entriesUseSlots k.entries) = true → slots) :
    D.Relates (d.construct c args) (d.construct c' args) := by
  refine D.whenTrue _ (fun _ => D.seq (ofRules _) fun chosen => ?_) fun _ => fail _
  cases found : d.constructors[chosen.index]? with
  | none => exact fail _
  | some k =>
    have granted_k (used : Expr.entriesUseSlots k.entries = true) : slots :=
      granted (List.any_eq_true.2 ⟨k, List.mem_of_getElem? found, used⟩)
    simp only []
    rw [Expr.evalEntries_bind c, Expr.evalEntries_bind c']
    exact D.seq (serves.evalEntries _ _ k.entries granted_k) fun r =>
      D.seq (D.ordinary (isOrdinary_newRecord rfl)) fun record => D.value _

theorem invokeMember_surface (s : Surface) (name : String) (args : List HostValue)
    (granted : (Target.surface s).usesSlots name = true → slots) :
    D.Relates (s.invokeMember c name args) (s.invokeMember c' name args) := by
  rw [Surface.invokeMember, Surface.invokeMember]
  rw [Target.usesSlots] at granted
  rcases declared : s.member name with _ | (a | a | overloads | _) <;> rw [declared] at granted
  · exact fail _
  · exact fail _
  · exact fail _
  · exact serves.invokeStatic name overloads args granted
  · exact D.seq (serves.construct s.descriptor args granted) fun _ => D.value _

theorem invokeMember (name : String) (args : List HostValue) (target : Target)
    (granted : target.usesSlots name = true → slots) :
    D.Relates (target.invokeMember c name args) (target.invokeMember c' name args) := by
  cases target with
  | object o => exact serves.invokeMember_object o name args granted
  | surface s => exact serves.invokeMember_surface s name args granted

end Serves

theorem resolveTarget (t : Token) : D.Keeps (Target.resolve t) :=
  D.seq (D.askSession _) fun _ => D.seq (ofRules _) fun _ => D.value _

theorem pushResult (result : Option HostValue) : D.Keeps (Bridge.pushResult result) := by
  cases result with
  | some v => exact D.seq (D.push v) fun _ => D.value _
  | none => exact D.value _

end HostDiscipline

end ScriptHost
