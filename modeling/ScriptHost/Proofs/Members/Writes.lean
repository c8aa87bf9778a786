import ScriptHost.Session.Operations
/-!
# Member writes

A member write first decides on a `Setter`: the place that the value goes to, and what is stored there.
The decision (`Target.setter?`) looks at the host's state and changes nothing; it is here that a write
can fail or be ignored.  Running the setter is all that is left, and that cannot fail
(`Target.run_writeMember`).  So a write that fails, or is ignored, has run no setter.

A script's write goes through a hook, which takes the value in first.  If that is a script function, it
is pinned, but no record and no cell is touched.
-/

namespace ScriptHost

open World

/-! ## Setters -/

/-- What a write does once nothing can fail any more. -/
inductive Setter where
  /-- Sets an entry of an object, for a field or a property. -/
  | entry (o : HostObject) (key : String) (v : HostValue)
  /-- Sets an entry of a dictionary that has accepted the value. -/
  | dictionary (o : HostObject) (key : String) (v : HostValue)
  /-- Sets the cell behind a static member. -/
  | cell (i : Nat) (v : HostValue)

/-- What a setter does to the host's state, and what is said of the write. -/
def Setter.apply (h : HostStore) : Setter → WriteOutcome × HostStore
  | entry o key v => (.assigned, h.setRecord o.record ((h.record o.record).put key v))
  | dictionary o key v =>
    let r := h.record o.record
    (if r.entries.contains key then .assigned else .inserted,
      h.setRecord o.record { r with entries := r.entries.insert key v })
  | cell i v => (.assigned, h.setCell i v)

theorem Setter.apply_ne_ignored (h : HostStore) (s : Setter) : (s.apply h).1 ≠ .ignored := by
  cases s with
  | dictionary o key v =>
    simp only [apply]
    split <;> simp
  | entry | cell => simp [apply]

/-- Fails unless the record of an object may be written now. -/
def HostStore.checkClaim (h : HostStore) (o : HostObject) : Except BridgeError Unit :=
  match (h.record o.record).borrow.admit? true with
  | some _ => .ok ()
  | none => .error (Bridge.conflict o)

/-- The setter for a member of an object, none for an unknown one. -/
def HostObject.setter? (o : HostObject) (name : String) (v : HostValue) (h : HostStore) :
    Except BridgeError (Option Setter) :=
  if o.descriptor.isDictionary then do
    h.checkClaim o
    return some (.dictionary o name (← (h.record o.record).type.storage.accept name v))
  else
    match o.accessors name with
    | [] => return none
    | a :: _ =>
      match a.writes with
      | none => .error (.readOnlyMemberWrite name)
      | some (key, conv) => do
        let v ← v.coerceOrMismatch a.type
        h.checkClaim o
        return some (.entry o key (← conv.convert v))

/-- The setter for a static member, none for an unknown one. -/
def Surface.setter? (s : Surface) (name : String) (v : HostValue) :
    Except BridgeError (Option Setter) :=
  match s.member name with
  | some (.field a) | some (.property a) =>
    match a.writes with
    | none => .error (.readOnlyMemberWrite name)
    | some (cell, conv) => do
      let v ← v.coerceOrMismatch a.type
      return some (.cell cell (← conv.convert v))
  | some (.method _) | some .constructor => .error (.readOnlyMemberWrite name)
  | none => return none

def Target.setter? (name : String) (v : HostValue) (h : HostStore) :
    Target → Except BridgeError (Option Setter)
  | object o => o.setter? name v h
  | surface s => s.setter? name v

/-! ## A write is its setter -/

theorem Except.ok_bind {ε α β : Type} (a : α) (f : α → Except ε β) : (Except.ok a >>= f) = f a := rfl

theorem Bridge.run_fail {α : Type} (e : BridgeError) (w : World) :
    (Bridge.fail e : Bridge α).run w = (.failure (.error e), w) := rfl

theorem Bridge.run_ofExcept {α : Type} (r : Except BridgeError α) (w : World) :
    (Bridge.ofExcept r).run w =
      match r with
      | .ok a => (.value a, w)
      | .error e => (.failure (.error e), w) := by
  cases r <;> rfl

theorem Bridge.run_checkBorrow (o : HostObject) (w : World) :
    (Bridge.checkBorrow true o).run w = (Bridge.ofExcept (w.host.checkClaim o)).run w := by
  simp only [Bridge.checkBorrow, HostStore.checkClaim, Action.run_bind, run_askHost]
  cases (w.host.record o.record).borrow.admit? true <;> rfl

/-- How a write ends that was decided to go so. -/
def Setter.finish (w : World) : Except BridgeError (Option Setter) → Outcome Raised WriteOutcome × World
  | .error e => (.failure (.error e), w)
  | .ok none => (.value .ignored, w)
  | .ok (some s) => (.value (s.apply w.host).1, { w with host := (s.apply w.host).2 })

section Objects

variable (o : HostObject) (name : String) (v : HostValue) (w : World)

theorem HostObject.run_writeDictionary (isDictionary : o.descriptor.isDictionary = true) :
    (o.writeDictionary name v).run w = Setter.finish w (o.setter? name v w.host) := by
  simp only [writeDictionary, setter?, isDictionary, if_true, Action.run_bind, Bridge.run_checkBorrow,
    Bridge.run_ofExcept, run_askHost]
  cases w.host.checkClaim o with
  | error e => rfl
  | ok _ =>
    simp only [Record.set]
    cases (w.host.record o.record).type.storage.accept name v <;> rfl

theorem HostObject.run_writeAccessor {a : Accessor} {rest : List Accessor}
    (isRecord : o.descriptor.isDictionary = false) (found : o.accessors name = a :: rest) :
    (o.writeAccessor name a v >>= fun _ => pure WriteOutcome.assigned).run w =
      Setter.finish w (o.setter? name v w.host) := by
  obtain ⟨type, reads, writes⟩ := a
  simp only [setter?, isRecord, found, writeAccessor]
  cases writes with
  | none => rfl
  | some write =>
    simp only [Action.run_bind, Bridge.run_ofExcept, Bridge.convert, Bridge.writeEntry]
    cases v.coerceOrMismatch type with
    | error e => rfl
    | ok v =>
      simp only [Except.ok_bind, Bridge.run_checkBorrow, Bridge.run_ofExcept]
      -- The guard is asked twice, before the conversion and by the entry; nothing happens in between.
      cases admitted : w.host.checkClaim o with
      | error e => rfl
      | ok _ =>
        simp only [Except.ok_bind]
        cases write.2.convert v with
        | error e => rfl
        | ok stored =>
          simp only [admitted]
          rfl

theorem HostObject.run_writeMember :
    (o.writeMember name v).run w = Setter.finish w (o.setter? name v w.host) := by
  rw [writeMember]
  cases isDictionary : o.descriptor.isDictionary with
  | true => exact o.run_writeDictionary name v w isDictionary
  | false =>
    cases found : o.accessors name with
    | nil =>
      simp only [setter?, isDictionary, found]
      rfl
    | cons a rest => exact o.run_writeAccessor name v w isDictionary found

end Objects

theorem StaticAccessor.run_write (a : StaticAccessor) {s : Surface} {name : String}
    (found : s.member name = some (.field a) ∨ s.member name = some (.property a)) (v : HostValue)
    (w : World) : (a.write name v >>= fun _ => pure WriteOutcome.assigned).run w =
      Setter.finish w (s.setter? name v) := by
  have setter_eq : s.setter? name v =
      match a.writes with
      | none => .error (.readOnlyMemberWrite name)
      | some (cell, conv) => do
        let v ← v.coerceOrMismatch a.type
        return some (.cell cell (← conv.convert v)) := by
    rcases found with found | found <;> rw [Surface.setter?, found]
  rw [setter_eq, write]
  cases a.writes with
  | none => rfl
  | some write =>
    simp only [Action.run_bind, Bridge.run_ofExcept, Bridge.convert]
    cases v.coerceOrMismatch a.type with
    | error e => rfl
    | ok v =>
      simp only [Except.ok_bind]
      cases write.2.convert v <;> rfl

theorem Surface.run_writeMember (s : Surface) (name : String) (v : HostValue) (w : World) :
    (s.writeMember name v).run w = Setter.finish w (s.setter? name v) := by
  rw [writeMember]
  rcases found : s.member name with _ | (a | a | overloads | _)
  · rw [setter?, found]
    rfl
  · exact a.run_write (.inl found) v w
  · exact a.run_write (.inr found) v w
  · rw [setter?, found]
    rfl
  · rw [setter?, found]
    rfl

/-- A write does what its setter does, and nothing without one. -/
theorem Target.run_writeMember (target : Target) (name : String) (v : HostValue) (w : World) :
    (target.writeMember name v).run w = Setter.finish w (target.setter? name v w.host) := by
  cases target with
  | object o => exact o.run_writeMember name v w
  | surface s => exact s.run_writeMember name v w

/-! ## Writes of scripts -/

/-- A script's write, with what is said of it; the hook drops that. -/
def Bridge.hookedWrite (t : Token) : Bridge WriteOutcome := do
  let name ← memberName
  let v ← read 3
  let target ← Target.resolve t
  target.writeMember name v

/-- The setter for a script's write, found once the value is taken in. -/
def Bridge.hookedSetter (t : Token) : Bridge (Option Setter) := do
  let name ← memberName
  let v ← read 3
  let target ← Target.resolve t
  let h ← hostNow
  ofExcept (target.setter? name v h)

/-- Runs a setter; without one the write is ignored. -/
def Setter.run : Option Setter → Bridge WriteOutcome
  | some s => onHost s.apply
  | none => pure .ignored

theorem NativeCode.run_writeMember (c : Caller) (t : Token) :
    (NativeCode.writeMember t).run c = (Bridge.hookedWrite t >>= fun _ => pure 0).inNative := by
  simp only [NativeCode.run, Bridge.writeHook, Bridge.hookedWrite, bind_assoc]

theorem Bridge.hookedWrite_eq (t : Token) : hookedWrite t = hookedSetter t >>= Setter.run := by
  simp only [hookedWrite, hookedSetter, bind_assoc]
  refine congrArg _ (funext fun name => congrArg _ (funext fun v => congrArg _ (funext fun target => ?_)))
  funext w
  have run_eq := target.run_writeMember name v w
  have decided := Bridge.run_ofExcept (target.setter? name v w.host) w
  show (target.writeMember name v).run w =
    (hostNow >>= fun h => ofExcept (target.setter? name v h) >>= Setter.run : Bridge WriteOutcome).run w
  simp only [Action.run_bind, run_hostNow, decided, run_eq]
  rcases target.setter? name v w.host with e | (_ | s) <;> rfl

/-- The action touches nothing of the host but its script functions. -/
def OnlyTakesIn {ε α : Type} (x : Action World ε α) : Prop :=
  ∀ w, ∃ functions, (x.run w).2.host = { w.host with functions }

namespace OnlyTakesIn

theorem of_unchanged {ε α : Type} {x : Action World ε α} (unchanged : ∀ w, (x.run w).2 = w) :
    OnlyTakesIn x := fun w => ⟨w.host.functions, by rw [unchanged]⟩

theorem seq {ε α β : Type} {x : Action World ε α} {f : α → Action World ε β} (first : OnlyTakesIn x)
    (second : ∀ a, OnlyTakesIn (f a)) : OnlyTakesIn (x >>= f) := fun w => by
  obtain ⟨functions, taken⟩ := first w
  rw [Action.run_bind]
  rcases ran : x.run w with ⟨a | e | _, w₁⟩ <;> rw [ran] at taken
  · obtain ⟨functions', taken'⟩ := second a w₁
    exact ⟨functions', by rw [taken', taken]⟩
  · exact ⟨functions, taken⟩
  · exact ⟨functions, taken⟩

theorem ofExcept {α : Type} (r : Except BridgeError α) : OnlyTakesIn (Bridge.ofExcept r) :=
  of_unchanged fun w => by
    rw [Bridge.run_ofExcept]
    cases r <;> rfl

theorem memberName : OnlyTakesIn Bridge.memberName := of_unchanged fun w => by
  simp only [Bridge.memberName, Action.run_bind, run_askMachine]
  cases w.machine.valueAt 2 <;> rfl

theorem read (i : Int) : OnlyTakesIn (Bridge.read i) := by
  refine (of_unchanged fun _ => rfl).seq fun slot => ?_
  have adopted (r : Nat) : OnlyTakesIn (Bridge.adoptFunction r) := fun _ => ⟨_, rfl⟩
  cases slot with
  | function f =>
    cases f with
    | slot j => exact OnlyTakesIn.seq (fun w => ⟨w.host.functions, rfl⟩) adopted
    | pinned r => exact adopted r
  | handle t => exact (of_unchanged fun _ => rfl).seq ofExcept
  | _ => exact of_unchanged fun _ => rfl

theorem hookedSetter (t : Token) : OnlyTakesIn (Bridge.hookedSetter t) := by
  refine memberName.seq fun name => (read 3).seq fun v => ?_
  have resolved : OnlyTakesIn (Target.resolve t) :=
    (of_unchanged fun _ => rfl).seq fun r => (ofExcept r).seq fun _ => of_unchanged fun _ => rfl
  exact resolved.seq fun target => (of_unchanged fun _ => rfl).seq fun _ => ofExcept _

end OnlyTakesIn

/-! ## Refusal -/

/-- A write failed, or was ignored. -/
def Refused : Outcome Raised WriteOutcome → Prop
  | .failure _ => True
  | .value said => said = .ignored
  | .exhausted => False

instance : (outcome : Outcome Raised WriteOutcome) → Decidable (Refused outcome)
  | .failure _ => isTrue trivial
  | .value said => inferInstanceAs (Decidable (said = .ignored))
  | .exhausted => isFalse id

theorem Setter.none_of_refused {found : Option Setter} {w w' : World}
    {outcome : Outcome Raised WriteOutcome} (ran : (Setter.run found).run w = (outcome, w'))
    (refused : Refused outcome) : found = none ∧ w' = w := by
  cases found with
  | none =>
    cases ran
    exact ⟨rfl, rfl⟩
  | some s =>
    cases ran
    exact absurd refused (s.apply_ne_ignored w.host)

/-- A write that fails or is ignored has run no setter.  If host code makes it, it leaves everything as it
    was.  If a script makes it, through the hook of a proxy, it leaves the records, the static members and
    all else of the host as they were; at most a script function was taken in. -/
theorem refused_write_changes_nothing (w : World) :
    (∀ (target : Target) (name : String) (v : HostValue) (outcome : Outcome Raised WriteOutcome)
        (w' : World), (target.writeMember name v).run w = (outcome, w') → Refused outcome →
      (∀ s, target.setter? name v w.host ≠ .ok (some s)) ∧ w' = w) ∧
    ∀ (t : Token),
      (∀ c, (NativeCode.writeMember t).run c = (Bridge.hookedWrite t >>= fun _ => pure 0).inNative) ∧
      ∀ (outcome : Outcome Raised WriteOutcome) (w' : World),
        (Bridge.hookedWrite t).run w = (outcome, w') → Refused outcome →
          (∀ s, ((Bridge.hookedSetter t).run w).1 ≠ .value (some s)) ∧
            ∃ functions, w'.host = { w.host with functions } := by
  refine ⟨fun target name v outcome w' ran refused => ?_, fun t => ⟨fun c => ?_, ?_⟩⟩
  · rw [target.run_writeMember] at ran
    rcases decided : target.setter? name v w.host with e | (_ | s) <;> rw [decided] at ran <;> cases ran
    · exact ⟨by simp, rfl⟩
    · exact ⟨by simp, rfl⟩
    · exact absurd refused (s.apply_ne_ignored w.host)
  · exact NativeCode.run_writeMember c t
  · intro outcome w' ran refused
    -- All that the hook may do before its setter is to take in a function.
    have touched := OnlyTakesIn.hookedSetter t w
    rw [Bridge.hookedWrite_eq, Action.run_bind] at ran
    rcases decided : (Bridge.hookedSetter t).run w with ⟨found | e | _, w₁⟩ <;> rw [decided] at ran touched
    · obtain ⟨rfl, rfl⟩ := Setter.none_of_refused ran refused
      exact ⟨by simp, touched⟩
    · cases ran
      exact ⟨by simp, touched⟩
    · cases ran
      exact refused.elim

/-- A gauge whose level is a byte. -/
def byteGauge : HostObject :=
  ⟨0, ((TypeBuilder.start "Gauge" ⟨"Gauge", .plain⟩).field "Level" (.int .u8)).descriptor⟩

/-- The gauge has a handle, and a script has called the hook of its proxy with a function for a member that
    a gauge does not have. -/
def byteGaugeWorld : World :=
  let w := World.openSession {} (.start 1) (HostStore.empty.newRecord (.blank ⟨"Gauge", .plain⟩)).2
  { w with
    machine := ((w.machine.push .nil).push (.string (utf8Encode "Weight"))).push
      (.function "print" .print)
    session := { w.session with handles := (w.session.handles.alloc (.object byteGauge) 1).2 } }

/-- A level past a byte fails, and the member that the gauge does not have is ignored. -/
theorem refused_write_of_byte_gauge :
    let level := ((Target.object byteGauge).writeMember "Level" (.int 300)).run byteGaugeWorld
    let weight := (Bridge.hookedWrite ⟨1, 0, 1⟩).run byteGaugeWorld
    Refused level.1 ∧ level.2 = byteGaugeWorld ∧ Refused weight.1 ∧
      weight.2.host.records = byteGaugeWorld.host.records ∧
      weight.2.host.cells = byteGaugeWorld.host.cells ∧ weight.2.host.functions.size = 1 := by
  intro level weight
  obtain ⟨direct, hooked⟩ := refused_write_changes_nothing byteGaugeWorld
  have failed : Refused level.1 := by decide +kernel
  have ignored : Refused weight.1 := by decide +kernel
  obtain ⟨_, same⟩ := direct _ _ _ _ _ (Prod.eta level).symm failed
  obtain ⟨_, functions, touched⟩ := (hooked ⟨1, 0, 1⟩).2 _ _ (Prod.eta weight).symm ignored
  exact ⟨failed, same, ignored, by rw [touched], by rw [touched], by decide +kernel⟩

end ScriptHost
