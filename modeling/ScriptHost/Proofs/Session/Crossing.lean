import ScriptHost.Proofs.Session.Resources
/-!
# Reading what was pushed

What is pushed on the stack is decoded when it is read.  An object or a surface is pushed as the proxy of
its token, and read as whatever that token resolves to; so it comes back as itself if its token is its
own.

The token of an object is looked up by the object's record, which is checked.  The token of a surface is
the one under which it was last published, in this session or in another, and that it resolves at all is
the only check.  `read_pushed_surface` says what comes of this.
-/

namespace ScriptHost

open World Machine

/-! ## The top of the stack -/

namespace Machine

variable {m : Machine} {v : Value}

/-- The value is on top of a frame that is whole. -/
def IsTop (m : Machine) (v : Value) : Prop :=
  ∃ below : Array Value, m.stack = below.push v ∧ m.base ≤ below.size

theorem isTop_push (whole : m.base ≤ m.height) (v : Value) : (m.push v).IsTop v :=
  ⟨m.stack, rfl, whole⟩

theorem IsTop.whole (top : m.IsTop v) : m.base ≤ m.height := by
  obtain ⟨below, stack, whole⟩ := top
  rw [height, stack, Array.size_push]
  exact Nat.le_succ_of_le whole

theorem IsTop.absIndex_pos (top : m.IsTop v) : 0 < m.absIndex (-1) := by
  obtain ⟨below, stack, whole⟩ := top
  have height : m.height = below.size + 1 := by simp [height, stack]
  simp only [absIndex, Machine.top, frameSize, height]
  rw [if_neg (by omega)]
  omega

theorem absIndex_absIndex (positive : 0 < m.absIndex (-1)) :
    m.absIndex (m.absIndex (-1)) = m.absIndex (-1) := by
  rw [absIndex, if_pos positive]

theorem IsTop.valueAt_eq (top : m.IsTop v) : m.valueAt (m.absIndex (-1)) = v := by
  have positive := top.absIndex_pos
  obtain ⟨below, stack, whole⟩ := top
  have height : m.height = below.size + 1 := by simp [height, stack]
  have index : m.absIndex (-1) = (below.size + 1 - m.base : Nat) := by
    simp only [absIndex, Machine.top, frameSize, height]
    rw [if_neg (by omega)]
    omega
  have slot : m.slotIndex? (m.absIndex (-1)) = some below.size := by
    rw [slotIndex?, if_pos positive, index, height]
    simp only [Int.toNat_natCast]
    rw [if_pos (by omega)]
    exact congrArg some (by omega)
  simp [valueAt, slot, stack]

/-- How a value is decoded that is found at an index. -/
def decoded (m : Machine) (i : Int) : Value → SlotValue
  | .nil => .nil
  | .boolean b => .bool b
  | .number x => .float x
  | .string bytes => .string bytes
  | .function .. => .function (.slot i)
  | v => ((m.tokenOf? v).map SlotValue.handle).getD .nil

theorem IsTop.readSlot_eq (top : m.IsTop v) :
    m.readSlot (m.absIndex (-1)) = m.decoded (m.absIndex (-1)) v := by
  have same := absIndex_absIndex top.absIndex_pos
  have found := top.valueAt_eq
  simp only [readSlot, handleOf?, same, found]
  cases v with
  | light t => rfl
  | table a => cases carried : m.tokenOf? (.table a) <;> simp [decoded, carried]
  | _ => rfl

theorem Carries.tokenOf?_eq {a : Nat} {t : Token} (carries : m.Carries a t) :
    m.tokenOf? (.table a) = some t := by
  obtain ⟨metatable, found, held⟩ := carries
  simp [tokenOf?, found, held, Value.token?]

theorem carries_of_tokenOf? {a : Nat} {t : Token} (found : m.tokenOf? (.table a) = some t) :
    m.Carries a t := by
  simp only [tokenOf?] at found
  cases metatable : (m.table a).metatable with
  | none => simp [metatable] at found
  | some b =>
    simp only [metatable] at found
    refine ⟨b, metatable, ?_⟩
    cases held : (m.table b).get (utf8Encode "__handle") with
    | light t' =>
      rw [held, Value.token?, Option.some.injEq] at found
      rw [found]
    | _ => simp [held, Value.token?] at found

end Machine

/-! ## Things -/

/-- The table is pinned as the proxy of the token. -/
def World.HasProxy (w : World) (t : Token) (a : Nat) : Prop :=
  ∃ r, w.session.proxies.get? t = some r ∧ w.machine.referenced? r = some (.table a)

/-- The table was pushed as the proxy of the token. -/
structure World.HasPushed (w : World) (t : Token) (a : Nat) : Prop where
  top : w.machine.IsTop (.table a)
  carries : w.machine.Carries a t
  hasProxy : w.HasProxy t a

section Things

variable {w w' : World} {entry : HandleEntry}

/-- A table that carries a token is read as what the token resolves to. -/
theorem Bridge.run_read_table {a : Nat} (top : w.machine.IsTop (.table a)) {t : Token}
    (carries : w.machine.Carries a t) {live : HandleEntry}
    (resolved : w.session.handles.get? t = some live) :
    (Bridge.read (-1)).run w = (.value live.toValue, w) := by
  have slot : w.machine.readSlot (w.machine.absIndex (-1)) = .handle t := by
    simp [top.readSlot_eq, decoded, carries.tokenOf?_eq]
  have found : w.session.resolve t = .ok live.toValue := by
    simp [Session.resolve, (HandleStore.resolve_eq_ok _ _ _).2 resolved, Except.map]
  simp [read, slot, resolve, found, Bridge.ofExcept]

theorem Bridge.run_read_proxy {t : Token} {a : Nat} (proxy : w.HasPushed t a) {live : HandleEntry}
    (resolved : w.session.handles.get? t = some live) :
    (Bridge.read (-1)).run w = (.value live.toValue, w) :=
  run_read_table proxy.top proxy.carries resolved

/-- A new proxy is on top of the stack, and no other table is changed. -/
theorem World.addsProxy_issued (whole : w.machine.base ≤ w.machine.height) (entry : HandleEntry) (t : Token)
    (h : HandleStore) : (w.issued entry t h).machine.IsTop (.table w.machine.tables.size) ∧
      (w.issued entry t h).machine.Carries w.machine.tables.size t ∧
        ∀ {a t'}, w.machine.Carries a t' → (w.issued entry t h).machine.Carries a t' := by
  have machine : (w.issued entry t h).machine =
      ((w.machine.newProxy t entry.typeName).reference (-1)).2 := by rw [issued]
  have added := addsProxy_newProxy whole t entry.typeName
  generalize w.machine.newProxy t entry.typeName = m at machine added
  have base : m.base = w.machine.base := by rw [Machine.base, added.frames, Machine.base]
  have tables : (m.reference (-1)).2.tables = m.tables := by
    simp only [reference]
    split <;> rfl
  have stack := stack_reference m (-1)
  have frames := (isRelative_reference (-1)).frames m
  rw [machine]
  refine ⟨⟨w.machine.stack, stack.trans added.stack, ?_⟩, added.carries.of_tables tables, fun carries => ?_⟩
  · rw [Machine.base, frames, ← Machine.base, base]
    exact whole
  · exact (carries.of_table added.table).of_tables tables

/-- A new proxy carries its token and is pinned for it. -/
theorem World.IsBacked.hasPushed_issued (backed : w.IsBacked) (entry : HandleEntry) (t : Token)
    (h : HandleStore) : (w.issued entry t h).HasPushed t w.machine.tables.size := by
  have machine : (w.issued entry t h).machine =
      ((w.machine.newProxy t entry.typeName).reference (-1)).2 := by rw [issued]
  have proxies : (w.issued entry t h).session.proxies = w.session.proxies.insert t
      ((w.machine.newProxy t entry.typeName).reference (-1)).1 := by rw [issued]
  obtain ⟨top, carries, -⟩ := addsProxy_issued backed.whole entry t h
  have added := addsProxy_newProxy backed.whole t entry.typeName
  generalize w.machine.newProxy t entry.typeName = m at machine proxies added
  have whole : m.base ≤ w.machine.stack.size := by
    rw [Machine.base, added.frames]
    exact backed.whole
  have pins := pins_reference (backed.backs.tidy.of_eq added.registry added.freeReferences) (-1)
  rw [valueAt_top added.stack whole] at pins
  refine ⟨top, carries, (m.reference (-1)).1, ?_, ?_⟩
  · rw [proxies, NumberedDict.get?_insert, if_pos rfl]
  · rw [machine, pins.referenced, if_pos rfl]

/-- A thing is pushed as the proxy of a token: of the live one that it has, and then nothing but the stack
    is changed; or else of one that is issued for it. -/
theorem Bridge.push_entry (backed : w.IsBacked) (pushed : (Bridge.push entry.toValue).run w = (.value (), w'))
    (fits : w'.session.handles.slots.size ≤ HandleStore.slotCapacity) : ∃ t a, w'.HasPushed t a ∧
      ((w.liveToken? entry = some t ∧ w'.session = w.session) ∨
        (w.liveToken? entry = none ∧ w'.session.handles.get? t = some entry)) := by
  rw [run_push_entry] at pushed
  cases found : w.liveToken? entry with
  | some t =>
    obtain ⟨live, resolved⟩ := get?_of_liveToken? found
    obtain ⟨r, a, pinned, kept, carries⟩ := backed.pinned resolved
    rw [found] at pushed
    obtain ⟨-, rfl⟩ := Prod.mk.inj ((run_pushProxy_pinned pinned kept _).symm.trans pushed)
    exact ⟨t, a, ⟨isTop_push backed.whole _, carries.of_tables rfl, r, pinned, kept⟩, .inl ⟨rfl, rfl⟩⟩
  | none =>
    rw [found] at pushed
    have pushed : (issueProxy entry).run w = (.value (), w') := pushed
    have handles := (Bridge.session_issueProxy w entry).1
    rw [pushed] at handles
    rcases run_issueProxy backed.isFiled entry (handles ▸ fits) with
      ⟨e, refused⟩ | ⟨i, t, h, issues, bound, tidy, issued⟩
    · rw [refused] at pushed
      cases pushed
    · obtain ⟨-, rfl⟩ := Prod.mk.inj (issued.symm.trans pushed)
      have resolved := issues.get?_after bound t
      rw [if_pos rfl] at resolved
      exact ⟨t, _, backed.hasPushed_issued entry t h, .inr ⟨rfl, resolved⟩⟩

end Things

/-! ## States of a run -/

/-- The run of some commands ends in the world, or is stopped there by the test. -/
def World.Reaches (stop : Op → World → Bool) (start w : World) : Prop :=
  ∃ depth commands outcome,
    (Command.runAll (watchedCaller (stopWhen stop) depth) commands).run start = (outcome, w)

/-- A run that is stopped before the barred edits takes a path without them. -/
theorem World.Reaches.path {bars : Op → World → Prop} {stop : Op → World → Bool}
    (watchful : ∀ op w, bars op w → stop op w = true) {start w : World} (reached : Reaches stop start w)
    (whole : start.machine.base ≤ start.machine.height) : Path bars start w := by
  obtain ⟨depth, commands, outcome, ran⟩ := reached
  let D : SessionDiscipline := walking watchful fun _ _ stopped => stopped
  have walks := SessionDiscipline.runAll (D.covers_watchedCaller depth 0) commands
  have path := (walks start whole).path
  have before : D.before = stopWhen stop := rfl
  rw [before, ran] at path
  exact path

theorem stopWhen_never : stopWhen (fun _ _ => false) = Caller.unwatched := by
  funext op w
  rfl

/-- A run that nothing stops. -/
theorem World.Reaches.unstopped (depth : Nat) (commands : List Command) (start : World) :
    Reaches (fun _ _ => false) start ((Command.runAll (callerAt depth) commands).run start).2 := by
  refine ⟨depth, commands, ((Command.runAll (callerAt depth) commands).run start).1, ?_⟩
  rw [stopWhen_never, callerAt]

/-- Whatever the host and its scripts do, the first world becomes the second one. -/
abbrev World.Evolves : World → World → Prop := Path fun _ _ => False

theorem World.evolves_runAll {w : World} (whole : w.machine.base ≤ w.machine.height) (depth : Nat)
    (commands : List Command) : Evolves w ((Command.runAll (callerAt depth) commands).run w).2 :=
  (Reaches.unstopped depth commands w).path (fun _ _ => False.elim) whole

theorem World.evolves_call {w : World} (whole : w.machine.base ≤ w.machine.height) (depth : Nat)
    (argCount resultCount : Int) (isProtected : Bool) :
    Evolves w ((Vm.call (callerAt depth) argCount resultCount isProtected).run w).2 := by
  let D : SessionDiscipline := @walking (fun _ _ => False) (fun _ _ => false) (fun _ _ => false)
    (fun _ _ => False.elim) fun _ _ stopped => stopped
  have walks := Walks.call (D.covers_watchedCaller depth 0).run argCount resultCount isProtected
  have before : D.before = Caller.unwatched := stopWhen_never
  rw [before] at walks
  exact (walks w whole).path

theorem World.whole_openSession {m : Machine} (whole : m.base ≤ m.height) (options : SessionOptions)
    (host : HostStore) :
    (openSession options m host).machine.base ≤ (openSession options m host).machine.height := by
  rw [openSession]
  split
  · exact (isSteady_defineGlobal "print" (.function "print" .print)).staysWhole whole
  · exact whole

theorem World.tidy_openSession {m : Machine} (tidy : m.HasTidyRegistry) (options : SessionOptions)
    (host : HostStore) : (openSession options m host).machine.HasTidyRegistry := by
  rw [openSession]
  split
  · exact (SameRegistry.of_tame (isSteady_defineGlobal "print" (.function "print" .print)).isTame m).tidy tidy
  · exact tidy

/-- If nothing disturbs the session on the way, the stores of a state that is reached in scope come from
    those of the new session by shifts. -/
theorem World.Path.shifts {m : Machine} {host : HostStore} (fresh : IsFresh m host)
    {options : SessionOptions} {w : World} (passed : Path Op.Disturbs (openSession options m host) w)
    (scope : w.InScope) :
    ∃ n : Nat, Shifts True (openSession options m host) n w ∧
      n + host.published.size ≤ w.host.published.size := by
  have moves : Moves True 0 _ w :=
    passed.moves (fun _ _ disturbs => disturbs) (.inl trivial) (.inl trivial)
  obtain ⟨n, shifts, paid⟩ := moves.shifts scope (fresh.openSession options).toIsBacked
  have host_eq : (openSession options m host).host = host := rfl
  rw [host_eq] at paid
  exact ⟨n, shifts, by omega⟩

theorem World.Path.isBacked {m : Machine} {host : HostStore} (fresh : IsFresh m host)
    {options : SessionOptions} {w : World} (passed : Path Op.Disturbs (openSession options m host) w)
    (scope : w.InScope) : w.IsBacked := by
  obtain ⟨_, shifts, _⟩ := passed.shifts fresh scope
  exact shifts.isBacked (fresh.openSession options).toIsBacked

theorem World.Reaches.isBacked {m : Machine} {host : HostStore} (fresh : IsFresh m host)
    {options : SessionOptions} {stop : Op → World → Bool}
    (watchful : ∀ op w, op.Disturbs w → stop op w = true) {w : World}
    (reached : Reaches stop (openSession options m host) w) (scope : w.InScope) : w.IsBacked :=
  World.Path.isBacked fresh (reached.path watchful (fresh.openSession options).whole) scope

/-! ## Looking into states

Values and outcomes cannot be compared in general.  What one of them is in a state that was reached is
asked by way of these functions, which can be evaluated. -/

section Looking

variable {σ ε α : Type} {x : Action σ ε α} {s : σ}

def Outcome.value? : Outcome ε α → Option α
  | .value a => some a
  | _ => none

def Outcome.failure? : Outcome ε α → Option ε
  | .failure e => some e
  | _ => none

theorem Action.run_of_value? {a : α} (ended : (x.run s).1.value? = some a) :
    x.run s = (.value a, (x.run s).2) := by
  rcases ran : x.run s with ⟨_ | _ | _, _⟩ <;> rw [ran] at ended <;> cases ended
  rfl

theorem Action.run_of_failure? {e : ε} (ended : (x.run s).1.failure? = some e) :
    x.run s = (.failure e, (x.run s).2) := by
  rcases ran : x.run s with ⟨_ | _ | _, _⟩ <;> rw [ran] at ended <;> cases ended
  rfl

def HostValue.text? : HostValue → Option String
  | .str s => some s
  | _ => none

theorem HostValue.eq_str {v : HostValue} {text : String} (found : v.text? = some text) : v = .str text := by
  cases v with
  | str other => exact congrArg str (Option.some.inj found)
  | _ => cases found

def HostValue.object? : HostValue → Option HostObject
  | .object o => some o
  | _ => none

def HostValue.surface? : HostValue → Option Surface
  | .surface s => some s
  | _ => none

def HandleEntry.surface? : HandleEntry → Option Surface
  | .surface s => some s
  | _ => none

theorem HostValue.exists_object {v : Option HostValue} {p : HostObject → Bool}
    (found : (v.bind object?).any p = true) : ∃ o, v = some (.object o) ∧ p o = true := by
  rcases v with _ | v
  · cases found
  · cases v with
    | object o => exact ⟨o, rfl, found⟩
    | _ => cases found

theorem HostValue.exists_surface {v : Option HostValue} {p : Surface → Bool}
    (found : (v.bind surface?).any p = true) : ∃ s, v = some (.surface s) ∧ p s = true := by
  rcases v with _ | v
  · cases found
  · cases v with
    | surface s => exact ⟨s, rfl, found⟩
    | _ => cases found

theorem HandleEntry.exists_surface {entry : Option HandleEntry} {p : Surface → Bool}
    (found : (entry.bind surface?).any p = true) : ∃ s, entry = some (.surface s) ∧ p s = true := by
  rcases entry with _ | entry
  · cases found
  · cases entry with
    | surface s => exact ⟨s, rfl, found⟩
    | object o => cases found

def Callee.ready? : Callee → Option (Nat × NativeCode)
  | ready slot code => some (slot, code)
  | _ => none

theorem Callee.eq_ready {callee : Callee} {called : Nat × NativeCode} (found : callee.ready? = some called) :
    callee = .ready called.1 called.2 := by
  cases callee with
  | ready slot code =>
    cases found
    rfl
  | _ => cases found

def Value.address? : Value → Option Nat
  | table address => some address
  | _ => none

theorem Value.eq_table {v : Value} {address : Nat} (found : v.address? = some address) :
    v = .table address := by
  cases v with
  | table a => exact congrArg table (Option.some.inj found)
  | _ => cases found

end Looking

/-! ## Surfaces -/

/-- What the token resolves to under which a surface was last published, in whatever session. -/
def World.remembered? (w : World) (s : Surface) : Option HandleEntry :=
  (w.host.publishedToken s).bind w.session.handles.get?

/-- The entry is of the surface. -/
def HandleEntry.IsSurface (entry : HandleEntry) (s : Surface) : Prop :=
  ∃ s', entry = .surface s' ∧ s'.number = s.number

theorem World.remembered?_of_liveToken? {w : World} {s : Surface} {t : Token}
    (found : w.liveToken? (.surface s) = some t) : w.remembered? s = w.session.handles.get? t := by
  obtain ⟨published, _⟩ := Option.filter_eq_some_iff.1 found
  rw [remembered?, published, Option.bind_some]

theorem World.remembered?_of_unissued {w : World} {s : Surface}
    (missing : w.liveToken? (.surface s) = none) : w.remembered? s = none := by
  rw [remembered?]
  cases published : w.host.publishedToken s with
  | none => rfl
  | some t => exact unissued_of_liveToken? missing t published

/-- A surface that is pushed is read as itself if and only if the token under which it was last published
    resolves, in this session, to the surface or to nothing.  If it resolves to another entry, it is that
    entry that is read. -/
theorem read_pushed_surface {m : Machine} {host : HostStore} (fresh : IsFresh m host)
    (options : SessionOptions) {stop : Op → World → Bool}
    (watchful : ∀ op w, op.Disturbs w → stop op w = true) {w : World}
    (reached : Reaches stop (World.openSession options m host) w) (s : Surface) {w' : World}
    (pushed : (Bridge.push (.surface s)).run w = (.value (), w')) (scope : w'.InScope) :
    ∃ entry, (Bridge.read (-1)).run w' = (.value entry.toValue, w') ∧
      entry = (w.remembered? s).getD (.surface s) ∧
      (entry.IsSurface s ↔ ∀ other, w.remembered? s = some other → other.IsSurface s) := by
  have moves : MovesBy True 0 w (Bridge.push (.surface s)) := MovesBy.push (.surface s)
  rw [MovesBy, pushed] at moves
  have backed := reached.isBacked fresh watchful (moves.inScope scope)
  have pushed : (Bridge.push (HandleEntry.surface s).toValue).run w = (.value (), w') := pushed
  -- Its last token is live, whatever it resolves to now, or a new one is issued for the surface itself.
  obtain ⟨t, a, proxy, ⟨found, same⟩ | ⟨missing, resolved⟩⟩ := Bridge.push_entry backed pushed scope.fits
  · obtain ⟨live, resolved⟩ := get?_of_liveToken? found
    have remembered := remembered?_of_liveToken? found
    rw [resolved] at remembered
    have read := Bridge.run_read_proxy proxy (same ▸ resolved)
    refine ⟨live, read, by rw [remembered]; rfl, fun isSurface other same => ?_, fun all => ?_⟩
    · rw [remembered, Option.some.injEq] at same
      exact same ▸ isSurface
    · exact all live remembered
  · have remembered := remembered?_of_unissued missing
    have read := Bridge.run_read_proxy proxy resolved
    refine ⟨.surface s, read, by rw [remembered]; rfl, fun _ other same => ?_, fun _ => ⟨s, rfl, rfl⟩⟩
    rw [remembered] at same
    cases same

/-- A type to forward, with no members. -/
def blankSpec (name : String) : TypeSpec := ⟨⟨name, .plain⟩, name, []⟩

/-- The state of the host after a session on it has forwarded a type. -/
def hostOfGauge : HostStore :=
  ((Command.runAll (callerAt 1) [.forward (blankSpec "Gauge")]).run
    (World.openSession {} (.start 1) .empty)).2.host

/-- The surface of that type. -/
def gaugeSurface : Surface := .build 0 { TypeDescriptor.blank "Gauge" ⟨"Gauge", .plain⟩ with tag := 1 }

/-- Another session on the same host has forwarded another type. -/
def worldOfDial : World :=
  ((Command.runAll (watchedCaller (stopWhen fun op _ => decide op.IsEdit) 1)
    [.forward (blankSpec "Dial")]).run (World.openSession {} (.start 1) hostOfGauge)).2

/-- Pushed in that session, the surface of the first one is read as the surface of the other type. -/
theorem read_pushed_surface_of_other_session :
    ∃ other, (Bridge.read (-1)).run ((Bridge.push (.surface gaugeSurface)).run worldOfDial).2 =
        (.value (.surface other), ((Bridge.push (.surface gaugeSurface)).run worldOfDial).2) ∧
      other.number ≠ gaugeSurface.number ∧ other.typeName = "Dial" := by
  have functions : hostOfGauge.functions = #[] := by decide +kernel
  have fresh : IsFresh (.start 1) hostOfGauge := .start 1 fun number => by
    simp [HostStore.functionReference?, functions]
  have watchful (op : Op) (w : World) (disturbs : op.Disturbs w) : decide op.IsEdit = true :=
    decide_eq_true disturbs.isEdit
  have reached : Reaches (fun op _ => decide op.IsEdit) (World.openSession {} (.start 1) hostOfGauge)
      worldOfDial := ⟨1, [.forward (blankSpec "Dial")], _, (Prod.eta _).symm⟩
  have isPushed : ((Bridge.push (.surface gaugeSurface)).run worldOfDial).1.value? = some () := by
    decide +kernel
  have isOther : ((worldOfDial.remembered? gaugeSurface).bind HandleEntry.surface?).any
      (fun other => decide (other.number = 1 ∧ other.typeName = "Dial")) = true := by decide +kernel
  have scope : World.InScope ((Bridge.push (.surface gaugeSurface)).run worldOfDial).2 :=
    ⟨by decide +kernel, by decide +kernel⟩
  generalize worldOfDial = w at reached isPushed isOther scope ⊢
  obtain ⟨entry, read, rfl, _⟩ := read_pushed_surface fresh {} watchful reached gaugeSurface
    (Action.run_of_value? isPushed) scope
  obtain ⟨other, remembered, same⟩ := HandleEntry.exists_surface isOther
  obtain ⟨number, typeName⟩ := of_decide_eq_true same
  rw [remembered] at read
  exact ⟨other, read, by rw [number]; decide, typeName⟩

/-- Two types are forwarded, the machine is closed under the session, and the surfaces are pushed again. -/
def closedWorld : World :=
  ((Command.runAll (callerAt 1) [.bind "gauge" (.forward (blankSpec "Gauge")),
    .bind "dial" (.forward (blankSpec "Dial")), .machine [.close],
    .setGlobal "x" (.literal (.var "dial")), .setGlobal "y" (.literal (.var "gauge"))]).run
      (World.openSession { installPrint := false } (.start 1) .empty)).2

/-- Closing the machine disturbs an open session: the proxies that it has pinned are gone, and a number
    under which one was kept is used for the other one's. -/
theorem closed_machine_confuses_surfaces :
    closedWorld.session.isTornDown = false ∧ ∃ gauge dial w',
      closedWorld.host.vars.get? "gauge" = some (.surface gauge) ∧
        (Session.getGlobal "y").run closedWorld = (.value (.surface dial), w') ∧
          dial.number ≠ gauge.number := by
  have isOpen : closedWorld.session.isTornDown = false := by decide +kernel
  have isSaved : ((closedWorld.host.vars.get? "gauge").bind HostValue.surface?).any
      (fun s => decide (s.number = 0)) = true := by decide +kernel
  have isRead : (((Session.getGlobal "y").run closedWorld).1.value?.bind HostValue.surface?).any
      (fun s => decide (s.number = 1)) = true := by decide +kernel
  generalize closedWorld = w at isOpen isSaved isRead
  obtain ⟨gauge, saved, first⟩ := HostValue.exists_surface isSaved
  obtain ⟨dial, read, second⟩ := HostValue.exists_surface isRead
  refine ⟨isOpen, gauge, dial, _, saved, Action.run_of_value? read, ?_⟩
  rw [of_decide_eq_true first, of_decide_eq_true second]
  decide

end ScriptHost
