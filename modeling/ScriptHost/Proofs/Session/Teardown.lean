import ScriptHost.Proofs.Session.Functions
import ScriptHost.Proofs.Session.Turnover
/-!
# After the teardown

The teardown gives up every handle and closes the machine.  From then on the session itself refuses all
that is asked of it.  But host code can still push values and call the script functions that it kept,
which does not ask the session.  An object that is pushed is issued a new handle, and that is the only
way to one (`World.HandsOut`).  A call of a function fails as the machine is closed, and leaves on the
stack what was pushed for it.

The tokens that were issued before do not resolve any more.
-/

namespace ScriptHost

open World Machine

/-! ## What stays shut -/

/-- The session is torn down and its machine closed. -/
structure World.IsShut (w : World) : Prop where
  isTornDown : w.session.isTornDown = true
  isClosed : w.machine.isClosed = true

theorem Session.isShut_teardown {w : World} (isOpen : w.session.isTornDown = false) :
    (Session.teardown.run w).2.IsShut := by
  rw [run_teardown isOpen]
  exact ⟨rfl, isClosed_close _⟩

/-- No operation of the bridge opens anything again. -/
def shutting : Drift where
  Leads w w' := w.IsShut → w'.IsShut
  refl _ shut := shut
  trans first second shut := second (first shut)
  tame tame w shut := ⟨shut.isTornDown, (tame.isClosed w.machine).trans shut.isClosed⟩
  newProxy t typeName w shut :=
    ⟨shut.isTornDown, ((isRelative_newProxy t typeName).isClosed w.machine).trans shut.isClosed⟩
  reference i w shut := ⟨shut.isTornDown, ((isRelative_reference i).isClosed w.machine).trans shut.isClosed⟩
  releaseReference r w shut :=
    ⟨shut.isTornDown, ((isRelative_releaseReference r).isClosed w.machine).trans shut.isClosed⟩
  close w shut := ⟨shut.isTornDown, isClosed_close w.machine⟩
  alloc _ _ _ shut := ⟨shut.isTornDown, shut.isClosed⟩
  release _ _ shut := ⟨shut.isTornDown, shut.isClosed⟩
  releaseAll _ shut := ⟨rfl, shut.isClosed⟩
  session _ _ _ isTornDown shut := ⟨isTornDown.trans shut.isTornDown, shut.isClosed⟩
  host _ _ _ shut := ⟨shut.isTornDown, shut.isClosed⟩

namespace World

variable {bars : Op → World → Prop} {w w' : World}

theorem Step.isShut (step : Step bars w w') (shut : w.IsShut) : w'.IsShut := by
  cases step.goes shutting with
  | leads leads => exact leads shut
  | edits edits => exact ⟨shut.isTornDown, edits.isClosed.trans shut.isClosed⟩
  | plain | emit => exact ⟨shut.isTornDown, shut.isClosed⟩

/-! ## What is refused -/

/-- All that the session is asked for fails as it is closed, and changes nothing. -/
structure RefusesSession (w : World) : Prop where
  registerType : ∀ d, (Session.registerType d).run w = (.failure (.error (.vm .closed)), w)
  forwardType : ∀ d, (Session.forwardType d).run w = (.failure (.error (.vm .closed)), w)
  setGlobal : ∀ name v, (Session.setGlobal name v).run w = (.failure (.error (.vm .closed)), w)
  getGlobal : ∀ name, (Session.getGlobal name).run w = (.failure (.error (.vm .closed)), w)
  pushObject : ∀ name type record,
    (Session.pushObject name type record).run w = (.failure (.error (.vm .closed)), w)
  loadText : ∀ chunk source, (Session.loadText chunk source).run w = (.failure (.error (.vm .closed)), w)
  execute : ∀ c, (Session.execute c).run w = (.failure (.error (.vm .closed)), w)
  runText : ∀ c chunk source, (Session.runText c chunk source).run w = (.failure (.error (.vm .closed)), w)
  callGlobal : ∀ c name args,
    (Session.callGlobal c name args).run w = (.failure (.error (.vm .closed)), w)
  teardown : Session.teardown.run w = (.value (), w)

theorem IsShut.refusesSession (shut : w.IsShut) : w.RefusesSession := by
  have fails {α : Type} (x : Unit → Bridge α) :
      (Session.checkOpen >>= x).run w = (.failure (.error (.vm .closed)), w) := by
    rw [Action.run_bind, Session.run_checkOpen_of_isTornDown shut.isTornDown]
  have registerType (d : TypeDescriptor) :
      (Session.registerType d).run w = (.failure (.error (.vm .closed)), w) := fails _
  have loadText (chunk source : String) :
      (Session.loadText chunk source).run w = (.failure (.error (.vm .closed)), w) := fails _
  refine ⟨registerType, fun d => ?_, fun name v => fails _, fun name => fails _,
    fun name type record => fails _, loadText, fun c => fails _, fun c chunk source => ?_,
    fun c name args => fails _, Session.run_teardown_again shut.isTornDown⟩
  · rw [Session.forwardType, Action.run_bind, registerType d]
  · rw [Session.runText, Action.run_bind, loadText chunk source]

end World

/-! ## What is issued -/

theorem Bridge.handles_read (w : World) (i : Int) :
    ((Bridge.read i).run w).2.session.handles = w.session.handles := by
  rcases read_cases w i with unchanged | ⟨j, slot⟩
  · rw [unchanged]
  · rw [run_read_function_at slot]

namespace HandleStore

variable {h : HandleStore}

theorem size_alloc (tidy : h.IsTidy) (room : h.isFull = false) (entry : HandleEntry) (tag : UInt32) :
    (h.alloc entry tag).2.size = h.size + 1 := by
  rcases alloc_cases tidy entry tag with ⟨limit, found, reached, _⟩ | ⟨_, i, t, h', served, _, issues, _⟩
  · have full := (isFull_iff h).2 ⟨limit, found, reached⟩
    rw [room] at full
    cases full
  · rw [served]
    exact issues.size

end HandleStore

namespace World

/-- So many handles were issued, each as a thing was pushed that had none; else the handles stayed as they
    were. -/
inductive HandsOut (w : World) : Nat → World → Prop where
  | refl : HandsOut w 0 w
  | idle {n : Nat} {w₁ w' : World} (before : HandsOut w n w₁)
      (same : w'.session.handles = w₁.session.handles) : HandsOut w n w'
  | issue {n : Nat} {w₁ : World} {entry : HandleEntry} (before : HandsOut w n w₁)
      (missing : w₁.liveToken? entry = none) (room : w₁.session.handles.isFull = false) :
      HandsOut w (n + 1) ((Bridge.push entry.toValue).run w₁).2

variable {bars : Op → World → Prop} {w w₁ w' : World} {n : Nat}

theorem handles_push_missing {entry : HandleEntry} (missing : w.liveToken? entry = none) :
    ((Bridge.push entry.toValue).run w).2.session.handles =
      (w.session.handles.alloc entry entry.tag).2 := by
  rw [Bridge.run_push_entry, missing]
  exact (Bridge.session_issueProxy w entry).1

/-- The slots stay at the generations at which they are. -/
theorem HandsOut.turnover (handsOut : HandsOut w n w') (tidy : w.session.handles.IsTidy) :
    w.session.handles.Turnover 0 w'.session.handles ∧
      w'.session.handles.size = w.session.handles.size + n := by
  induction handsOut with
  | refl => exact ⟨.refl tidy, rfl⟩
  | idle _ same ih => rwa [same]
  | @issue n w₁ entry _ missing room ih =>
    obtain ⟨turnover, size⟩ := ih
    rw [handles_push_missing missing]
    exact ⟨turnover.trans (.alloc turnover.tidy entry entry.tag), by
      rw [HandleStore.size_alloc turnover.tidy room, size, Nat.add_assoc]⟩

theorem HandsOut.push (before : HandsOut w n w₁) (v : HostValue) :
    ∃ n', HandsOut w n' ((Bridge.push v).run w₁).2 := by
  have entry (entry : HandleEntry) : ∃ n', HandsOut w n' ((Bridge.push entry.toValue).run w₁).2 := by
    cases found : w₁.liveToken? entry with
    | some t =>
      refine ⟨n, before.idle ?_⟩
      rw [Bridge.run_push_entry, found]
      exact (Bridge.session_pushProxy w₁ t entry.typeName).1
    | none =>
      cases full : w₁.session.handles.isFull with
      | true =>
        exact ⟨n, before.idle (by rw [handles_push_missing found, HandleStore.alloc_of_isFull full])⟩
      | false => exact ⟨n + 1, before.issue found full⟩
  cases v with
  | object o => exact entry (.object o)
  | surface s => exact entry (.surface s)
  | function number =>
    refine ⟨n, before.idle ?_⟩
    cases held : w₁.host.functionReference? number <;>
      simp [Bridge.push, Bridge.run_functionReference, held]
  | _ => exact ⟨n, before.idle rfl⟩

theorem HandsOut.step (before : HandsOut w n w₁) (shut : w₁.IsShut) (step : Step bars w₁ w') :
    ∃ n', HandsOut w n' w' := by
  cases step with
  | push v => exact before.push v
  | read i => exact ⟨n, before.idle (Bridge.handles_read w₁ i)⟩
  | disposeFunction number =>
    refine ⟨n, before.idle ?_⟩
    cases held : w₁.host.functionReference? number with
    | none => simp [Bridge.disposeFunction, Bridge.run_functionReference, held]
    | some r => rw [Bridge.run_disposeFunction held]
  -- What the session is asked for it refuses, so that its handles stay as they are.
  | registerType d => exact ⟨n, before.idle (by rw [shut.refusesSession.registerType])⟩
  | forwardType d => exact ⟨n, before.idle (by rw [shut.refusesSession.forwardType])⟩
  | pinChunk => exact ⟨n, before.idle (by rw [Session.run_pinChunk])⟩
  | takeChunk =>
    refine ⟨n, before.idle ?_⟩
    cases held : w₁.session.chunk with
    | none => simp [Session.takeChunk, held]
    | some r => rw [Session.run_takeChunk held]
  | teardown => exact ⟨n, before.idle (by rw [shut.refusesSession.teardown])⟩
  | _ => exact ⟨n, before.idle rfl⟩

theorem Path.handsOut (path : Path bars w w') (shut : w.IsShut) :
    w'.IsShut ∧ ∃ n, HandsOut w n w' := by
  induction path with
  | refl => exact ⟨shut, 0, .refl⟩
  | tail _ step ih =>
    obtain ⟨shut₁, n, handsOut⟩ := ih
    exact ⟨step.isShut shut₁, handsOut.step shut₁ step⟩

/-- What resolved before the teardown does not after it, however many handles are issued. -/
theorem HandsOut.get?_eq_none {w₀ w₁ : World} (tidy : w₁.session.handles.IsTidy)
    (before : Path bars w₁ w₀) (isOpen : w₀.session.isTornDown = false)
    (handsOut : HandsOut (Session.teardown.run w₀).2 n w) {t : Token}
    (live : (w₁.session.handles.get? t).isSome = true)
    (few : w₀.made + 1 < w₁.made + HandleHistory.generationCapacity) :
    w.session.handles.get? t = none := by
  obtain ⟨n₁, turnover, paid⟩ := before.ages tidy
  have ended : (Session.teardown.run w₀).2.session.handles = w₀.session.handles.releaseAll.2 := by
    rw [Session.run_teardown isOpen]
  have torn := turnover.trans (.releaseAll w₀.session.handles)
  rw [← ended] at torn
  obtain ⟨k, -, most, turned⟩ := torn.turned (HandleStore.hasTurned_zero.2 live)
  obtain ⟨k', least', most', turned'⟩ := (handsOut.turnover torn.tidy).1.turned turned
  -- The teardown itself has moved the slot on, so the token cannot be that of its present generation.
  have moved : k ≠ 0 := fun none => by
    rw [none, HandleStore.hasTurned_zero, ended, HandleStore.get?_releaseAll] at turned
    cases turned
  exact turned'.get?_eq_none (by omega) (by omega)

end World

/-! ## What is pushed and called -/

namespace Bridge

variable {w : World} {v : HostValue}

/-- A thing without a token that is live is issued one as it is pushed. -/
theorem push_missing (tidy : w.session.handles.IsTidy) {entry : HandleEntry}
    (missing : w.liveToken? entry = none) (room : w.session.handles.isFull = false)
    (fits : w.session.handles.slots.size < HandleStore.slotCapacity) :
    ∃ t w', (push entry.toValue).run w = (.value (), w') ∧ w'.session.handles.get? t = some entry ∧
      w'.session.handles.size = w.session.handles.size + 1 := by
  rcases HandleStore.alloc_cases tidy entry entry.tag with
    ⟨limit, found, reached, _⟩ | ⟨_, i, t, h, served, _, issues, _⟩
  · have full := (HandleStore.isFull_iff _).2 ⟨limit, found, reached⟩
    rw [room] at full
    cases full
  · obtain ⟨w', pushed⟩ := run_pushProxy_value { w with
      session := { w.session with handles := h }, host := w.host.recordToken t entry } t entry.typeName
    have handles : w'.session.handles = h := by
      have same := (session_pushProxy { w with
        session := { w.session with handles := h }, host := w.host.recordToken t entry } t entry.typeName).1
      rwa [pushed] at same
    have resolved := issues.get?_after (Nat.lt_of_le_of_lt issues.next fits) t
    rw [if_pos rfl] at resolved
    refine ⟨t, w', ?_, handles ▸ resolved, handles ▸ issues.size⟩
    rw [run_push_entry, missing]
    exact (run_issueProxy_served served).trans pushed

end Bridge

namespace World

variable {w : World} {number : Nat}

/-- Called under the number the function is pushed with its arguments, and as it cannot be called then all
    of them are left on the stack.  Only if an argument cannot be pushed are the others removed. -/
def AbandonsCall (w : World) (number : Nat) (f : Value) : Prop :=
  ∀ c args,
    (∃ w', (Bridge.pushAll w.machine.top args).run { w with machine := w.machine.push f } =
        (.value (), w') ∧
      (Bridge.callFunction c number args).run w = (.failure (.error (.vm .closed)), w') ∧
      w'.machine.height = w.machine.height + 1 + args.length) ∨
    ∃ r w', (Bridge.pushAll w.machine.top args).run { w with machine := w.machine.push f } =
        (.failure r, w') ∧
      (Bridge.callFunction c number args).run w = (.failure r, w') ∧ w'.machine.height = w.machine.height

theorem IsShut.abandonsCall (shut : w.IsShut) (whole : w.machine.base ≤ w.machine.height) {r : Nat}
    (held : w.host.functionReference? number = some r) :
    w.AbandonsCall number ((w.machine.referenced? r).getD .nil) := by
  intro c args
  rw [Bridge.run_callFunction held, pushReference_eq]
  generalize (w.machine.referenced? r).getD .nil = f
  have whole' := (Stacks.push (w := w) f).whole whole
  have shut' : IsShut { w with machine := w.machine.push f } := ⟨shut.isTornDown, shut.isClosed⟩
  -- Pushing opens nothing, so there is nothing to call after it.
  have stays := shutting.pushAll w.machine.top args { w with machine := w.machine.push f } shut'
  rcases Bridge.pushAll_cases whole' w.machine.top args with
    ⟨w', ran, stacked⟩ | ⟨r, n, w₁, ran, stacked⟩
  · refine .inl ⟨w', ran, ?_, ?_⟩
    · have missing : w'.machine.callee args.length = .missing .closed := by
        rw [ran] at stays
        rw [callee, if_pos stays.isClosed]
      rw [Action.run_bind, ran]
      simp [Bridge.finishCall, Vm.inHost, Vm.run_call, missing]
    · obtain ⟨values, size, stack, _⟩ := stacked
      rw [Machine.height, stack, Array.size_append, size]
      exact congrArg (· + args.length) (Array.size_push f)
  · have cut := ((Stacks.push (w := w) f).trans stacked).setTop_top whole
    refine .inr ⟨r, _, ran, by rw [Action.run_bind, ran], ?_⟩
    rw [cut]
    rfl

end World

/-! ## Sessions -/

/-- A session that is torn down refuses all that it is asked for, and no token from before resolves.  But
    it is not asked as values are pushed and functions called.  Each thing that is pushed without a live
    token is issued one that does resolve, which is all that is ever issued.  And a function that was not
    disposed is pushed for a call with all its arguments, which stay on the stack when the call fails. -/
theorem torn_down_session_issues_what_is_pushed {m : Machine} (whole : m.base ≤ m.height)
    {host : HostStore} {options : SessionOptions} {w₀ w : World}
    (opened : Evolves (openSession options m host) w₀) (isOpen : w₀.session.isTornDown = false)
    (later : Evolves (Session.teardown.run w₀).2 w) :
    w.RefusesSession ∧
    (∀ w₁ t, Evolves (openSession options m host) w₁ → Evolves w₁ w₀ →
      (w₁.session.handles.get? t).isSome = true →
      w₀.made + 1 < w₁.made + HandleHistory.generationCapacity → w.session.handles.get? t = none) ∧
    (∃ n, HandsOut (Session.teardown.run w₀).2 n w ∧ w.session.handles.size = n) ∧
    (∀ entry, w.liveToken? entry = none → w.session.handles.isFull = false →
      w.session.handles.slots.size < HandleStore.slotCapacity →
      ∃ t w', (Bridge.push entry.toValue).run w = (.value (), w') ∧
        w'.session.handles.get? t = some entry ∧
        w'.session.handles.size = w.session.handles.size + 1) ∧
    (∀ v r w', (Bridge.push v).run w = (.failure r, w') → w' = w) ∧
    (∀ number, w.host.functionReference? number = none → w.Refuses number) ∧
    ∀ number r, w.host.functionReference? number = some r →
      w.AbandonsCall number ((w.machine.referenced? r).getD .nil) := by
  have torn := Session.isShut_teardown isOpen
  have closed : Evolves (openSession options m host) (Session.teardown.run w₀).2 := opened.tail .teardown
  have whole' : w.machine.base ≤ w.machine.height :=
    Path.whole (closed.trans later) (whole_openSession whole options host)
  -- Tidiness of the handles is followed from the opening on, where there are none yet.
  have empty := HandleStore.isTidy_empty options.maxHandles
  obtain ⟨shut, n, handsOut⟩ := Path.handsOut later torn
  obtain ⟨_, before, _⟩ := Path.ages closed empty
  obtain ⟨turnover, size⟩ := handsOut.turnover before.tidy
  refine ⟨shut.refusesSession, fun w₁ t opened₁ passed live few => ?_, ⟨n, handsOut, ?_⟩,
    fun entry missing room fits => Bridge.push_missing turnover.tidy missing room fits,
    fun v r w' failed => ?_, fun number disposed => refuses_of_disposed disposed,
    fun number r held => shut.abandonsCall whole' held⟩
  · obtain ⟨_, before₁, _⟩ := Path.ages opened₁ empty
    exact handsOut.get?_eq_none before₁.tidy passed isOpen live few
  · rw [size, Session.run_teardown isOpen, HandleStore.size_releaseAll, Nat.zero_add]
  · rcases Bridge.push_cases w v with ⟨w₁, pushed⟩ | ⟨r₁, failed₁⟩
    · rw [pushed] at failed
      cases failed
    · rw [failed₁] at failed
      exact (Prod.mk.inj failed).2.symm

/-- A session with an object and a function that the host keeps. -/
def keepingWorld : World :=
  ((Command.runAll (callerAt 4) [.forward (blankSpec "Gauge"),
    .bind "gauge" (.pushObject "gauge" ⟨"Gauge", .plain⟩ []), .bind "print" (.getGlobal "print")]).run
      (openSession {} (.start 8) .empty)).2

/-- After the teardown the object is issued a handle as it is pushed again, and a call of the function
    leaves it and its argument on the stack. -/
theorem torn_down_session_issues_gauge :
    (∀ t, (keepingWorld.session.handles.get? t).isSome = true →
      (Session.teardown.run keepingWorld).2.session.handles.get? t = none) ∧
    (∃ o t w, keepingWorld.host.vars.get? "gauge" = some (.object o) ∧
      (Bridge.push (.object o)).run (Session.teardown.run keepingWorld).2 = (.value (), w) ∧
      w.session.handles.get? t = some (.object o) ∧ w.session.handles.size = 1) ∧
    ∃ w, (Bridge.callFunction (callerAt 4) 0 [.int 1]).run (Session.teardown.run keepingWorld).2 =
      (.failure (.error (.vm .closed)), w) ∧ w.machine.height = 2 := by
  have whole : (Machine.start 8).base ≤ (Machine.start 8).height := by decide
  have opened : Evolves (openSession {} (.start 8) .empty) keepingWorld :=
    evolves_runAll (whole_openSession whole {} .empty) 4 _
  have isOpen : keepingWorld.session.isTornDown = false := by decide +kernel
  have few : keepingWorld.made + 1 < keepingWorld.made + HandleHistory.generationCapacity :=
    Nat.add_lt_add_left (by decide +kernel) _
  have isKept : ((keepingWorld.host.vars.get? "gauge").bind HostValue.object?).any (fun o =>
      ((Session.teardown.run keepingWorld).2.liveToken? (.object o)).isNone) = true := by decide +kernel
  have room : (Session.teardown.run keepingWorld).2.session.handles.isFull = false := by decide +kernel
  have fits : (Session.teardown.run keepingWorld).2.session.handles.slots.size <
    HandleStore.slotCapacity := by decide +kernel
  have empty : (Session.teardown.run keepingWorld).2.session.handles.size = 0 := by decide +kernel
  have isHeld : ((Session.teardown.run keepingWorld).2.host.functionReference? 0).isSome = true := by
    decide +kernel
  have bare : (Session.teardown.run keepingWorld).2.machine.height = 0 := by decide +kernel
  obtain ⟨_, stale, _, issues, _, _, called⟩ :=
    torn_down_session_issues_what_is_pushed whole opened isOpen .refl
  refine ⟨fun t live => stale keepingWorld t opened .refl live few, ?_⟩
  -- The world is a closed term, which the tactics below would unfold.
  generalize (Session.teardown.run keepingWorld).2 = w at isKept room fits empty isHeld bare issues called ⊢
  constructor
  · obtain ⟨o, kept, missing⟩ := HostValue.exists_object isKept
    obtain ⟨t, w', pushed, resolved, size⟩ :=
      issues (.object o) (Option.isNone_iff_eq_none.1 missing) room fits
    exact ⟨o, t, w', kept, pushed, resolved, by rw [size, empty]⟩
  · obtain ⟨r, held⟩ := Option.isSome_iff_exists.1 isHeld
    rcases called 0 r held (callerAt 4) [.int 1] with
      ⟨w', _, failed, height⟩ | ⟨_, _, ran, _⟩
    · exact ⟨w', failed, by rw [height, bare]; rfl⟩
    · cases ran

end ScriptHost
