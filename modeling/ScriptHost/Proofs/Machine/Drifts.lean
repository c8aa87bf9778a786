import ScriptHost.Proofs.Machine.Courses
/-!
# How the bridge changes the world

The operations of the bridge and of a session that run no code of scripts are made of a few elementary
changes: tame ones of the machine, the building of a proxy, pinning, unpinning and closing; issuing
handles and giving them up; and changes of the session or the host that touch neither handles nor
records.  A `Drift` is a preorder on worlds along which all of these lead, and then everything made of
them leads along it too.
-/

namespace ScriptHost

open World Machine

/-- A preorder on worlds along which the bridge changes them. -/
structure Drift where
  Leads : World → World → Prop
  refl : ∀ w, Leads w w
  trans : ∀ {w₁ w₂ w₃}, Leads w₁ w₂ → Leads w₂ w₃ → Leads w₁ w₃
  -- The machine.
  tame : ∀ {α : Type} {f : Machine → α × Machine}, IsTame f →
    ∀ w : World, Leads w { w with machine := (f w.machine).2 }
  newProxy : ∀ (t : Token) (typeName : String) (w : World),
    Leads w { w with machine := w.machine.newProxy t typeName }
  reference : ∀ (i : Int) (w : World), Leads w { w with machine := (w.machine.reference i).2 }
  releaseReference : ∀ (r : Nat) (w : World),
    Leads w { w with machine := w.machine.releaseReference r }
  close : ∀ w : World, Leads w { w with machine := w.machine.close }
  -- The session.
  alloc : ∀ (entry : HandleEntry) (tag : UInt32) (w : World), Leads w { w with
    session := { w.session with handles := (w.session.handles.alloc entry tag).2 } }
  release : ∀ (t : Token) (w : World), Leads w { w with
    session := { w.session with handles := (w.session.handles.release t).2 } }
  releaseAll : ∀ w : World, Leads w { w with
    session := { w.session with handles := w.session.handles.releaseAll.2, isTornDown := true } }
  session : ∀ (w : World) (s : Session), s.handles = w.session.handles →
    s.isTornDown = w.session.isTornDown → Leads w { w with session := s }
  -- The host.
  host : ∀ (w : World) (h : HostStore), h.records = w.host.records → Leads w { w with host := h }

namespace Drift

variable (D : Drift) {ε ε' α β : Type}

/-- The action, run in any world, changes it along the drift. -/
def Keeps (x : Action World ε α) : Prop := ∀ w, D.Leads w (x.run w).2

variable {D}

/-! ## Shapes of actions -/

theorem of_unchanged {x : Action World ε α} (unchanged : ∀ w, (x.run w).2 = w) : D.Keeps x := fun w => by
  rw [unchanged]
  exact D.refl w

theorem value (a : α) : D.Keeps (pure a : Action World ε α) := of_unchanged fun _ => rfl

theorem failure (e : ε) : D.Keeps (Action.fail e : Action World ε α) := of_unchanged fun _ => rfl

theorem ofRules (r : Except BridgeError α) : D.Keeps (Bridge.ofExcept r) := by
  cases r with
  | ok a => exact value a
  | error e => exact of_unchanged fun _ => rfl

theorem askSession (f : Session → α) : D.Keeps (World.askSession f : Action World ε α) :=
  of_unchanged fun _ => rfl

theorem askHost (f : HostStore → α) : D.Keeps (World.askHost f : Action World ε α) :=
  of_unchanged fun _ => rfl

/-- The session is changed, but for its handles and whether it is torn down. -/
theorem changeSession (f : Session → Session)
    (handles : ∀ s, (f s).handles = s.handles := by exact fun _ => rfl)
    (isTornDown : ∀ s, (f s).isTornDown = s.isTornDown := by exact fun _ => rfl) :
    D.Keeps (World.changeSession f : Action World ε Unit) := fun w =>
  D.session w (f w.session) (handles w.session) (isTornDown w.session)

/-- The host is changed, but for its records. -/
theorem onHost (f : HostStore → α × HostStore)
    (records : ∀ h, (f h).2.records = h.records := by exact fun _ => rfl) :
    D.Keeps (World.onHost f : Action World ε α) := fun w => D.host w (f w.host).2 (records w.host)

theorem changeHost (f : HostStore → HostStore)
    (records : ∀ h, (f h).records = h.records := by exact fun _ => rfl) :
    D.Keeps (World.changeHost f : Action World ε Unit) := fun w => D.host w (f w.host) (records w.host)

theorem Keeps.seq {x : Action World ε α} {f : α → Action World ε β} (first : D.Keeps x)
    (second : ∀ a, D.Keeps (f a)) : D.Keeps (x >>= f) := fun w => by
  have led := first w
  rw [Action.run_bind]
  rcases ran : x.run w with ⟨a | e | _, w₁⟩ <;> rw [ran] at led
  · exact D.trans led (second a w₁)
  · exact led
  · exact led

theorem Keeps.attempt {x : Action World ε α} (keeps : D.Keeps x) :
    D.Keeps (Action.attempt x : Action World ε' (Except ε α)) := fun w => by
  have led := keeps w
  rw [Action.run_attempt]
  rcases ran : x.run w with ⟨a | e | _, w₁⟩ <;> rwa [ran] at led

theorem onMachine {f : Machine → α × Machine}
    (leads : ∀ w : World, D.Leads w { w with machine := (f w.machine).2 }) :
    D.Keeps (World.onMachine f : Action World ε α) := leads

theorem changeMachine {f : Machine → Machine}
    (leads : ∀ w : World, D.Leads w { w with machine := f w.machine }) :
    D.Keeps (World.changeMachine f : Action World ε Unit) := leads

theorem change {f : Machine → Machine} (tame : IsTame fun m => ((), f m)) :
    D.Keeps (World.changeMachine f : Action World ε Unit) := fun w => D.tame tame w

/-! ## Values across the bridge -/

theorem issue (entry : HandleEntry) (tag : UInt32) : D.Keeps (Bridge.alloc entry tag) :=
  Keeps.seq (D.alloc entry tag) fun _ => ofRules _

theorem pushPinned (t : Token) : D.Keeps (Bridge.pushPinned t) := by
  refine (askSession _).seq fun pinned => ?_
  cases pinned with
  | none => exact value _
  | some r =>
    refine (onMachine (D.tame (isSteady_pushReference r).isTame)).seq fun isThere => ?_
    cases isThere with
    | true => exact value _
    | false => exact (change (isSteady_pop 1).isTame).seq fun _ => value _

theorem pushProxy (t : Token) (typeName : String) : D.Keeps (Bridge.pushProxy t typeName) := by
  refine (pushPinned t).seq fun isPushed => ?_
  cases isPushed with
  | true => exact value _
  | false =>
    exact Keeps.seq (changeMachine (D.newProxy t typeName)) fun _ =>
      Keeps.seq (onMachine (D.reference (-1))) fun _ => changeSession _

theorem objectToken (o : HostObject) : D.Keeps (Bridge.objectToken o) := by
  refine (askSession _).seq fun found => ?_
  cases found with
  | some t => exact value t
  | none => exact issue _ _

theorem surfaceToken (s : Surface) : D.Keeps (Bridge.surfaceToken s) := by
  refine (askSession _).seq fun handles => (askHost _).seq fun published => ?_
  cases published.filter fun t => (handles.get? t).isSome with
  | some t => exact value t
  | none => exact (issue _ _).seq fun t => (changeHost _).seq fun _ => value t

theorem functionReference (number : Nat) : D.Keeps (Bridge.functionReference number) := by
  refine (askHost _).seq fun r => ?_
  cases r with
  | some reference => exact value _
  | none => exact failure _

theorem pushEntry (entry : HandleEntry) : D.Keeps (Bridge.push entry.toValue) := by
  cases entry with
  | object o => exact (objectToken o).seq fun t => pushProxy t _
  | surface s => exact (surfaceToken s).seq fun t => pushProxy t _

theorem pinFunction (i : Int) : D.Keeps (Bridge.pinFunction i) :=
  (onMachine (D.reference i)).seq fun _ => (changeSession _).seq fun _ =>
    (onHost _).seq fun _ => value _

theorem disposeFunction (number : Nat) : D.Keeps (Bridge.disposeFunction number) :=
  (functionReference number).seq fun r => (changeHost _).seq fun _ =>
    (changeMachine (D.releaseReference r)).seq fun _ => changeSession _

/-! ## Sessions -/

theorem releaseToken (t : Token) : D.Keeps (Session.releaseToken t) := by
  have released (s : Session) (w : World) (same : s = w.session) : D.Leads w { w with
      session := { s with handles := (s.handles.release t).2, proxies := s.proxies.erase t } } := by
    subst same
    exact D.trans (D.release t w) (D.session _ _ rfl rfl)
  refine (askSession _).seq fun proxy => Keeps.seq (fun w => released _ w rfl) fun _ => ?_
  cases proxy with
  | some r => exact changeMachine (D.releaseReference r)
  | none => exact value _

/-- Nothing is paid for. -/
def course (D : Drift) : Course where
  Leads _ := D.Leads
  refl := D.refl
  mono leads _ := leads
  trans := D.trans
  tame := D.tame
  session w s handles _ _ _ isTornDown := D.session w s handles isTornDown
  newSurface _ w := D.host w _ rfl
  pushEntry entry w := pushEntry entry w
  readFunction {w i j} slot := by
    have led : D.Leads w ((Bridge.pinFunction j).run w).2 := pinFunction j w
    have run_eq : (Bridge.read i).run w = (Bridge.pinFunction j).run w := by simp [Bridge.read, slot]
    rwa [run_eq]
  releaseToken t w := releaseToken t w

theorem push (v : HostValue) : D.Keeps (Bridge.push v) := fun _ => D.course.push v

theorem pushAll (size : Int) (vs : List HostValue) : D.Keeps (Bridge.pushAll size vs) := by
  induction vs with
  | nil => exact value ()
  | cons v rest ih =>
    refine (push v).attempt.seq fun result => ?_
    cases result with
    | ok _ => exact ih
    | error r => exact (change (isSteady_setTop size).isTame).seq fun _ => failure r

theorem read (i : Int) : D.Keeps (Bridge.read i) := fun _ => D.course.read i

theorem registerType (d : TypeDescriptor) : D.Keeps (Session.registerType d) := fun _ =>
  D.course.registerType d

theorem forwardType (d : TypeDescriptor) : D.Keeps (Session.forwardType d) := fun _ =>
  D.course.forwardType d

theorem pinChunk : D.Keeps Session.pinChunk := by
  refine (onMachine (D.reference (-1))).seq fun r => (change (isSteady_pop 1).isTame).seq fun _ =>
    (askSession _).seq fun stale => (changeSession _).seq fun _ => ?_
  cases stale with
  | some stale => exact changeMachine (D.releaseReference stale)
  | none => exact value _

theorem takeChunk : D.Keeps Session.takeChunk := by
  refine (askSession _).seq fun chunk => ?_
  cases chunk with
  | none => exact value _
  | some r =>
    have taken (w : World) : D.Leads w
        { w with machine := (w.machine.pushReference r).2.releaseReference r } :=
      D.trans (D.tame (isSteady_pushReference r).isTame w) (D.releaseReference r _)
    exact (changeSession _).seq fun _ => (changeMachine taken).seq fun _ => value _

theorem teardown : D.Keeps Session.teardown := by
  refine (askSession fun s => s).seq fun s => ?_
  cases s.isTornDown with
  | true => exact value ()
  | false =>
    have closed : D.Keeps (World.changeSession (fun s =>
        { s with
          handles := s.handles.releaseAll.2, proxies := .empty, surfaces := .empty, chunk := none,
          isTornDown := true }) >>= fun _ => World.changeMachine Machine.close : Bridge Unit) :=
      Keeps.seq (fun w => D.trans (D.releaseAll w) (D.session _ _ rfl rfl)) fun _ => changeMachine D.close
    cases s.chunk with
    | some r => exact (changeMachine (D.releaseReference r)).seq fun _ => closed
    | none => exact closed

end Drift

end ScriptHost
