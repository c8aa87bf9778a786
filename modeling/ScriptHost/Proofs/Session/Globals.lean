import ScriptHost.Proofs.Session.Publishing
/-!
# What a forwarding does to the globals

A type that is forwarded is published under its name, which is assigned.  Where it had been forwarded under
another name, that name is cleared, so that the surface that was replaced is not left behind.  No other
global is touched.

The old name is cleared whatever it holds by then.  If the host, a script or the forwarding of another type
has assigned it since, their value is lost.  `forwarding_oversteps_iff` says when this happens.
-/

namespace ScriptHost

open World Machine

/-! ## Globals under a push -/

section Pushing

variable {w w' : World}

theorem Machine.global_pushReference (m : Machine) (r : Nat) (name : String) :
    (m.pushReference r).2.global name = m.global name := by
  rw [pushReference]
  cases m.referenced? r <;> rfl

theorem Bridge.global_pushProxy (whole : w.machine.base ≤ w.machine.height) (t : Token) (typeName name : String) :
    ((Bridge.pushProxy t typeName).run w).2.machine.global name = w.machine.global name := by
  cases pinned : w.session.proxies.get? t with
  | none =>
    rw [run_pushProxy_new pinned]
    dsimp only
    rw [global_newProxy whole]
  | some r =>
    have pushed := global_pushReference w.machine r name
    cases kept : (w.machine.pushReference r).1 with
    | true => simpa [pushProxy, pushPinned, pinned, kept] using pushed
    | false =>
      -- A nil was pushed and popped before the proxy was built.
      have popped := (isSteady_pop 1).staysWhole ((isSteady_pushReference r).staysWhole whole)
      simp only [pushProxy, pushPinned, pinProxy, pinned, kept, Action.run_bind, run_askSession, run_onMachine,
        run_changeMachine, run_changeSession, Action.run_pure, if_false, Bool.false_eq_true]
      rw [global_newProxy popped]
      exact pushed

/-- A push fails at once, or comes down to that of a proxy. -/
theorem Bridge.run_pushEntry_cases (w : World) (entry : HandleEntry) :
    (∃ r, (Bridge.push entry.toValue).run w = (.failure r, w)) ∨
      ∃ t w₀, (Bridge.push entry.toValue).run w = (Bridge.pushProxy t entry.typeName).run w₀ ∧
        w₀.machine = w.machine ∧ w₀.session.surfaces = w.session.surfaces := by
  rw [run_push_entry]
  cases found : w.liveToken? entry with
  | some t => exact .inr ⟨t, w, rfl, rfl, rfl⟩
  | none =>
    cases full : w.session.handles.isFull with
    | true => exact .inl ⟨_, run_issueProxy_full full entry⟩
    | false =>
      obtain ⟨t, h, served⟩ := HandleStore.alloc_of_room full entry entry.tag
      exact .inr ⟨t, _, run_issueProxy_served served, rfl, rfl⟩

/-- A thing is pushed on the stack, and neither a global nor a published surface is another then. -/
theorem Bridge.sparing_pushEntry (whole : w.machine.base ≤ w.machine.height) {entry : HandleEntry}
    (pushed : (Bridge.push entry.toValue).run w = (.value (), w')) :
    (∀ name, w'.machine.global name = w.machine.global name) ∧
      w'.session.surfaces = w.session.surfaces := by
  rcases run_pushEntry_cases w entry with ⟨r, refused⟩ | ⟨t, w₀, came, machine, surfaces⟩
  · rw [refused] at pushed
    cases pushed
  · rw [← machine] at whole ⊢
    have global := global_pushProxy whole t entry.typeName
    have session := session_pushProxy_cases w₀ t entry.typeName
    rw [← came, pushed] at global session
    refine ⟨global, ?_⟩
    rcases session with ⟨same, -⟩ | ⟨r, inserted⟩
    · rw [same, surfaces]
    · rw [inserted, surfaces]

end Pushing

/-! ## Globals under a forwarding -/

/-- The name under which the type is published, if it is. -/
def World.nameFor? (w : World) (type : RecordType) : Option String :=
  (w.session.surfaces.get? type).map Surface.typeName

theorem Machine.global_setGlobal_ne (m : Machine) {name other : String} (differ : other ≠ name) :
    (m.setGlobal name).global other = m.global other := by
  have popped : m.popValue.2.globals = m.globals := by
    rw [popValue]
    split <;> rfl
  simp [setGlobal, global, Table.get_set, popped, utf8Encode_inj, Ne.symm differ]

namespace Session

variable {w w' : World}

/-- To clear a global is to assign nil to it. -/
theorem global_cleared {w₁ : World} (whole : w₁.machine.base ≤ w₁.machine.height) (previous : Surface)
    (name other : String) :
    (if previous.typeName = name then w₁ else
      { w₁ with machine := (w₁.machine.push .nil).setGlobal previous.typeName }).machine.global other =
        if some previous.typeName = some other ∧ other ≠ name then .nil else w₁.machine.global other := by
  by_cases same : previous.typeName = name
  · rw [if_pos same, if_neg]
    exact fun cleared => cleared.2 ((Option.some.inj cleared.1).symm.trans same)
  · rw [if_neg same]
    dsimp only
    rw [global_setGlobal (isTop_push whole .nil)]
    by_cases cleared : other = previous.typeName
    · rw [if_pos cleared, if_pos ⟨congrArg some cleared.symm, cleared ▸ same⟩]
    · rw [if_neg cleared, if_neg fun both => cleared (Option.some.inj both.1).symm]
      rfl

theorem global_releaseToken (w : World) (t : Token) (name : String) :
    ((releaseToken t).run w).2.machine.global name = w.machine.global name := by
  rw [run_releaseToken]
  cases w.session.proxies.get? t with
  | none => rfl
  | some r => exact congrArg (·.get (utf8Encode name)) (globals_releaseReference w.machine r)

/-- Of a surface that is withdrawn the name is cleared, unless its successor has the same one. -/
theorem global_withdrawn (whole : w.machine.base ≤ w.machine.height) (previous : Option Surface)
    (name other : String) : (withdrawn w previous name).machine.global other =
      if previous.map Surface.typeName = some other ∧ other ≠ name then .nil
      else w.machine.global other := by
  cases previous with
  | none => simp [withdrawn]
  | some previous =>
    rw [Option.map_some, withdrawn]
    cases published : w.host.publishedToken previous with
    | none =>
      rw [run_withdraw_unpublished published]
      exact global_cleared whole previous name other
    | some t =>
      have settles : w.machine.Settles ((releaseToken t).run w).2.machine := Drift.releaseToken (D := settling) t w
      rw [run_withdraw_published published, ← global_releaseToken w t other]
      exact global_cleared (settles.whole whole) previous name other

/-- A session that forwards a type is open. -/
theorem isOpen_of_forwarded {d : TypeDescriptor} {s : Surface}
    (forwarded : (forwardType d).run w = (.value s, w')) : w.session.isTornDown = false := by
  cases tornDown : w.session.isTornDown with
  | false => rfl
  | true => simp [forwardType, registerType, run_checkOpen_of_isTornDown tornDown] at forwarded

/-- A forwarding assigns the name of the type, and clears the other one that the type had before. -/
theorem global_forwardType (whole : w.machine.base ≤ w.machine.height) {d : TypeDescriptor} {s : Surface}
    (forwarded : (forwardType d).run w = (.value s, w')) {name : String} (other : name ≠ d.name) :
    w'.machine.global name =
      if w.nameFor? d.type = some name then .nil else w.machine.global name := by
  obtain ⟨rfl, w₁, pushed, rfl⟩ := forwardType_value_cases (isOpen_of_forwarded forwarded) forwarded
  have pushedEntry : (Bridge.push (HandleEntry.surface (forwardedSurface w d)).toValue).run
      (halfForwarded w d) = (.value (), w₁) := pushed
  obtain ⟨kept, surfaces⟩ := Bridge.sparing_pushEntry (w := halfForwarded w d) whole pushedEntry
  have settles := Drift.push (D := settling) (.surface (forwardedSurface w d)) (halfForwarded w d)
  rw [pushed] at settles
  have whole₁ : (announced w₁ d (forwardedSurface w d)).machine.base ≤
      (announced w₁ d (forwardedSurface w d)).machine.height :=
    (isSteady_setGlobal d.name).staysWhole (Machine.Settles.whole settles whole)
  have before : (announced w₁ d (forwardedSurface w d)).machine.global name = w.machine.global name :=
    (global_setGlobal_ne w₁.machine other).trans (kept name)
  have surfaces : w₁.session.surfaces = w.session.surfaces := surfaces
  have after := global_withdrawn whole₁ (w₁.session.surfaces.get? d.type) d.name name
  rw [before, surfaces] at after
  rw [surfaces, after, nameFor?]
  simp only [other, ne_eq, not_false_eq_true, and_true]

end Session

/-! ## What is lost -/

/-- The global holds the surface that is published for the type: what it reads as carries the token. -/
def World.ShowsSurface (w : World) (type : RecordType) (name : String) : Prop :=
  ∃ t, w.publishedFor? type = some t ∧ w.machine.tokenOf? (w.machine.global name) = some t

/-- A forwarding has changed a global that is neither the one of the type's name nor that of the surface
    which was replaced. -/
def World.Oversteps (w : World) (d : TypeDescriptor) (w' : World) (name : String) : Prop :=
  w'.machine.global name ≠ w.machine.global name ∧ name ≠ d.name ∧
    ¬ (w.nameFor? d.type = some name ∧ w.ShowsSurface d.type name)

/-- Whatever types were forwarded in a session before, and whatever the host and its scripts have assigned,
    a forwarding changes no globals but the one of the type's name and the one of the name that the type
    had until then.  It oversteps exactly if the latter holds something else than the surface that is
    replaced, and then what it holds is lost. -/
theorem forwarding_oversteps_iff {options : SessionOptions} {m : Machine} {host : HostStore}
    (whole : m.base ≤ m.height) {w w' : World} (evolved : Evolves (World.openSession options m host) w)
    {d : TypeDescriptor} {s : Surface} (forwarded : (Session.forwardType d).run w = (.value s, w')) :
    (∀ name, name ≠ d.name → w'.machine.global name =
      if w.nameFor? d.type = some name then .nil else w.machine.global name) ∧
    ∀ name, w.Oversteps d w' name ↔
      (name ≠ d.name ∧ w.nameFor? d.type = some name) ∧
        w.machine.global name ≠ .nil ∧ ¬ w.ShowsSurface d.type name := by
  have whole₁ := World.Path.whole evolved (World.whole_openSession whole options host)
  have global {name : String} (other : name ≠ d.name) := Session.global_forwardType whole₁ forwarded other
  refine ⟨fun name other => global other, fun name => ⟨?_, ?_⟩⟩
  · rintro ⟨changed, other, unshown⟩
    rw [global other] at changed
    by_cases former : w.nameFor? d.type = some name
    · rw [if_pos former] at changed
      exact ⟨⟨other, former⟩, Ne.symm changed, fun shown => unshown ⟨former, shown⟩⟩
    · rw [if_neg former] at changed
      exact absurd rfl changed
  · rintro ⟨⟨other, former⟩, held, unshown⟩
    refine ⟨?_, other, fun both => unshown both.2⟩
    rw [global other, if_pos former]
    exact Ne.symm held

/-- Two types were forwarded under one name, the second of which has it. -/
def sharedGauge : World :=
  ((Command.runAll (callerAt 1) [.forward (blankSpec "Gauge"), .forward ⟨⟨"Meter", .plain⟩, "Gauge", []⟩]).run
    (World.openSession {} (.start 1) .empty)).2

/-- Then the first one was forwarded under another name. -/
def partedGauge : World := ((Session.forwardType (.blank "Dial" ⟨"Gauge", .plain⟩)).run sharedGauge).2

/-- The second type is published still, but its name holds nothing. -/
theorem forwarding_oversteps_iff_of_shared :
    sharedGauge.Oversteps (.blank "Dial" ⟨"Gauge", .plain⟩) partedGauge "Gauge" ∧
      partedGauge.nameFor? ⟨"Meter", .plain⟩ = some "Gauge" ∧
      partedGauge.machine.global "Gauge" = .nil := by
  have evolved : Evolves (World.openSession {} (.start 1) .empty) sharedGauge :=
    evolves_runAll (by decide +kernel) 1 _
  have forwarded : (Session.forwardType (.blank "Dial" ⟨"Gauge", .plain⟩)).run sharedGauge =
      (.value (Session.forwardedSurface sharedGauge (.blank "Dial" ⟨"Gauge", .plain⟩)), partedGauge) :=
    Session.run_forwardType_of_isSome (by decide +kernel) (by decide +kernel)
  have former : sharedGauge.nameFor? ⟨"Gauge", .plain⟩ = some "Gauge" := by decide +kernel
  have held : (sharedGauge.machine.global "Gauge").address? = some 2 := by decide +kernel
  have foreign : sharedGauge.machine.tokenOf? (sharedGauge.machine.global "Gauge") ≠
      sharedGauge.publishedFor? ⟨"Gauge", .plain⟩ := by decide +kernel
  have published : partedGauge.nameFor? ⟨"Meter", .plain⟩ = some "Gauge" := by decide +kernel
  generalize sharedGauge = w at evolved forwarded former held foreign ⊢
  generalize partedGauge = w' at forwarded published ⊢
  obtain ⟨global, oversteps⟩ := forwarding_oversteps_iff (by decide) evolved forwarded
  refine ⟨(oversteps "Gauge").2 ⟨⟨by decide, former⟩, ?_, ?_⟩, published, ?_⟩
  · rw [Value.eq_table held]
    exact Value.noConfusion
  · rintro ⟨t, shown, carried⟩
    exact foreign (carried.trans shown.symm)
  · rw [global "Gauge" (by decide)]
    exact if_pos former

end ScriptHost
