import ScriptHost.Proofs.Session.Resources
/-!
# Who owns a reference

The number under which the machine keeps a value is used again once it is given up, and carries nothing
that tells the old use from the new.  What makes it safe to keep a number is that nobody else has it: the
proxies, the script functions that were not disposed and the chunk of a session all hold references of
their own (`World.IsOwned`).  This does not depend on the handles of the session, nor on what scripts do
to the tables of proxies.  It is kept along every path on which code gives up no reference of others, as
long as the session is open, and so each script function stays what it was until it is disposed
(`World.Upholds`).
-/

namespace ScriptHost

open World Machine

/-! ## Owners -/

/-- The operation gives up a reference that the session holds, or all of them by closing the machine. -/
def Op.Robs (op : Op) (w : World) : Prop :=
  match op with
  | .releaseReference r => ∃ x, w.heldBy x = some r
  | .close => True
  | _ => False

theorem Op.Robs.isEdit {op : Op} {w : World} (robs : op.Robs w) : op.IsEdit := by
  cases op with
  | releaseReference r | close => exact trivial
  | _ => exact robs.elim

namespace World

/-- Each holder of the session has a reference of its own, and the script functions are counted. -/
structure IsOwned (w : World) : Prop where
  owns : w.machine.Owns w.heldBy
  counted : w.session.liveFunctions = w.host.functions.countP Option.isSome

/-- What a change of the world keeps of the script functions that the host holds.  Those that came to
    their end in it are given. -/
structure Upholds (ended : Nat → Prop) (w w' : World) : Prop where
  owned : w'.IsOwned
  grows : w.host.functions.size ≤ w'.host.functions.size
  kept : ∀ {number f}, w.functionOf? number = some f → ended number ∨ w'.functionOf? number = some f
  /-- A function that the host holds no more came to its end. -/
  ended : ∀ {number}, number < w'.host.functions.size → w'.host.functionReference? number = none →
    ended number ∨ (number < w.host.functions.size ∧ w.host.functionReference? number = none)
  /-- What was disposed stays so. -/
  gone : ∀ {number}, number < w.host.functions.size → w.host.functionReference? number = none →
    w'.host.functionReference? number = none

namespace Upholds

variable {ended ended' : Nat → Prop} {w w₁ w' : World}

theorem refl (owned : w.IsOwned) : Upholds ended w w :=
  ⟨owned, Nat.le_refl _, .inr, fun inside disposed => .inr ⟨inside, disposed⟩, fun _ disposed => disposed⟩

theorem mono (upholds : Upholds ended w w') (more : ∀ {number}, ended number → ended' number) :
    Upholds ended' w w' :=
  ⟨upholds.owned, upholds.grows, fun holds => (upholds.kept holds).imp_left more,
    fun inside disposed => (upholds.ended inside disposed).imp_left more, upholds.gone⟩

theorem trans (first : Upholds ended w w₁) (second : Upholds ended w₁ w') : Upholds ended w w' where
  owned := second.owned
  grows := Nat.le_trans first.grows second.grows
  kept holds := (first.kept holds).elim .inl second.kept
  ended inside disposed := (second.ended inside disposed).elim .inl fun ⟨inside, disposed⟩ =>
    first.ended inside disposed
  gone inside disposed := second.gone (Nat.lt_of_lt_of_le inside first.grows) (first.gone inside disposed)

end Upholds

/-- If the session is open after the change, it was open before, and then the change upholds ownership. -/
structure Turns (ended : Nat → Prop) (w w' : World) : Prop where
  isOpen : w'.session.isTornDown = false → w.session.isTornDown = false
  upholds : w'.session.isTornDown = false → w.IsOwned → Upholds ended w w'

namespace Turns

variable {ended ended' : Nat → Prop} {w w₁ w' : World}

theorem refl : Turns ended w w := ⟨id, fun _ => .refl⟩

theorem mono (turns : Turns ended w w') (more : ∀ {number}, ended number → ended' number) :
    Turns ended' w w' :=
  ⟨turns.isOpen, fun isOpen owned => (turns.upholds isOpen owned).mono more⟩

theorem trans (first : Turns ended w w₁) (second : Turns ended w₁ w') : Turns ended w w' where
  isOpen isOpen := first.isOpen (second.isOpen isOpen)
  upholds isOpen owned :=
    have upholds := first.upholds (second.isOpen isOpen) owned
    upholds.trans (second.upholds isOpen upholds.owned)

/-- A change that leaves the script functions to their holders. -/
theorem of_kept (isTornDown : w'.session.isTornDown = w.session.isTornDown)
    (functions : w'.host.functions = w.host.functions)
    (liveFunctions : w'.session.liveFunctions = w.session.liveFunctions)
    (owns : w.IsOwned → w'.machine.Owns w'.heldBy)
    (kept : w.IsOwned → ∀ {number r v}, w.heldBy (.function number) = some r →
      w.machine.referenced? r = some v → w'.machine.referenced? r = some v) : Turns ended w w' where
  isOpen isOpen := isTornDown ▸ isOpen
  upholds _ owned := by
    have same (number : Nat) : w'.host.functionReference? number = w.host.functionReference? number := by
      rw [HostStore.functionReference?, functions]
      rfl
    refine ⟨⟨owns owned, by rw [liveFunctions, functions, owned.counted]⟩, Nat.le_of_eq (by rw [functions]),
      fun {number f} holds => .inr ?_, fun {number} inside disposed => .inr ?_,
      fun {number} _ disposed => (same number).trans disposed⟩
    · rw [functionOf?] at holds ⊢
      rw [same]
      cases held : w.host.functionReference? number with
      | none =>
        rw [held] at holds
        cases holds
      | some r =>
        rw [held] at holds
        exact kept owned held holds
    · rw [functions] at inside
      exact ⟨inside, (same number).symm.trans disposed⟩

/-- A change of what nobody owns. -/
theorem of_same (isTornDown : w'.session.isTornDown = w.session.isTornDown)
    (functions : w'.host.functions = w.host.functions)
    (liveFunctions : w'.session.liveFunctions = w.session.liveFunctions)
    (registry : w.machine.SameRegistry w'.machine)
    (proxies : ∀ t, w'.session.proxies.get? t = w.session.proxies.get? t)
    (chunk : w'.session.chunk = w.session.chunk) : Turns ended w w' := by
  have held : w'.heldBy = w.heldBy := by
    funext x
    cases x with
    | proxy t => exact proxies t
    | function number => rw [heldBy, HostStore.functionReference?, functions]; rfl
    | chunk => exact chunk
  refine .of_kept isTornDown functions liveFunctions (fun owned => ?_) fun _ {_ r _} _ kept =>
    (referenced?_of_eq registry.registry r).trans kept
  rw [held]
  exact owned.owns.of_registry registry

theorem of_machine {m : Machine} (registry : w.machine.SameRegistry m) :
    Turns ended w { w with machine := m } :=
  .of_same rfl rfl rfl registry (fun _ => rfl) rfl

theorem of_tame {α : Type} {f : Machine → α × Machine} (tame : IsTame f) :
    Turns ended w { w with machine := (f w.machine).2 } :=
  .of_machine (.of_tame tame w.machine)

theorem of_host {h : HostStore} (functions : h.functions = w.host.functions) :
    Turns ended w { w with host := h } :=
  .of_same rfl functions rfl ⟨rfl, rfl⟩ (fun _ => rfl) rfl

/-- A change of the session in which nobody comes to hold another reference. -/
theorem of_session {s : Session} (isTornDown : s.isTornDown = w.session.isTornDown)
    (liveFunctions : s.liveFunctions = w.session.liveFunctions)
    (proxies : ∀ t, s.proxies.get? t = w.session.proxies.get? t) (chunk : s.chunk = w.session.chunk) :
    Turns ended w { w with session := s } :=
  .of_same isTornDown rfl liveFunctions ⟨rfl, rfl⟩ proxies chunk

/-- A holder gets a new reference. -/
theorem pin (isTornDown : w'.session.isTornDown = w.session.isTornDown)
    (functions : w'.host.functions = w.host.functions)
    (liveFunctions : w'.session.liveFunctions = w.session.liveFunctions) {x : Holder} {r : Nat} {v : Value}
    (pins : w.IsOwned → w.machine.Pins r v w'.machine) (taken : w'.heldBy x = some r)
    (others : ∀ y, y ≠ x → w'.heldBy y = w.heldBy y) : Turns ended w w' :=
  .of_kept isTornDown functions liveFunctions (fun owned => owned.owns.pin (pins owned) taken others)
    fun owned {_ _ _} _ => (pins owned).kept

/-- A holder gives up its reference. -/
theorem drop (isTornDown : w'.session.isTornDown = w.session.isTornDown)
    (functions : w'.host.functions = w.host.functions)
    (liveFunctions : w'.session.liveFunctions = w.session.liveFunctions) {x : Holder} {r : Nat}
    (machine : w'.machine = w.machine.releaseReference r) (holds : w.heldBy x = some r)
    (gone : w'.heldBy x = none) (others : ∀ y, y ≠ x → w'.heldBy y = w.heldBy y) : Turns ended w w' := by
  have unpins (owned : w.IsOwned) : w.machine.Unpins r w'.machine := by
    obtain ⟨v, live⟩ := owned.owns.live holds
    exact machine ▸ unpins_releaseReference owned.owns.tidy live
  refine .of_kept isTornDown functions liveFunctions
    (fun owned => owned.owns.unpin (unpins owned) (owned.owns.dropped holds gone others))
    fun owned {number q v} held kept => (unpins owned).kept (fun same => ?_) kept
  -- Else it would be a script function that gives up its reference.
  rw [← owned.owns.distinct (same ▸ held) holds, heldBy, HostStore.functionReference?, functions] at gone
  rw [heldBy, HostStore.functionReference?, gone] at held
  cases held

/-- A script pins a value for itself. -/
theorem reference (i : Int) : Turns ended w { w with machine := (w.machine.reference i).2 } := by
  refine .of_kept rfl rfl rfl (fun owned => ?_) fun owned => ?_
  · exact owned.owns.pinOwn (pins_reference owned.owns.tidy i)
  · intro _ _ _ _
    exact (pins_reference owned.owns.tidy i).kept

/-- A reference is given up that the session does not hold. -/
theorem releaseReference {r : Nat} (unheld : ∀ x, w.heldBy x ≠ some r) :
    Turns ended w { w with machine := w.machine.releaseReference r } := by
  cases kept : w.machine.referenced? r with
  | none =>
    rw [releaseReference_of_dead kept]
    exact .refl
  | some v =>
    have unpins (owned : w.IsOwned) := unpins_releaseReference owned.owns.tidy kept
    have different {y : Holder} {q : Nat} (holds : w.heldBy y = some q) : q ≠ r :=
      fun same => unheld y (same ▸ holds)
    refine .of_kept rfl rfl rfl (fun owned => ?_) fun owned => ?_
    · exact owned.owns.unpin (unpins owned) fun y q holds => ⟨holds, different holds⟩
    · intro _ _ _ holds
      exact (unpins owned).kept (different holds)

end Turns

/-! ## Actions -/

/-- The action, run in the world, turns it so. -/
abbrev TurnsBy (ended : Nat → Prop) (w : World) {ε α : Type} (x : Action World ε α) : Prop :=
  Turns ended w (x.run w).2

namespace TurnsBy

variable {ended : Nat → Prop} {w : World}

/-- A proxy is pinned for a token that has none. -/
theorem newProxy {t : Token} (unpinned : w.session.proxies.get? t = none) (typeName : String) :
    TurnsBy ended w (Bridge.pushProxy t typeName) := by
  rw [TurnsBy, Bridge.run_pushProxy_new unpinned]
  have same := SameRegistry.newProxy w.machine t typeName
  generalize w.machine.newProxy t typeName = m at same ⊢
  have added : Turns ended w { w with machine := m } := .of_machine same
  refine added.trans (.pin rfl rfl rfl (x := .proxy t) (fun owned => pins_reference owned.owns.tidy (-1)) ?_
    (heldBy_of_proxies (fun t' other => by simp [Ne.symm other]) rfl rfl))
  simp [heldBy]

theorem pushProxy (t : Token) (typeName : String) : TurnsBy ended w (Bridge.pushProxy t typeName) := by
  cases pinned : w.session.proxies.get? t with
  | none => exact newProxy pinned typeName
  | some r =>
    cases kept : w.machine.referenced? r with
    | some v =>
      rw [TurnsBy, Bridge.run_pushProxy_pinned pinned kept]
      exact .of_tame (isSteady_push (isQuery_const v)).isTame
    | none =>
      -- What a holder holds is there.
      refine ⟨fun isOpen => (Bridge.session_pushProxy w t typeName).2 ▸ isOpen, fun _ owned => ?_⟩
      obtain ⟨v, live⟩ := owned.owns.live (x := .proxy t) pinned
      rw [kept] at live
      cases live

theorem issueProxy (entry : HandleEntry) : TurnsBy ended w (Bridge.issueProxy entry) := by
  have allocated (h : HandleStore) :
      Turns ended w { w with session := { w.session with handles := h } } :=
    .of_session rfl rfl (fun _ => rfl) rfl
  rw [TurnsBy]
  cases full : w.session.handles.isFull with
  | true =>
    rw [Bridge.run_issueProxy_full full]
    exact .refl
  | false =>
    obtain ⟨t, h, served⟩ := HandleStore.alloc_of_room full entry entry.tag
    rw [Bridge.run_issueProxy_served served]
    have recorded : Turns ended { w with session := { w.session with handles := h } } _ :=
      .of_host (HostStore.functions_recordToken w.host t entry)
    exact (allocated h).trans (recorded.trans (pushProxy t entry.typeName))

theorem push_entry (entry : HandleEntry) : TurnsBy ended w (Bridge.push entry.toValue) := by
  have run_eq := Bridge.run_push_entry w entry
  cases found : w.liveToken? entry with
  | some t =>
    rw [found] at run_eq
    rw [TurnsBy, run_eq]
    exact pushProxy t entry.typeName
  | none =>
    rw [found] at run_eq
    rw [TurnsBy, run_eq]
    exact issueProxy entry

/-- A script function is read: the host comes to hold it under a new number. -/
theorem readFunction {i j : Int}
    (slot : w.machine.readSlot (w.machine.absIndex i) = .function (.slot j)) :
    TurnsBy ended w (Bridge.read i) := by
  rw [TurnsBy, Bridge.run_read_function_at slot]
  refine ⟨id, fun _ owned => ?_⟩
  have pins := pins_reference owned.owns.tidy j
  have size : (w.host.newFunction (w.machine.reference j).1).2.functions.size =
      w.host.functions.size + 1 := Array.size_push _
  -- The functions that there were have other numbers.
  have same {number : Nat} (inside : number < w.host.functions.size) :=
    HostStore.functionReference?_newFunction_ne w.host (w.machine.reference j).1 (Nat.ne_of_lt inside)
  refine ⟨⟨?_, ?_⟩, by rw [size]; omega, fun {number f} holds => .inr ?_,
    fun {number} inside disposed => .inr ?_, fun {number} inside disposed => (same inside).trans disposed⟩
  · refine owned.owns.pin pins (x := .function w.host.functions.size) ?_ (heldBy_of_functions
      (fun _ other => HostStore.functionReference?_newFunction_ne _ _ other) rfl rfl)
    simp [heldBy, HostStore.functionReference?_newFunction]
  · simp [HostStore.newFunction, owned.counted]
  · obtain ⟨r, found, kept⟩ := Option.bind_eq_some_iff.1 holds
    obtain ⟨inside, -⟩ := Array.getElem?_eq_some_iff.1 (HostStore.functions_of_reference found)
    exact Option.bind_eq_some_iff.2 ⟨r, (same inside).trans found, pins.kept kept⟩
  · have older : number ≠ w.host.functions.size := fun newest => by
      simp [newest, HostStore.functionReference?_newFunction] at disposed
    have listed : number < w.host.functions.size + 1 := Nat.lt_of_lt_of_eq inside size
    have inside : number < w.host.functions.size := by omega
    exact ⟨inside, (same inside).symm.trans disposed⟩

/-- The proxy of a token is given up together with its reference. -/
theorem releaseToken (t : Token) : TurnsBy ended w (Session.releaseToken t) := by
  rw [TurnsBy, Session.run_releaseToken]
  cases pinned : w.session.proxies.get? t with
  | none =>
    refine .of_same rfl rfl rfl ⟨rfl, rfl⟩ (fun t' => ?_) rfl
    -- Erasing what is not there changes nothing.
    by_cases same : t = t'
    · simp [← same, pinned]
    · simp [same]
  | some r =>
    exact .drop rfl rfl rfl (x := .proxy t) rfl pinned (by simp [heldBy])
      (heldBy_of_proxies (fun t' other => by simp [Ne.symm other]) rfl rfl)

end TurnsBy

/-- Turning is a course.  It leaves the handles aside, so there is nothing to pay for. -/
def turning (ended : Nat → Prop) : Course where
  Leads _ := Turns ended
  refl _ := .refl
  mono turns _ := turns
  trans := Turns.trans
  tame tame _ := .of_tame tame
  session _ _ _ proxies chunk liveFunctions isTornDown :=
    .of_session isTornDown liveFunctions (fun _ => by rw [proxies]) chunk
  newSurface _ _ := .of_host rfl
  pushEntry entry _ := TurnsBy.push_entry entry
  readFunction := TurnsBy.readFunction
  releaseToken t _ := TurnsBy.releaseToken t

namespace TurnsBy

variable {ended : Nat → Prop} {w : World}

/-- A script function that is disposed came to its end, and nobody else gives up anything. -/
theorem upholds_disposed {number r : Nat} (owned : w.IsOwned)
    (held : w.host.functionReference? number = some r) (isEnded : ended number) :
    Upholds ended w { w with
      machine := w.machine.releaseReference r
      session := { w.session with liveFunctions := w.session.liveFunctions - 1 }
      host := w.host.disposeFunction number } := by
  have holds : w.heldBy (.function number) = some r := held
  obtain ⟨v, live⟩ := owned.owns.live holds
  have unpins := unpins_releaseReference owned.owns.tidy live
  have size : (w.host.disposeFunction number).functions.size = w.host.functions.size :=
    Array.size_setIfInBounds
  have same {n : Nat} (other : n ≠ number) :
      (w.host.disposeFunction number).functionReference? n = w.host.functionReference? n :=
    HostStore.functionReference?_disposeFunction_ne w.host other
  refine ⟨⟨?_, ?_⟩, Nat.le_of_eq size.symm, fun {n f} holds' => ?_, fun {n} inside disposed => ?_,
    fun {n} inside disposed => ?_⟩
  · refine owned.owns.unpin unpins (owned.owns.dropped holds ?_
      (heldBy_of_functions (fun _ other => same other) rfl rfl))
    simp [heldBy, HostStore.functionReference?_disposeFunction]
  · exact Nat.sub_eq_of_eq_add (owned.counted.trans (HostStore.countP_disposeFunction held).symm)
  · by_cases isIt : n = number
    · exact .inl (isIt ▸ isEnded)
    · -- No two functions share a reference, so that of the other one is kept.
      obtain ⟨q, found, kept⟩ := Option.bind_eq_some_iff.1 holds'
      have other : q ≠ r := fun shared =>
        isIt (Holder.function.inj (owned.owns.distinct (x := .function n) (shared ▸ found) holds))
      exact .inr (Option.bind_eq_some_iff.2 ⟨q, (same isIt).trans found, unpins.kept other kept⟩)
  · by_cases isIt : n = number
    · exact .inl (isIt ▸ isEnded)
    · exact .inr ⟨size ▸ inside, (same isIt).symm.trans disposed⟩
  · rw [HostStore.functionReference?_disposeFunction, disposed, ite_self]

/-- A script function comes to its end where it is disposed. -/
theorem disposeFunction {number : Nat}
    (ends : ∀ {w'}, (Bridge.disposeFunction number).run w = (.value (), w') → ended number) :
    TurnsBy ended w (Bridge.disposeFunction number) := by
  cases found : w.host.functionReference? number with
  | none =>
    exact Course.LeadsBy.of_unchanged (C := turning ended)
      (by simp [Bridge.disposeFunction, Bridge.run_functionReference, found])
  | some r =>
    have ran := Bridge.run_disposeFunction found
    rw [TurnsBy, ran]
    exact ⟨id, fun _ owned => upholds_disposed owned found (ends ran)⟩

theorem pinChunk : TurnsBy ended w Session.pinChunk := by
  rw [TurnsBy, Session.run_pinChunk]
  have pins (owned : w.IsOwned) := Machine.pins_pinned owned.owns.tidy
  generalize (w.machine.reference (-1)).1 = r at pins ⊢
  generalize (w.machine.reference (-1)).2.pop 1 = m at pins ⊢
  -- The reference of the new chunk, before a stale one is given up.
  have pinned : Turns ended w { w with machine := m, session := { w.session with chunk := some r } } :=
    .pin rfl rfl rfl (x := .chunk) pins rfl (heldBy_of_chunk rfl rfl)
  cases held : w.session.chunk with
  | none => exact pinned
  | some stale =>
    refine ⟨pinned.isOpen, fun isOpen owned => ?_⟩
    have unheld (y : Holder) :
        heldBy { w with machine := m, session := { w.session with chunk := some r } } y ≠ some stale := by
      refine owned.owns.replaced (pins owned) (x := .chunk) held rfl ?_ y
      exact heldBy_of_chunk rfl rfl
    have upholds := pinned.upholds isOpen owned
    exact upholds.trans ((Turns.releaseReference unheld).upholds isOpen upholds.owned)

theorem takeChunk : TurnsBy ended w Session.takeChunk := by
  cases held : w.session.chunk with
  | none =>
    exact Course.LeadsBy.of_unchanged (C := turning ended) (by simp [Session.takeChunk, held])
  | some r =>
    rw [TurnsBy, Session.run_takeChunk held]
    have pushed : Turns ended w { w with machine := (w.machine.pushReference r).2 } :=
      .of_tame (isSteady_pushReference r).isTame
    exact pushed.trans (.drop rfl rfl rfl (x := .chunk) rfl held rfl (heldBy_of_chunk rfl rfl))

theorem teardown : TurnsBy ended w Session.teardown := by
  have tornDown := Session.isTornDown_teardown w
  refine ⟨fun isOpen => ?_, fun isOpen => ?_⟩ <;> rw [isOpen] at tornDown <;> cases tornDown

end TurnsBy

/-! ## Paths -/

section Paths

variable {bars : Op → World → Prop} {w w' : World}

/-- Between the two worlds the script function was disposed. -/
def HasDisposed (bars : Op → World → Prop) (number : Nat) (w w' : World) : Prop :=
  ∃ w₁ w₂, Path bars w w₁ ∧ (Bridge.disposeFunction number).run w₁ = (.value (), w₂) ∧ Path bars w₂ w'

/-- In a step of a run that is stopped before references of the session are given up, a script function
    comes to its end only if it is disposed. -/
theorem Step.turns (safe : ∀ op w, op.Robs w → bars op w) (step : Step bars w w') :
    Turns (fun number => (Bridge.disposeFunction number).run w = (.value (), w')) w w' := by
  cases step with
  | @stack m same whole => exact .of_machine ⟨by rw [same], by rw [same]⟩
  | tame tame => exact .of_tame tame
  | plain plain => exact .of_host (plain w.host).functions
  | emit e => exact .of_same rfl rfl rfl ⟨rfl, rfl⟩ (fun _ => rfl) rfl
  | push v => exact (turning _).push v
  | read i => exact (turning _).read i
  | disposeFunction number =>
    exact TurnsBy.disposeFunction fun ran => Prod.ext (by rw [ran]) rfl
  | registerType d => exact (turning _).registerType d
  | forwardType d => exact (turning _).forwardType d
  | pinChunk => exact TurnsBy.pinChunk
  | takeChunk => exact TurnsBy.takeChunk
  | teardown => exact TurnsBy.teardown
  | @reference i allowed => exact .reference i
  | @releaseReference r allowed => exact .releaseReference fun x held => allowed (safe _ w ⟨x, held⟩)
  | close allowed => exact absurd (safe .close w trivial) allowed
  | @rawSet i name allowed => exact .of_machine (.rawSet w.machine i name)
  | @setMetatable i allowed => exact .of_machine (.setMetatable w.machine i)
  | assign allowed popped found => exact .of_machine ⟨rfl, rfl⟩

theorem Path.turns (safe : ∀ op w, op.Robs w → bars op w) (path : Path bars w w') :
    Turns (fun number => HasDisposed bars number w w') w w' := by
  induction path with
  | refl => exact .refl
  | @tail w₁ w' path step ih =>
    refine (ih.mono fun ⟨w₂, w₃, before, ran, after⟩ => ⟨w₂, w₃, before, ran, after.tail step⟩).trans
      ((step.turns safe).mono fun ran => ⟨w₁, w', path, ran, .refl⟩)

end Paths

end World

end ScriptHost
