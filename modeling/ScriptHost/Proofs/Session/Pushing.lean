import ScriptHost.Proofs.Machine.Courses
import ScriptHost.Proofs.Session.Forwarding
import ScriptHost.Proofs.Session.Holdings
/-!
# Pushing and the other elementary operations

An object or a surface is pushed as the proxy of its token.  If it has no token that is live, it gets one
now, and the proxy is built and pinned.  These are the equations and the first facts about that, and about
the other operations that a session is made of: reading a script function in and disposing it, pinning a
chunk and taking it out, and the teardown.
-/

namespace ScriptHost

open World Machine

/-! ## Things and their tokens -/

namespace HandleEntry

def typeName : HandleEntry → String
  | object o => o.typeName
  | surface s => s.typeName

def tag : HandleEntry → UInt32
  | object o => o.descriptor.tag
  | surface s => s.descriptor.tag

end HandleEntry

/-- The live token under which an object or a surface is pushed, if there is one. -/
def World.liveToken? (w : World) : HandleEntry → Option Token
  | .object o => w.session.handles.tokenOf? o
  | .surface s => (w.host.publishedToken s).filter fun t => (w.session.handles.get? t).isSome

/-- The token is live, though perhaps not that of the thing itself. -/
theorem World.get?_of_liveToken? {w : World} {entry : HandleEntry} {t : Token}
    (found : w.liveToken? entry = some t) : ∃ live, w.session.handles.get? t = some live := by
  cases entry with
  | object o =>
    obtain ⟨live, resolved, _⟩ := HandleStore.get?_of_tokenOf? found
    exact ⟨_, resolved⟩
  | surface s => exact Option.isSome_iff_exists.1 (Option.filter_eq_some_iff.1 found).2

theorem World.unissued_of_liveToken? {w : World} {entry : HandleEntry} (missing : w.liveToken? entry = none) :
    w.session.handles.Unissued w.host entry := by
  cases entry with
  | object o => exact missing
  | surface s =>
    intro t published
    rw [liveToken?, published] at missing
    simpa using missing

/-- Issues a handle, has the host record it, and pushes its proxy. -/
def Bridge.issueProxy (entry : HandleEntry) : Bridge Unit := do
  let t ← Bridge.alloc entry entry.tag
  changeHost (·.recordToken t entry)
  Bridge.pushProxy t entry.typeName

/-- The world after a handle was issued and its new proxy pinned and pushed. -/
def World.issued (w : World) (entry : HandleEntry) (t : Token) (h : HandleStore) : World :=
  { w with
    machine := ((w.machine.newProxy t entry.typeName).reference (-1)).2
    session := { w.session with
      handles := h
      proxies := w.session.proxies.insert t ((w.machine.newProxy t entry.typeName).reference (-1)).1 }
    host := w.host.recordToken t entry }

section Proxies

variable {w : World} {t : Token}

theorem Bridge.run_pushProxy_pinned {r : Nat} {v : Value} (pinned : w.session.proxies.get? t = some r)
    (kept : w.machine.referenced? r = some v) (typeName : String) :
    (Bridge.pushProxy t typeName).run w = (.value (), { w with machine := w.machine.push v }) := by
  simp [Bridge.pushProxy, Bridge.pushPinned, pinned, pushReference, kept]

theorem Bridge.run_pushProxy_new (unpinned : w.session.proxies.get? t = none) (typeName : String) :
    (Bridge.pushProxy t typeName).run w = (.value (), { w with
      machine := ((w.machine.newProxy t typeName).reference (-1)).2
      session := { w.session with
        proxies := w.session.proxies.insert t ((w.machine.newProxy t typeName).reference (-1)).1 } }) := by
  simp [Bridge.pushProxy, Bridge.pushPinned, Bridge.pinProxy, unpinned]

/-- An object or surface is pushed under its token, or else under one that is issued now. -/
theorem Bridge.run_push_entry (w : World) (entry : HandleEntry) :
    (Bridge.push entry.toValue).run w = match w.liveToken? entry with
      | some t => (Bridge.pushProxy t entry.typeName).run w
      | none => (Bridge.issueProxy entry).run w := by
  cases entry with
  | object o =>
    cases found : w.session.handles.tokenOf? o with
    | some t => simp [HandleEntry.toValue, push, objectToken, found, liveToken?, HandleEntry.typeName]
    | none =>
      simp only [HandleEntry.toValue, push, objectToken, issueProxy, Action.run_bind, run_askSession, found,
        run_changeHost, liveToken?, HandleEntry.tag, HandleEntry.typeName, HostStore.recordToken]
  | surface s =>
    cases found : (w.host.publishedToken s).filter fun t => (w.session.handles.get? t).isSome with
    | some t => simp [HandleEntry.toValue, push, surfaceToken, found, liveToken?, HandleEntry.typeName]
    | none =>
      simp only [HandleEntry.toValue, push, surfaceToken, issueProxy, Action.run_bind, run_askSession,
        run_askHost, found, run_changeHost, liveToken?, HandleEntry.tag, HandleEntry.typeName,
        HostStore.recordToken]
      rcases (Bridge.alloc (.surface s) s.descriptor.tag).run w with ⟨_ | _ | _, _⟩ <;> rfl

/-- The token has a proxy then, whether or not it had one. -/
theorem Bridge.session_pushProxy_cases (w : World) (t : Token) (typeName : String) :
    (((Bridge.pushProxy t typeName).run w).2.session = w.session ∧
        (w.session.proxies.get? t).isSome = true) ∨
      ∃ r, ((Bridge.pushProxy t typeName).run w).2.session =
        { w.session with proxies := w.session.proxies.insert t r } := by
  cases pinned : w.session.proxies.get? t with
  | none => exact .inr ⟨_, by rw [run_pushProxy_new pinned typeName]⟩
  | some r =>
    cases kept : (w.machine.pushReference r).1 with
    | true =>
      left
      simp [pushProxy, pushPinned, pinned, kept]
    | false =>
      -- The reference was given up, so a proxy is built once more.
      refine .inr ⟨((((w.machine.pushReference r).2.pop 1).newProxy t typeName).reference (-1)).1, ?_⟩
      simp [pushProxy, pushPinned, pinProxy, pinned, kept]

theorem Bridge.session_pushProxy (w : World) (t : Token) (typeName : String) :
    ((Bridge.pushProxy t typeName).run w).2.session.handles = w.session.handles ∧
      ((Bridge.pushProxy t typeName).run w).2.session.isTornDown = w.session.isTornDown := by
  rcases session_pushProxy_cases w t typeName with ⟨same, -⟩ | ⟨r, inserted⟩
  · rw [same]
    exact ⟨rfl, rfl⟩
  · rw [inserted]
    exact ⟨rfl, rfl⟩

theorem Bridge.isSome_proxies_pushProxy (w : World) (t : Token) (typeName : String) (t' : Token) :
    (((Bridge.pushProxy t typeName).run w).2.session.proxies.get? t').isSome =
      (decide (t' = t) || (w.session.proxies.get? t').isSome) := by
  rcases session_pushProxy_cases w t typeName with ⟨same, pinned⟩ | ⟨r, inserted⟩
  · rw [same]
    by_cases own : t' = t
    · simp [own, pinned]
    · simp [own]
  · rw [inserted, NumberedDict.get?_insert]
    by_cases own : t' = t
    · simp [own]
    · simp [own, Ne.symm own]

theorem Bridge.run_issueProxy_full (full : w.session.handles.isFull = true) (entry : HandleEntry) :
    (Bridge.issueProxy entry).run w =
      (.failure (.error (.handleLimit (w.session.handles.limit.getD 0))), w) := by
  simp [issueProxy, Bridge.alloc, HandleStore.alloc_of_isFull full, Bridge.ofExcept]

/-- The token is issued and recorded before its proxy is pushed. -/
theorem Bridge.run_issueProxy_served {entry : HandleEntry} {h : HandleStore}
    (served : w.session.handles.alloc entry entry.tag = (.ok t, h)) :
    (Bridge.issueProxy entry).run w = (Bridge.pushProxy t entry.typeName).run { w with
      session := { w.session with handles := h }, host := w.host.recordToken t entry } := by
  simp only [issueProxy, Bridge.alloc, Bridge.ofExcept, Action.run_bind, run_onSession, served,
    Action.run_mapFailure, Action.run_ofExcept_ok, run_changeHost]

theorem Bridge.session_issueProxy (w : World) (entry : HandleEntry) :
    ((Bridge.issueProxy entry).run w).2.session.handles = (w.session.handles.alloc entry entry.tag).2 ∧
      ((Bridge.issueProxy entry).run w).2.session.isTornDown = w.session.isTornDown := by
  cases full : w.session.handles.isFull with
  | true => simp [run_issueProxy_full full, HandleStore.alloc_of_isFull full]
  | false =>
    obtain ⟨t, h, served⟩ := HandleStore.alloc_of_room full entry entry.tag
    rw [run_issueProxy_served served, served]
    exact session_pushProxy _ t entry.typeName

theorem Bridge.host_pushProxy (w : World) (t : Token) (typeName : String) :
    ((Bridge.pushProxy t typeName).run w).2.host = w.host := by
  cases pinned : w.session.proxies.get? t with
  | none => rw [run_pushProxy_new pinned typeName]
  | some r =>
    cases kept : (w.machine.pushReference r).1 <;> simp [pushProxy, pushPinned, pinProxy, pinned, kept]

theorem World.IsBacked.pinned (backed : w.IsBacked) {live : HandleEntry}
    (resolved : w.session.handles.get? t = some live) :
    ∃ r a, w.session.proxies.get? t = some r ∧ w.machine.referenced? r = some (.table a) ∧
      w.machine.Carries a t := by
  have proxied := backed.proxied t
  rw [resolved] at proxied
  obtain ⟨r, pinned⟩ := Option.isSome_iff_exists.1 proxied
  obtain ⟨_, kept, a, rfl, carries⟩ := backed.backs.kept (x := .proxy t) pinned
  exact ⟨r, a, pinned, kept, carries⟩

/-- Where a handle cannot be issued nothing happens; else the thing's new proxy is pinned and pushed. -/
theorem Bridge.run_issueProxy (filed : w.IsFiled) (entry : HandleEntry)
    (fits : (w.session.handles.alloc entry entry.tag).2.slots.size ≤ HandleStore.slotCapacity) :
    (∃ r, (Bridge.issueProxy entry).run w = (.failure r, w)) ∨
      ∃ i t h, w.session.handles.Issues entry i t h ∧ i < HandleStore.slotCapacity ∧ h.IsTidy ∧
        (Bridge.issueProxy entry).run w = (.value (), w.issued entry t h) := by
  rcases HandleStore.alloc_cases filed.handles entry entry.tag with
    ⟨limit, found, reached, _⟩ | ⟨_, i, t, h, served, _, issues, tidy⟩
  · exact .inl ⟨_, run_issueProxy_full ((HandleStore.isFull_iff _).2 ⟨limit, found, reached⟩) entry⟩
  · rw [served] at fits
    have bound : i < HandleStore.slotCapacity := Nat.lt_of_lt_of_le issues.size_slots.2 fits
    -- A token that was issued just now has no proxy yet.
    have unpinned : w.session.proxies.get? t = none := by
      have unissued := filed.proxied t
      rw [issues.get?_before bound rfl] at unissued
      exact Option.isNone_iff_eq_none.1 (Option.isSome_eq_false_iff.1 unissued)
    refine .inr ⟨i, t, h, issues, bound, tidy, ?_⟩
    have pushed := run_pushProxy_new (w := { w with
      session := { w.session with handles := h }, host := w.host.recordToken t entry }) unpinned
      entry.typeName
    rw [run_issueProxy_served served, pushed, issued]

end Proxies

theorem HandleStore.size_slots_alloc (h : HandleStore) (entry : HandleEntry) (tag : UInt32) :
    h.slots.size ≤ (h.alloc entry tag).2.slots.size := by
  rw [alloc]
  split
  · exact Nat.le_refl _
  · have occupied : h.slots.size ≤ (h.occupy entry tag).2.slots.size := by
      rw [occupy_eq]
      cases h.free <;> simp [reuse, extend]
    simp only [(remember_slots _ _ _).1]
    exact occupied

theorem HandleStore.size_slots_release (h : HandleStore) (t : Token) :
    (h.release t).2.slots.size = h.slots.size := by
  rw [release]
  cases h.resolve t with
  | error e => rfl
  | ok entry => simp [(forget_slots _ entry t).1]

theorem HostStore.size_published_recordToken (host : HostStore) (t : Token) (entry : HandleEntry) :
    host.published.size ≤ (host.recordToken t entry).published.size := by
  cases entry <;> simp [recordToken, setPublishedToken]

/-! ## Elementary operations of sessions -/

section Operations

variable {w : World}

theorem Bridge.run_read_function_at {i j : Int}
    (slot : w.machine.readSlot (w.machine.absIndex i) = .function (.slot j)) :
    (Bridge.read i).run w = (.value (.function w.host.functions.size), { w with
      machine := (w.machine.reference j).2
      session := { w.session with liveFunctions := w.session.liveFunctions + 1 }
      host := (w.host.newFunction (w.machine.reference j).1).2 }) := by
  simp [Bridge.read, slot, Bridge.pinFunction, Bridge.adoptFunction, HostStore.newFunction]

/-- What was read is held from then on. -/
theorem Bridge.functionOf?_read (tidy : w.machine.HasTidyRegistry) {i j : Int}
    (slot : w.machine.readSlot (w.machine.absIndex i) = .function (.slot j)) :
    ((Bridge.read i).run w).2.functionOf? w.host.functions.size = some (w.machine.valueAt j) := by
  have held := HostStore.functionReference?_newFunction w.host (w.machine.reference j).1 w.host.functions.size
  rw [if_pos rfl] at held
  rw [run_read_function_at slot, functionOf?, held, Option.bind_some, (pins_reference tidy j).referenced,
    if_pos rfl]

theorem Bridge.run_disposeFunction {number r : Nat} (held : w.host.functionReference? number = some r) :
    (Bridge.disposeFunction number).run w = (.value (), { w with
      machine := w.machine.releaseReference r
      session := { w.session with liveFunctions := w.session.liveFunctions - 1 }
      host := w.host.disposeFunction number }) := by
  simp [Bridge.disposeFunction, Bridge.functionReference, held]

/-- The new chunk is pinned and taken off the stack before a stale one is given up. -/
theorem Session.run_pinChunk : Session.pinChunk.run w = (.value (), { w with
    machine := w.session.chunk.elim ((w.machine.reference (-1)).2.pop 1)
      ((w.machine.reference (-1)).2.pop 1).releaseReference
    session := { w.session with chunk := some (w.machine.reference (-1)).1 } }) := by
  cases held : w.session.chunk <;> simp [Session.pinChunk, held]

theorem Session.run_takeChunk {r : Nat} (held : w.session.chunk = some r) :
    Session.takeChunk.run w = (.value true, { w with
      machine := (w.machine.pushReference r).2.releaseReference r
      session := { w.session with chunk := none } }) := by
  simp [Session.takeChunk, held]

/-- Everything of the session is given up, and the machine is closed. -/
theorem Session.run_teardown (isOpen : w.session.isTornDown = false) :
    Session.teardown.run w = (.value (), { w with
      machine := (w.session.chunk.elim w.machine w.machine.releaseReference).close
      session := { w.session with
        handles := w.session.handles.releaseAll.2, proxies := .empty, surfaces := .empty, chunk := none,
        isTornDown := true } }) := by
  cases held : w.session.chunk <;> simp [Session.teardown, isOpen, held]

theorem Session.run_teardown_again (tornDown : w.session.isTornDown = true) :
    Session.teardown.run w = (.value (), w) := by
  simp [Session.teardown, tornDown]

theorem Session.isTornDown_teardown (w : World) :
    (Session.teardown.run w).2.session.isTornDown = true := by
  cases tornDown : w.session.isTornDown with
  | false => rw [run_teardown tornDown]
  | true => rw [run_teardown_again tornDown, tornDown]

/-- The machine with the new chunk pinned and taken off the stack. -/
theorem Machine.pins_pinned (tidy : w.machine.HasTidyRegistry) :
    w.machine.Pins (w.machine.reference (-1)).1 (w.machine.valueAt (-1))
      ((w.machine.reference (-1)).2.pop 1) := by
  have pins := pins_reference tidy (-1)
  exact ⟨pins.vacant, pins.referenced, pins.count, pins.tidy.of_eq rfl rfl, pins.tables⟩

end Operations

end ScriptHost
