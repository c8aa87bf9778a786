import ScriptHost.Proofs.Handles.Store
import ScriptHost.Session.Operations
/-!
# What a failed forwarding leaves behind

`Session.forwardType` enters the type in the directory before it issues a handle for its surface.  An
open session therefore refuses a type in one of two ways.  A type that is refused as a duplicate leaves
nothing behind.  A type for whose surface there is no handle stays registered, under a new tag, while
the surface published for it, the globals, the handles and the proxies are those of before.

`forwardType_not_atomic_iff` says exactly when this happens, and what becomes of a second attempt.
-/

namespace ScriptHost

namespace TypeDirectory

@[simp] theorem lookup_register (r : TypeDirectory) (d : TypeDescriptor) :
    (r.register d).2.lookup d.type = some { d with tag := r.nextTag } := by
  simp [register, lookup]

theorem register_ne (r : TypeDirectory) (d : TypeDescriptor) : (r.register d).2 ≠ r := by
  intro same
  have nextTag : r.nextTag + 1 = r.nextTag := congrArg TypeDirectory.nextTag same
  have counted := congrArg UInt32.toNat nextTag
  rw [UInt32.toNat_add] at counted
  have bound := r.nextTag.toNat_lt
  have one : (1 : UInt32).toNat = 1 := rfl
  omega

end TypeDirectory

namespace HostStore

theorem publishedToken_new (h : HostStore) (d : TypeDescriptor) :
    (h.newSurface d).2.publishedToken (h.newSurface d).1 = none := by
  simp [publishedToken, newSurface, Surface.build]

end HostStore

namespace Session

open World

/-- A type may be registered: it is new, or the session takes types again. -/
def Admits (s : Session) (type : RecordType) : Prop :=
  s.options.onDuplicate = .replace ∨ s.types.lookup type = none

/-- A type that may not be registered is registered already, and the session takes each only once. -/
theorem duplicate_of_not_admits {s : Session} {type : RecordType} (refuses : ¬ s.Admits type) :
    s.options.onDuplicate = .reject ∧ ∃ existing, s.types.lookup type = some existing := by
  refine ⟨?_, Option.ne_none_iff_exists'.1 fun absent => refuses (.inr absent)⟩
  cases policy : s.options.onDuplicate with
  | replace => exact absurd (.inl policy) refuses
  | reject => rfl

/-- The world with a type registered in its session. -/
def registered (w : World) (d : TypeDescriptor) : World :=
  { w with session := { w.session with types := (w.session.types.register d).2 } }

/-! ## Steps -/

theorem run_checkOpen {w : World} (isOpen : w.session.isTornDown = false) :
    checkOpen.run w = (.value (), w) := by
  simp [checkOpen, isOpen]

theorem run_checkOpen_of_isTornDown {w : World} (isTornDown : w.session.isTornDown = true) :
    checkOpen.run w = (.failure (.error (.vm .closed)), w) := by
  simp [checkOpen, isTornDown, Bridge.fail]

theorem run_registerType_of_duplicate {w : World} (isOpen : w.session.isTornDown = false)
    {d existing : TypeDescriptor} (rejects : w.session.options.onDuplicate = .reject)
    (found : w.session.types.lookup d.type = some existing) :
    (registerType d).run w = (.failure (.error (.duplicateForward existing.name)), w) := by
  simp [registerType, run_checkOpen isOpen, checkDuplicate, rejects, found, Bridge.fail]

theorem run_registerType {w : World} (isOpen : w.session.isTornDown = false) {d : TypeDescriptor}
    (admits : w.session.Admits d.type) :
    (registerType d).run w =
      (.value { d with tag := w.session.types.nextTag }, registered w d) := by
  have unchecked : (checkDuplicate d.type).run w = (.value (), w) := by
    cases admits with
    | inl replaces => simp [checkDuplicate, replaces]
    | inr absent => simp [checkDuplicate, absent]
  simp [registerType, run_checkOpen isOpen, unchecked, TypeDirectory.register, registered]

theorem run_registerType_of_not_admits {w : World} (isOpen : w.session.isTornDown = false)
    {d : TypeDescriptor} (refuses : ¬ w.session.Admits d.type) :
    ∃ r, (registerType d).run w = (.failure r, w) := by
  obtain ⟨rejects, existing, found⟩ := duplicate_of_not_admits refuses
  exact ⟨_, run_registerType_of_duplicate isOpen rejects found⟩

theorem run_surfaceToken_of_full {w : World} {s : Surface} {n : Nat}
    (unpublished : w.host.publishedToken s = none) (limit : w.session.handles.limit = some n)
    (full : w.session.handles.isFull) :
    (Bridge.surfaceToken s).run w = (.failure (.error (.handleLimit n)), w) := by
  simp [Bridge.surfaceToken, unpublished, Bridge.alloc, HandleStore.alloc, full, limit, Bridge.ofExcept]

theorem run_surfaceToken_of_room {w : World} {s : Surface}
    (unpublished : w.host.publishedToken s = none) (room : w.session.handles.isFull = false) :
    ∃ t w', (Bridge.surfaceToken s).run w = (.value t, w') := by
  simp [Bridge.surfaceToken, unpublished, Bridge.alloc, HandleStore.alloc, room, Bridge.ofExcept]

theorem run_pushProxy (w : World) (t : Token) (typeName : String) :
    ∃ w', (Bridge.pushProxy t typeName).run w = (.value (), w') := by
  cases pinned : w.session.proxies.get? t with
  | none => simp [Bridge.pushProxy, Bridge.pushPinned, Bridge.pinProxy, pinned]
  | some r =>
    cases kept : (w.machine.pushReference r).1 <;>
      simp [Bridge.pushProxy, Bridge.pushPinned, Bridge.pinProxy, pinned, kept]

theorem run_push_of_full {w : World} {s : Surface} {n : Nat}
    (unpublished : w.host.publishedToken s = none) (limit : w.session.handles.limit = some n)
    (full : w.session.handles.isFull) :
    (Bridge.push (.surface s)).run w = (.failure (.error (.handleLimit n)), w) := by
  simp [Bridge.push, run_surfaceToken_of_full unpublished limit full]

theorem run_push_of_room {w : World} {s : Surface}
    (unpublished : w.host.publishedToken s = none) (room : w.session.handles.isFull = false) :
    ∃ w', (Bridge.push (.surface s)).run w = (.value (), w') := by
  obtain ⟨t, w₁, issued⟩ := run_surfaceToken_of_room unpublished room
  obtain ⟨w₂, pushed⟩ := run_pushProxy w₁ t s.typeName
  exact ⟨w₂, by simp [Bridge.push, issued, pushed]⟩

theorem run_releaseToken (w : World) (t : Token) :
    (releaseToken t).run w = (.value (), { w with
      machine := (w.session.proxies.get? t).elim w.machine w.machine.releaseReference
      session := { w.session with
        handles := (w.session.handles.release t).2, proxies := w.session.proxies.erase t } }) := by
  cases pinned : w.session.proxies.get? t <;> simp [releaseToken, pinned]

theorem run_withdraw_published {w : World} {previous : Surface} {t : Token}
    (published : w.host.publishedToken previous = some t) (name : String) :
    (withdraw previous name).run w =
      (.value (), if previous.typeName = name then ((releaseToken t).run w).2 else
        { ((releaseToken t).run w).2 with
          machine := (((releaseToken t).run w).2.machine.push .nil).setGlobal previous.typeName }) := by
  have released := run_releaseToken w t
  by_cases same : previous.typeName = name <;> simp [withdraw, published, released, same]

theorem run_withdraw_unpublished {w : World} {previous : Surface}
    (unpublished : w.host.publishedToken previous = none) (name : String) :
    (withdraw previous name).run w =
      (.value (), if previous.typeName = name then w else
        { w with machine := (w.machine.push .nil).setGlobal previous.typeName }) := by
  by_cases same : previous.typeName = name <;> simp [withdraw, unpublished, same]

theorem run_withdraw (w : World) (previous : Surface) (name : String) :
    ∃ w', (withdraw previous name).run w = (.value (), w') := by
  cases published : w.host.publishedToken previous with
  | none => exact ⟨_, run_withdraw_unpublished published name⟩
  | some t => exact ⟨_, run_withdraw_published published name⟩

theorem run_setGlobal_of_refused {w w' : World} (isOpen : w.session.isTornDown = false)
    {v : HostValue} {r : Raised} (refused : (Bridge.push v).run w = (.failure r, w')) (name : String) :
    (setGlobal name v).run w = (.failure r, w') := by
  simp only [setGlobal, Action.run_bind, run_checkOpen isOpen, refused]

theorem run_setGlobal_of_pushed {w w' : World} (isOpen : w.session.isTornDown = false)
    {v : HostValue} (pushed : (Bridge.push v).run w = (.value (), w')) (name : String) :
    (setGlobal name v).run w = (.value (), { w' with machine := w'.machine.setGlobal name }) := by
  simp only [setGlobal, Action.run_bind, run_checkOpen isOpen, pushed, run_changeMachine]

/-! ## Forwarding -/

/-- The world after a forwarding for which there was no handle: the type is registered, and a surface
    has been made that nobody was given. -/
def halfForwarded (w : World) (d : TypeDescriptor) : World :=
  { registered w d with
    host := (w.host.newSurface { d with tag := w.session.types.nextTag }).2 }

/-- The surface that a forwarding makes. -/
def forwardedSurface (w : World) (d : TypeDescriptor) : Surface :=
  (w.host.newSurface { d with tag := w.session.types.nextTag }).1

theorem run_newSurface (w : World) (d : TypeDescriptor) :
    Action.run (onHost (·.newSurface { d with tag := w.session.types.nextTag }) : Bridge Surface)
      (registered w d) = (.value (forwardedSurface w d), halfForwarded w d) :=
  rfl

theorem publishedToken_forwardedSurface (w : World) (d : TypeDescriptor) :
    (halfForwarded w d).host.publishedToken (forwardedSurface w d) = none :=
  HostStore.publishedToken_new w.host { d with tag := w.session.types.nextTag }

theorem run_forwardType_of_duplicate {w : World} (isOpen : w.session.isTornDown = false)
    {d existing : TypeDescriptor} (rejects : w.session.options.onDuplicate = .reject)
    (found : w.session.types.lookup d.type = some existing) :
    (forwardType d).run w = (.failure (.error (.duplicateForward existing.name)), w) := by
  simp only [forwardType, Action.run_bind, run_registerType_of_duplicate isOpen rejects found]

theorem run_forwardType_of_full {w : World} (isOpen : w.session.isTornDown = false)
    {d : TypeDescriptor} (admits : w.session.Admits d.type) {n : Nat}
    (limit : w.session.handles.limit = some n) (full : w.session.handles.isFull) :
    (forwardType d).run w = (.failure (.error (.handleLimit n)), halfForwarded w d) := by
  have refused := run_push_of_full (publishedToken_forwardedSurface w d) limit full
  simp only [forwardType, Action.run_bind, run_registerType isOpen admits, run_newSurface,
    run_setGlobal_of_refused (w := halfForwarded w d) isOpen refused]

/-- The world in which a surface that was pushed is assigned to the type's name, and is the one that is
    published for the type. -/
def announced (w : World) (d : TypeDescriptor) (s : Surface) : World :=
  { w with
    machine := w.machine.setGlobal d.name
    session := { w.session with surfaces := w.session.surfaces.insert d.type s } }

/-- The world without the surface that another one has replaced, if there was one. -/
def withdrawn (w : World) (previous : Option Surface) (name : String) : World :=
  match previous with
  | some previous => ((withdraw previous name).run w).2
  | none => w

theorem run_forwardType_of_pushed {w w₁ : World} (isOpen : w.session.isTornDown = false)
    {d : TypeDescriptor} (admits : w.session.Admits d.type)
    (pushed : (Bridge.push (.surface (forwardedSurface w d))).run (halfForwarded w d) = (.value (), w₁)) :
    (forwardType d).run w =
      (.value (forwardedSurface w d),
        withdrawn (announced w₁ d (forwardedSurface w d)) (w₁.session.surfaces.get? d.type) d.name) := by
  have assigned := run_setGlobal_of_pushed (w := halfForwarded w d) isOpen pushed d.name
  simp only [forwardType, Action.run_bind, run_registerType isOpen admits, run_newSurface,
    assigned, run_askSession, run_changeSession]
  cases w₁.session.surfaces.get? d.type with
  | none => rfl
  | some previous =>
    obtain ⟨w₂, gone⟩ := run_withdraw (announced w₁ d (forwardedSurface w d)) previous d.name
    have same : withdrawn (announced w₁ d (forwardedSurface w d)) (some previous) d.name = w₂ :=
      congrArg Prod.snd gone
    rw [announced] at gone same
    rw [announced, same]
    simp only [Action.run_bind, gone, Action.run_pure]

theorem run_forwardType_of_room {w : World} (isOpen : w.session.isTornDown = false)
    {d : TypeDescriptor} (admits : w.session.Admits d.type)
    (room : w.session.handles.isFull = false) :
    ∃ s w', (forwardType d).run w = (.value s, w') := by
  obtain ⟨w₁, pushed⟩ := run_push_of_room (publishedToken_forwardedSurface w d) room
  exact ⟨_, _, run_forwardType_of_pushed isOpen admits pushed⟩

/-- The ways in which a forwarding in an open session ends: the new surface has been pushed, assigned and
    the old one withdrawn; there was no handle for it; or the type is refused. -/
theorem run_forwardType_cases {w : World} (isOpen : w.session.isTornDown = false) (d : TypeDescriptor) :
    (∃ w₁, (Bridge.push (.surface (forwardedSurface w d))).run (halfForwarded w d) = (.value (), w₁) ∧
      (forwardType d).run w = (.value (forwardedSurface w d),
        withdrawn (announced w₁ d (forwardedSurface w d)) (w₁.session.surfaces.get? d.type) d.name)) ∨
    (w.session.Admits d.type ∧ w.session.handles.isFull ∧
      ∃ r, (forwardType d).run w = (.failure r, halfForwarded w d)) ∨
    (¬ w.session.Admits d.type ∧ ∃ r, (forwardType d).run w = (.failure r, w)) := by
  by_cases admits : w.session.Admits d.type
  · cases full : w.session.handles.isFull with
    | true =>
      obtain ⟨n, limit, _⟩ := (HandleStore.isFull_iff _).1 full
      exact .inr (.inl ⟨admits, rfl, _, run_forwardType_of_full isOpen admits limit full⟩)
    | false =>
      obtain ⟨w₁, pushed⟩ := run_push_of_room (publishedToken_forwardedSurface w d) full
      exact .inl ⟨w₁, pushed, run_forwardType_of_pushed isOpen admits pushed⟩
  · obtain ⟨rejects, existing, found⟩ := duplicate_of_not_admits admits
    exact .inr (.inr ⟨admits, _, run_forwardType_of_duplicate isOpen rejects found⟩)

/-- A forwarding that succeeds has pushed the new surface, assigned it and withdrawn the old one. -/
theorem forwardType_value_cases {w w' : World} (isOpen : w.session.isTornDown = false)
    {d : TypeDescriptor} {s : Surface} (forwarded : (forwardType d).run w = (.value s, w')) :
    s = forwardedSurface w d ∧
      ∃ w₁, (Bridge.push (.surface s)).run (halfForwarded w d) = (.value (), w₁) ∧
        w' = withdrawn (announced w₁ d s) (w₁.session.surfaces.get? d.type) d.name := by
  rcases run_forwardType_cases isOpen d with ⟨w₁, pushed, ran⟩ | ⟨_, _, r, ran⟩ | ⟨_, r, ran⟩ <;>
    rw [ran] at forwarded <;> cases forwarded
  exact ⟨rfl, w₁, pushed, rfl⟩

/-! ## What a failure leaves behind -/

/-- A world that differs from another one in its directory of types, and perhaps in surfaces that nobody
    was given. -/
structure DiffersInTypes (w w' : World) : Prop where
  machine : w'.machine = w.machine
  events : w'.events = w.events
  session : w'.session = { w.session with types := w'.session.types }
  host : w'.host = { w.host with published := w'.host.published }
  published : ∀ s, w'.host.publishedToken s = w.host.publishedToken s

theorem differsInTypes_refl (w : World) : DiffersInTypes w w :=
  ⟨rfl, rfl, rfl, rfl, fun _ => rfl⟩

theorem differsInTypes_halfForwarded (w : World) (d : TypeDescriptor) :
    DiffersInTypes w (halfForwarded w d) :=
  ⟨rfl, rfl, rfl, rfl, fun s =>
    HostStore.publishedToken_newSurface w.host { d with tag := w.session.types.nextTag } s⟩

theorem session_halfForwarded_ne (w : World) (d : TypeDescriptor) :
    (halfForwarded w d).session ≠ w.session := fun same =>
  TypeDirectory.register_ne w.session.types d (congrArg Session.types same)

/-- The ways in which an open session can refuse a type. -/
theorem forwardType_failure_cases {w w' : World} (isOpen : w.session.isTornDown = false)
    {d : TypeDescriptor} {r : Raised} (failed : (forwardType d).run w = (.failure r, w')) :
    (¬ w.session.Admits d.type ∧ w' = w) ∨
      (w.session.Admits d.type ∧ w.session.handles.isFull ∧ w' = halfForwarded w d) := by
  rcases run_forwardType_cases isOpen d with ⟨w₁, _, ran⟩ | ⟨admits, full, r, ran⟩ | ⟨rejects, r, ran⟩ <;>
    rw [ran] at failed <;> cases failed
  · exact .inr ⟨admits, full, rfl⟩
  · exact .inl ⟨rejects, rfl⟩

/-- What becomes of another attempt, in a world that has a handle to spare, to forward a type that was
    registered by an attempt that failed. -/
def SecondAttempt (d : TypeDescriptor) (later : World) : Prop :=
  match later.session.options.onDuplicate with
  | .replace => ∃ s after, (forwardType d).run later = (.value s, after)
  | .reject => (forwardType d).run later = (.failure (.error (.duplicateForward d.name)), later)

/-- Forwarding a type is not atomic exactly if the session admits the type but has no handle to spare.
    Every failure keeps all but the directory of types.  Where that has changed, it holds the new
    descriptor under a new tag, and a session that takes each type only once refuses the type for
    good, as a duplicate of itself. -/
theorem forwardType_not_atomic_iff {w : World} (isOpen : w.session.isTornDown = false)
    (d : TypeDescriptor) :
    ((∃ r w', (forwardType d).run w = (.failure r, w') ∧ w'.session ≠ w.session) ↔
        w.session.Admits d.type ∧ w.session.handles.isFull) ∧
      ∀ r w', (forwardType d).run w = (.failure r, w') →
        DiffersInTypes w w' ∧
          (w'.session ≠ w.session →
            w'.session.types.lookup d.type = some { d with tag := w.session.types.nextTag } ∧
              ∀ later : World, later.session.isTornDown = false →
                later.session.types = w'.session.types → later.session.handles.isFull = false →
                SecondAttempt d later) := by
  constructor
  · constructor
    · rintro ⟨r, w', failed, differs⟩
      rcases forwardType_failure_cases isOpen failed with ⟨_, rfl⟩ | ⟨admits, full, _⟩
      · exact absurd rfl differs
      · exact ⟨admits, full⟩
    · rintro ⟨admits, full⟩
      obtain ⟨n, limit, _⟩ := (HandleStore.isFull_iff _).1 full
      exact ⟨_, _, run_forwardType_of_full isOpen admits limit full, session_halfForwarded_ne w d⟩
  · intro r w' failed
    rcases forwardType_failure_cases isOpen failed with ⟨_, rfl⟩ | ⟨_, _, rfl⟩
    · exact ⟨differsInTypes_refl _, fun differs => absurd rfl differs⟩
    · refine ⟨differsInTypes_halfForwarded w d, fun _ => ?_⟩
      -- The entry of the failed attempt is what a later one finds.
      have entered : (halfForwarded w d).session.types.lookup d.type =
          some { d with tag := w.session.types.nextTag } := TypeDirectory.lookup_register _ d
      refine ⟨entered, fun later laterOpen sameTypes room => ?_⟩
      rw [← sameTypes] at entered
      cases policy : later.session.options.onDuplicate with
      | replace =>
        simp only [SecondAttempt, policy]
        exact run_forwardType_of_room laterOpen (.inl policy) room
      | reject =>
        simp only [SecondAttempt, policy]
        have refused := run_forwardType_of_duplicate laterOpen policy entered
        exact refused

/-- A new session that may hold no handles registers a type that it fails to forward. -/
theorem forwardType_not_atomic_without_handles :
    let w := World.openSession { maxHandles := some 0 } (.start 1) .empty
    let gauge := TypeDescriptor.blank "Gauge" ⟨"Gauge", .plain⟩
    w.session.isTornDown = false ∧ w.session.types.lookup gauge.type = none ∧
      ∃ r w', (forwardType gauge).run w = (.failure r, w') ∧ w'.session ≠ w.session := by
  intro w gauge
  have isOpen : w.session.isTornDown = false := rfl
  have absent : w.session.types.lookup gauge.type = none := rfl
  exact ⟨isOpen, absent, (forwardType_not_atomic_iff isOpen gauge).1.2 ⟨.inr absent, rfl⟩⟩

end Session

end ScriptHost
