import ScriptHost.Proofs.Session.Functions
import ScriptHost.Proofs.Session.RoundTrip
import ScriptHost.Proofs.Session.Turnover
/-!
# Pushes that fail

A push puts one value on the stack, or it fails and leaves everything as it was.  All that can fail comes
first: a disposed function is looked up, and a thing without a handle is issued one, before anything is
pushed for it.  So neither a half-built proxy nor a handle without one is left behind
(`push_all_or_nothing`).

The limit on handles stops only things that have none.  This rests on what the session and the host have
recorded of each thing being its live token (`World.IsIndexed`), which holds whatever happens to the
machine and however many handles there are.
-/

namespace ScriptHost

open World Machine

/-! ## The index of handles -/

theorem HandleStore.isRecorded_of_dead {h : HandleStore} (dead : ∀ t, h.get? t = none) (host : HostStore) :
    h.IsRecorded host := by
  constructor <;> intro t _ live <;> cases (dead t).symm.trans live

namespace World

variable {w w' : World}

/-- The live token of each thing is the one that is recorded for it. -/
structure IsIndexed (w : World) : Prop where
  handles : w.session.handles.IsTidy
  recorded : w.session.handles.IsRecorded w.host

namespace IsIndexed

theorem of_same (indexed : w.IsIndexed) (handles : w'.session.handles = w.session.handles)
    (published : ∀ s, w'.host.publishedToken s = w.host.publishedToken s) : w'.IsIndexed := by
  constructor
  · rw [handles]
    exact indexed.handles
  · rw [handles]
    exact ⟨indexed.recorded.objects, fun live => (published _).trans (indexed.recorded.surfaces live)⟩

theorem pushProxy (indexed : w.IsIndexed) (t : Token) (typeName : String) :
    IsIndexed ((Bridge.pushProxy t typeName).run w).2 := by
  obtain ⟨handles, -⟩ := Bridge.session_pushProxy w t typeName
  have host := Bridge.host_pushProxy w t typeName
  exact indexed.of_same handles fun s => by rw [host]

theorem pushEntry (indexed : w.IsIndexed) (entry : HandleEntry) :
    IsIndexed ((Bridge.push entry.toValue).run w).2 := by
  rw [Bridge.run_push_entry]
  cases found : w.liveToken? entry with
  | some t => exact indexed.pushProxy t entry.typeName
  | none =>
    rcases HandleStore.alloc_cases indexed.handles entry entry.tag with
      ⟨limit, found, reached, _⟩ | ⟨_, i, t, h, served, _, issues, tidy⟩
    · rw [Bridge.run_issueProxy_full ((HandleStore.isFull_iff _).2 ⟨limit, found, reached⟩)]
      exact indexed
    · rw [Bridge.run_issueProxy_served served]
      have recorded := indexed.recorded.issue (unissued_of_liveToken? found) issues
      exact pushProxy (w := { w with
        session := { w.session with handles := h }, host := w.host.recordToken t entry }) ⟨tidy, recorded⟩
        t entry.typeName

theorem releaseToken (indexed : w.IsIndexed) (t : Token) :
    IsIndexed ((Session.releaseToken t).run w).2 := by
  rw [Session.run_releaseToken]
  rcases HandleStore.release_cases indexed.handles t with ⟨_, refused⟩ | ⟨entry, h, served, freed, tidy⟩
  · rw [refused]
    exact ⟨indexed.handles, indexed.recorded⟩
  · rw [served]
    exact ⟨tidy, indexed.recorded.free freed⟩

theorem teardown (indexed : w.IsIndexed) : IsIndexed (Session.teardown.run w).2 := by
  cases tornDown : w.session.isTornDown with
  | true =>
    rw [Session.run_teardown_again tornDown]
    exact indexed
  | false =>
    rw [Session.run_teardown tornDown]
    exact ⟨HandleStore.isTidy_releaseAll _,
      HandleStore.isRecorded_of_dead (HandleStore.get?_releaseAll w.session.handles) _⟩

end IsIndexed

/-- Keeping the index is a course. -/
def indexing : Course where
  Leads _ w w' := w.IsIndexed → w'.IsIndexed
  refl _ indexed := indexed
  mono leads _ := leads
  trans first second indexed := second (first indexed)
  tame _ _ indexed := ⟨indexed.handles, indexed.recorded⟩
  session _ _ handles _ _ _ _ indexed := indexed.of_same handles fun _ => rfl
  newSurface d w indexed := indexed.of_same rfl (HostStore.publishedToken_newSurface w.host d)
  pushEntry entry _ indexed := indexed.pushEntry entry
  readFunction slot indexed := by
    rw [Bridge.run_read_function_at slot]
    exact indexed.of_same rfl fun _ => rfl
  releaseToken t _ indexed := indexed.releaseToken t

theorem indexing_ignoresMachine : indexing.IgnoresMachine where
  same handles _ _ _ published indexed := indexed.of_same handles published
  teardown _ indexed := indexed.teardown

/-- Whatever happens on a path from a new session, the index is kept. -/
theorem Path.isIndexed {bars : Op → World → Prop} {options : SessionOptions} {m : Machine}
    {host : HostStore} (path : Path bars (openSession options m host) w) : w.IsIndexed :=
  indexing_ignoresMachine.path path ⟨HandleStore.isTidy_empty _, HandleStore.isRecorded_of_dead (fun _ => rfl) _⟩

/-! ## Why a push fails -/

/-- What a push of the value fails with: a function is disposed, or an object or surface has no handle and
    the limit is reached. -/
inductive CannotPush (w : World) : HostValue → Raised → Prop where
  | disposed (number : Nat) (gone : w.host.functionReference? number = none) :
    CannotPush w (.function number) (.error .disposedFunction)
  | limit (entry : HandleEntry) (limit : Nat) (limited : w.session.handles.limit = some limit)
    (reached : limit ≤ w.session.handles.size) (unheld : ∀ t, ¬ w.IsHandleOf t entry) :
    CannotPush w entry.toValue (.error (.handleLimit limit))

theorem CannotPush.unheld {v : HostValue} {r : Raised} (why : w.CannotPush v r) {entry : HandleEntry}
    (same : v = entry.toValue) (t : Token) : ¬ w.IsHandleOf t entry := by
  cases why with
  | disposed => cases entry <;> cases same
  | limit other _ _ _ unheld =>
    cases entry <;> cases other <;> cases same <;> exact unheld t

end World

namespace Bridge

variable {w w' : World} {r : Raised}

theorem cannotPush_entry (indexed : w.IsIndexed) (entry : HandleEntry)
    (failed : (push entry.toValue).run w = (.failure r, w')) : w.CannotPush entry.toValue r := by
  rw [run_push_entry] at failed
  cases found : w.liveToken? entry with
  | some t =>
    obtain ⟨w₁, pushed⟩ := run_pushProxy_value w t entry.typeName
    simp [found, pushed] at failed
  | none =>
    cases full : w.session.handles.isFull with
    | true =>
      obtain ⟨limit, limited, reached⟩ := (HandleStore.isFull_iff _).1 full
      simp only [found, run_issueProxy_full full, limited, Option.getD_some] at failed
      cases failed
      -- Under a handle it would be pushed, however many others there are.
      refine .limit entry limit limited reached fun t handle => ?_
      cases found.symm.trans (indexed.recorded.liveToken?_eq handle)
    | false =>
      obtain ⟨t, h, served⟩ := HandleStore.alloc_of_room full entry entry.tag
      obtain ⟨w₁, pushed⟩ := run_pushProxy_value { w with
        session := { w.session with handles := h }, host := w.host.recordToken t entry } t entry.typeName
      simp [found, run_issueProxy_served served, pushed] at failed

theorem cannotPush (indexed : w.IsIndexed) {v : HostValue}
    (failed : (push v).run w = (.failure r, w')) : w.CannotPush v r := by
  cases v with
  | object o => exact cannotPush_entry indexed (.object o) failed
  | surface s => exact cannotPush_entry indexed (.surface s) failed
  | function number =>
    cases held : w.host.functionReference? number with
    | none =>
      simp only [push, Action.run_bind, run_functionReference, held, Option.elim_none] at failed
      cases failed
      exact .disposed number held
    | some reference => simp [push, run_functionReference, held] at failed
  | _ => cases failed

/-- One value is put on the stack, or nothing happens. -/
theorem push_one_or_none (whole : w.machine.base ≤ w.machine.height) (v : HostValue) :
    (∃ x w', (push v).run w = (.value (), w') ∧ w'.machine.stack = w.machine.stack.push x ∧
      w'.machine.frames = w.machine.frames) ∨ ∃ r, (push v).run w = (.failure r, w) := by
  refine (push_cases w v).imp_left fun ⟨w', pushed⟩ => ?_
  obtain ⟨values, size, stack, frames⟩ := stacks_push whole pushed
  obtain ⟨x, rfl⟩ := Array.size_eq_one_iff.1 size
  exact ⟨x, w', pushed, stack.trans Array.push_eq_append.symm, frames⟩

end Bridge

/-! ## Publishing as a global -/

namespace Session

variable (w : World) (name : String)

/-- The session does what it is asked for, or fails and changes nothing. -/
def Settles {α : Type} (x : Bridge α) (w : World) : Prop :=
  (∃ a w', x.run w = (.value a, w')) ∨ ∃ r, x.run w = (.failure r, w)

theorem settles_setGlobal (v : HostValue) : Settles (setGlobal name v) w := by
  cases torn : w.session.isTornDown with
  | true => exact .inr ⟨.error (.vm .closed), by simp [setGlobal, run_checkOpen_of_isTornDown torn]⟩
  | false =>
    rcases Bridge.push_cases w v with ⟨w', pushed⟩ | ⟨r, refused⟩
    · exact .inl ⟨_, _, run_setGlobal_of_pushed torn pushed name⟩
    · exact .inr ⟨r, run_setGlobal_of_refused torn refused name⟩

theorem settles_pushObject (type : RecordType) (record : Nat) :
    Settles (pushObject name type record) w := by
  cases torn : w.session.isTornDown with
  | true => exact .inr ⟨.error (.vm .closed), by simp [pushObject, run_checkOpen_of_isTornDown torn]⟩
  | false =>
    simp only [Settles, pushObject, Action.run_bind, run_checkOpen torn, run_askSession, Bridge.ofExcept]
    cases w.session.wrap? type record with
    | error e => exact .inr ⟨.error e, rfl⟩
    | ok o =>
      rcases settles_setGlobal w name (.object o) with ⟨_, w', published⟩ | ⟨r, refused⟩
      · exact .inl ⟨.object o, w', by simp [published]⟩
      · exact .inr ⟨r, by simp [refused]⟩

end Session

/-- In every state that a session evolves to and for every value, a push puts one value on the stack, on top
    of what is there, or fails and changes nothing at all.  It fails for a disposed function, and for the
    limit on handles only if the object or surface has no handle.  So an assignment of a global and the
    publishing of an object change nothing either when they fail. -/
theorem push_all_or_nothing {m : Machine} (whole : m.base ≤ m.height) {host : HostStore}
    {options : SessionOptions} {w : World} (opened : Evolves (openSession options m host) w)
    (v : HostValue) :
    ((∃ x w', (Bridge.push v).run w = (.value (), w') ∧ w'.machine.stack = w.machine.stack.push x ∧
        w'.machine.frames = w.machine.frames) ∨
      ∃ r, (Bridge.push v).run w = (.failure r, w) ∧ w.CannotPush v r) ∧
    (∀ name, Session.Settles (Session.setGlobal name v) w) ∧
    ∀ name type record, Session.Settles (Session.pushObject name type record) w := by
  have whole' : w.machine.base ≤ w.machine.height :=
    Path.whole opened (whole_openSession whole options host)
  refine ⟨(Bridge.push_one_or_none whole' v).imp_right fun ⟨r, failed⟩ => ?_,
    fun name => Session.settles_setGlobal w name v,
    fun name type record => Session.settles_pushObject w name type record⟩
  exact ⟨r, failed, Bridge.cannotPush (Path.isIndexed opened) failed⟩

/-- A session that may issue one handle has issued it for the surface of a gauge. -/
def limitedWorld : World :=
  ((Command.runAll (callerAt 1) [.forward (blankSpec "Gauge")]).run
    (openSession { maxHandles := some 1 } (.start 1) .empty)).2

/-- A gauge. -/
def unheldGauge : HostObject := ⟨0, gaugeSurface.descriptor⟩

/-- The gauge cannot be pushed any more, nor assigned; but the surface can be pushed again. -/
theorem push_all_or_nothing_of_limited :
    (Bridge.push (.object unheldGauge)).run limitedWorld =
      (.failure (.error (.handleLimit 1)), limitedWorld) ∧
    (∀ t, ¬ limitedWorld.IsHandleOf t (.object unheldGauge)) ∧
    (Session.setGlobal "gauge" (.object unheldGauge)).run limitedWorld =
      (.failure (.error (.handleLimit 1)), limitedWorld) ∧
    ∃ x w, (Bridge.push (.surface gaugeSurface)).run limitedWorld = (.value (), w) ∧
      w.machine.stack = limitedWorld.machine.stack.push x := by
  have opened : Evolves (openSession { maxHandles := some 1 } (.start 1) .empty) limitedWorld :=
    evolves_runAll (by decide) 1 _
  have pushes (v : HostValue) := push_all_or_nothing (by decide) opened v
  have isRefused : ((Bridge.push (.object unheldGauge)).run limitedWorld).1.failure? =
    some (.error (.handleLimit 1)) := by decide +kernel
  have isUnset : ((Session.setGlobal "gauge" (.object unheldGauge)).run limitedWorld).1.failure? =
    some (.error (.handleLimit 1)) := by decide +kernel
  have isPushed : ((Bridge.push (.surface gaugeSurface)).run limitedWorld).1.value? = some () := by
    decide +kernel
  -- The world is a closed term, which the tactics below would unfold.
  generalize limitedWorld = w at pushes isRefused isUnset isPushed ⊢
  obtain ⟨pushed, settled, -⟩ := pushes (.object unheldGauge)
  refine ⟨?_, ?_, ?_, ?_⟩
  · rcases pushed with ⟨x, w', pushed, _⟩ | ⟨r, failed, _⟩
    · rw [pushed] at isRefused
      cases isRefused
    · rw [failed] at isRefused
      cases isRefused
      exact failed
  · rcases pushed with ⟨x, w', pushed, _⟩ | ⟨r, _, why⟩
    · rw [pushed] at isRefused
      cases isRefused
    · exact why.unheld rfl
  · rcases settled "gauge" with ⟨_, w', published⟩ | ⟨r, failed⟩
    · rw [published] at isUnset
      cases isUnset
    · rw [failed] at isUnset
      cases isUnset
      exact failed
  · obtain ⟨⟨x, w', pushed, stack, _⟩ | ⟨r, failed, _⟩, -⟩ := pushes (.surface gaugeSurface)
    · exact ⟨x, w', pushed, stack⟩
    · rw [failed] at isPushed
      cases isPushed

end ScriptHost
