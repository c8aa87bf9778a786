import ScriptHost.Proofs.Discipline.Paths
import ScriptHost.Proofs.Session.Pushing
/-!
# How the stores of a session change

A step of a run changes the machine, the session and the host at once.  What it does to the handles, the
proxies and the references of a session comes down to a few changes of all three, one for each lemma of
`World.IsBacked`.  `World.Shift` names them, and `World.Path.moves` takes a run apart into them.

Code can spoil this by reaching past the session: by giving up references that the session holds, by
closing the machine, or by editing a proxy or its metatable.  `Op.Disturbs` says when an operation does so.
-/

namespace ScriptHost

open World Machine

/-! ## Disturbing -/

/-- The table is the proxy of a handle. -/
def World.IsProxy (w : World) (address : Nat) : Prop :=
  ∃ t r, w.session.proxies.get? t = some r ∧ w.machine.referenced? r = some (.table address)

/-- The table is the metatable of the proxy of a handle. -/
def World.IsProxyMetatable (w : World) (address : Nat) : Prop :=
  ∃ proxy, w.IsProxy proxy ∧ (w.machine.table proxy).metatable = some address

/-- The operation gives up a reference that the session holds, or all of them by closing the machine, or
    it edits the metatable of a proxy. -/
def Op.Disturbs (op : Op) (w : World) : Prop :=
  match op with
  | .releaseReference r => ∃ x, w.heldBy x = some r
  | .close => True
  | .setMeta i => ∃ address, w.machine.valueAt i = .table address ∧ w.IsProxy address
  | .rawSet i _ => ∃ address, w.machine.valueAt i = .table address ∧ w.IsProxyMetatable address
  | .setField i name => ∃ address,
      w.machine.assignee? name Vm.maxChain (w.machine.valueAt i) = some address ∧
        w.IsProxyMetatable address
  | _ => False

theorem Op.Disturbs.isEdit {op : Op} {w : World} (disturbs : op.Disturbs w) : op.IsEdit := by
  cases op with
  | reference i | releaseReference r | close | setMeta i | rawSet i name | setField i name => exact trivial
  | _ => exact disturbs.elim

/-! ## Shifts -/

/-- One change of the stores of a session, and the number of handles it gives up.  Whether scripts may
    have references of their own is said by `own`. -/
inductive World.Shift (own : Prop) (w : World) : Nat → World → Prop where
  | agrees {w' : World} (agrees : Agrees w w') : Shift own w 0 w'
  | pin (allowed : own) {m : Machine} {r : Nat} {v : Value} (pins : w.machine.Pins r v m)
      (whole : m.base ≤ m.height) : Shift own w 0 { w with machine := m }
  | unpin (allowed : own) {m : Machine} {r : Nat} (unheld : ∀ x, w.heldBy x ≠ some r)
      (unpins : w.machine.Unpins r m) (whole : m.base ≤ m.height) : Shift own w 0 { w with machine := m }
  | pinFunction {m : Machine} {r : Nat} {v : Value} (pins : w.machine.Pins r v m)
      (isFunction : v.isFunction = true) (whole : m.base ≤ m.height) : Shift own w 0 { w with
        machine := m
        session := { w.session with liveFunctions := w.session.liveFunctions + 1 }
        host := (w.host.newFunction r).2 }
  | disposeFunction {m : Machine} {r number : Nat} (held : w.host.functionReference? number = some r)
      (unpins : w.machine.Unpins r m) (whole : m.base ≤ m.height) : Shift own w 0 { w with
        machine := m
        session := { w.session with liveFunctions := w.session.liveFunctions - 1 }
        host := w.host.disposeFunction number }
  | loadChunk {m : Machine} {r : Nat} {v : Value} (vacant : w.session.chunk = none)
      (pins : w.machine.Pins r v m) (whole : m.base ≤ m.height) : Shift own w 0 { w with
        machine := m
        session := { w.session with chunk := some r } }
  | replaceChunk {m m' : Machine} {r stale : Nat} {v : Value} (held : w.session.chunk = some stale)
      (pins : w.machine.Pins r v m) (unpins : m.Unpins stale m') (whole : m.base ≤ m.height)
      (whole' : m'.base ≤ m'.height) : Shift own w 0 { w with
        machine := m'
        session := { w.session with chunk := some r } }
  | takeChunk {m : Machine} {r : Nat} (held : w.session.chunk = some r)
      (unpins : w.machine.Unpins r m) (whole : m.base ≤ m.height) : Shift own w 0 { w with
        machine := m
        session := { w.session with chunk := none } }
  | issue {entry : HandleEntry} {i r : Nat} {t : Token} {h : HandleStore} {m m' : Machine}
      (unissued : w.session.handles.Unissued w.host entry)
      (issued : w.session.handles.Issues entry i t h) (bound : i < HandleStore.slotCapacity)
      (tidy : h.IsTidy) (added : w.machine.AddsProxy t m)
      (pins : m.Pins r (.table w.machine.tables.size) m') (whole : m'.base ≤ m'.height) :
      Shift own w 0 { w with
        machine := m'
        session := { w.session with handles := h, proxies := w.session.proxies.insert t r }
        host := w.host.recordToken t entry }
  | releaseToken {entry : HandleEntry} {r : Nat} {t : Token} {h : HandleStore} {m : Machine}
      (freed : w.session.handles.Frees t entry h) (tidy : h.IsTidy)
      (held : w.session.proxies.get? t = some r) (unpins : w.machine.Unpins r m)
      (whole : m.base ≤ m.height) : Shift own w 1 { w with
        machine := m
        session := { w.session with handles := h, proxies := w.session.proxies.erase t } }

namespace World

variable {own : Prop} {w w' : World} {k : Nat}

theorem Shift.isBacked (shift : Shift own w k w') (backed : w.IsBacked) : w'.IsBacked := by
  cases shift with
  | agrees agrees => exact backed.of_agrees agrees
  | pin _ pins whole => exact backed.pin pins whole
  | unpin _ unheld unpins whole => exact backed.unpin unheld unpins whole
  | pinFunction pins isFunction whole => exact backed.pinFunction pins isFunction whole
  | disposeFunction held unpins whole => exact backed.disposeFunction held unpins whole
  | loadChunk _ pins whole => exact backed.loadChunk pins whole
  | replaceChunk held pins unpins whole whole' => exact backed.replaceChunk held pins unpins whole' whole
  | takeChunk held unpins whole => exact backed.takeChunk held unpins whole
  | issue unissued issued bound tidy added pins whole =>
    exact backed.issue unissued issued bound tidy added pins whole
  | releaseToken freed tidy held unpins whole => exact backed.releaseToken freed tidy held unpins whole

/-- The session's count of script functions stays right. -/
theorem Shift.functions_counted (shift : Shift False w k w')
    (functions : w.session.liveFunctions = w.host.functions.countP Option.isSome) :
    w'.session.liveFunctions = w'.host.functions.countP Option.isSome := by
  cases shift with
  | agrees agrees => rw [agrees.liveFunctions, agrees.functions, functions]
  | pinFunction pins isFunction whole => simp [HostStore.newFunction, functions]
  | disposeFunction held unpins whole =>
    exact Nat.sub_eq_of_eq_add (functions.trans (HostStore.countP_disposeFunction held).symm)
  | issue _ _ _ _ _ _ _ => rw [HostStore.functions_recordToken, ← functions]
  | _ => exact functions

/-- As long as scripts have no references of their own, the session accounts for all there are. -/
theorem Shift.isAccounted (shift : Shift False w k w') (accounted : w.IsAccounted) :
    w'.IsAccounted := by
  refine ⟨shift.isBacked accounted.toIsBacked, shift.functions_counted accounted.functions, ?_⟩
  have count := accounted.count
  cases shift with
  | agrees agrees =>
    rw [referenceCount, agrees.registry, agrees.handles, agrees.liveFunctions, Session.pendingChunks,
      agrees.chunk]
    exact count
  | pin allowed _ _ => exact allowed.elim
  | unpin allowed _ _ _ => exact allowed.elim
  | pinFunction pins isFunction whole =>
    have pinned := pins.count
    simp only [Session.pendingChunks] at count ⊢
    omega
  | @disposeFunction _ _ number held unpins whole =>
    have unpinned := unpins.count
    -- The function that is disposed was counted.
    have some_live : 0 < w.session.liveFunctions := by
      rw [accounted.functions, Array.countP_pos_iff]
      exact ⟨_, Array.mem_iff_getElem?.2 ⟨number, HostStore.functions_of_reference held⟩, rfl⟩
    simp only [Session.pendingChunks] at count ⊢
    omega
  | loadChunk vacant pins whole =>
    have pinned := pins.count
    simp only [Session.pendingChunks, vacant, Option.isSome_none, Option.isSome_some, if_true,
      Bool.false_eq_true, if_false] at count ⊢
    omega
  | replaceChunk held pins unpins whole whole' =>
    have pinned := pins.count
    have unpinned := unpins.count
    simp only [Session.pendingChunks, held, Option.isSome_some, if_true] at count ⊢
    omega
  | takeChunk held unpins whole =>
    have unpinned := unpins.count
    simp only [Session.pendingChunks, held, Option.isSome_none, Option.isSome_some, if_true,
      Bool.false_eq_true, if_false] at count ⊢
    omega
  | @issue _ _ _ _ _ added_machine _ unissued issued bound tidy added pins whole =>
    have pinned := pins.count
    have size := issued.size
    have same : added_machine.referenceCount = w.machine.referenceCount := by
      rw [referenceCount, added.registry, referenceCount]
    simp only [Session.pendingChunks] at count ⊢
    omega
  | releaseToken freed tidy held unpins whole =>
    have unpinned := unpins.count
    have size := freed.size
    simp only [Session.pendingChunks] at count ⊢
    omega

/-- A number of shifts, and how many handles they give up together. -/
inductive Shifts (own : Prop) (w : World) : Nat → World → Prop where
  | refl : Shifts own w 0 w
  | tail {n k : Nat} {w₁ w' : World} (shifts : Shifts own w n w₁) (shift : Shift own w₁ k w') :
      Shifts own w (n + k) w'

namespace Shifts

variable {n n' : Nat} {w₁ : World}

theorem single (shift : Shift own w k w') : Shifts own w k w' := by
  have shifts := Shifts.refl.tail shift
  rwa [Nat.zero_add] at shifts

theorem trans (first : Shifts own w n w₁) (second : Shifts own w₁ n' w') :
    Shifts own w (n + n') w' := by
  induction second with
  | refl => exact first
  | tail _ shift ih =>
    rw [← Nat.add_assoc]
    exact ih.tail shift

theorem isBacked (shifts : Shifts own w n w') (backed : w.IsBacked) : w'.IsBacked := by
  induction shifts with
  | refl => exact backed
  | tail _ shift ih => exact shift.isBacked ih

theorem isAccounted (shifts : Shifts False w n w') (accounted : w.IsAccounted) : w'.IsAccounted := by
  induction shifts with
  | refl => exact accounted
  | tail _ shift ih => exact shift.isAccounted ih

end Shifts

/-- The session is open and has no more slots for handles than tokens can tell apart. -/
structure InScope (w : World) : Prop where
  isOpen : w.session.isTornDown = false
  fits : w.session.handles.slots.size ≤ HandleStore.slotCapacity

/-- The stores get from the first world to the second one by shifts, provided the session is in scope
    then.  For all the handles that are given up, but for as many as the debt `d`, there is a new surface. -/
structure Moves (own : Prop) (d : Int) (w w' : World) : Prop where
  inScope : w'.InScope → w.InScope
  shifts : w'.InScope → w.IsBacked → ∃ n : Nat, Shifts own w n w' ∧
    n + (w.host.published.size : Int) ≤ w'.host.published.size + d

namespace Moves

variable {d e : Int} {w₁ : World}

theorem refl : Moves own 0 w w :=
  ⟨fun scope => scope, fun _ _ => ⟨0, .refl, by simp⟩⟩

theorem mono (moves : Moves own d w w') (more : d ≤ e) : Moves own e w w' :=
  ⟨moves.inScope, fun scope backed => by
    obtain ⟨n, shifts, paid⟩ := moves.shifts scope backed
    exact ⟨n, shifts, by omega⟩⟩

theorem trans (first : Moves own d w w₁) (second : Moves own e w₁ w') :
    Moves own (d + e) w w' := by
  refine ⟨fun scope => first.inScope (second.inScope scope), fun scope backed => ?_⟩
  obtain ⟨n, shifts, paid⟩ := first.shifts (second.inScope scope) backed
  obtain ⟨n', shifts', paid'⟩ := second.shifts scope (shifts.isBacked backed)
  exact ⟨n + n', shifts.trans shifts', by omega⟩

/-- A shift that leaves the handles alone. -/
theorem of_shift (handles : w'.session.handles = w.session.handles)
    (isTornDown : w'.session.isTornDown = w.session.isTornDown)
    (published : (w.host.published.size : Int) ≤ w'.host.published.size + d)
    (shift : w.IsBacked → Shift own w 0 w') : Moves own d w w' :=
  ⟨fun scope => ⟨isTornDown ▸ scope.isOpen, handles ▸ scope.fits⟩, fun _ backed =>
    ⟨0, .single (shift backed), by simpa using published⟩⟩

/-- A change that the invariant does not speak of. -/
theorem of_agrees (isTornDown : w'.session.isTornDown = w.session.isTornDown)
    (published : (w.host.published.size : Int) ≤ w'.host.published.size + d)
    (handles : w'.session.handles = w.session.handles) (agrees : w.IsBacked → Agrees w w') :
    Moves own d w w' :=
  .of_shift handles isTornDown published fun backed => .agrees (agrees backed)

/-- A change of the machine that leaves the registry alone, after which the tables of proxies still carry
    their tokens. -/
theorem of_machine {m : Machine} (same : w.machine.SameRegistry m)
    (carries : ∀ {t r a}, w.session.proxies.get? t = some r →
      w.machine.referenced? r = some (.table a) → w.machine.Carries a t → m.Carries a t)
    (whole : w.machine.base ≤ w.machine.height → m.base ≤ m.height) :
    Moves own 0 w { w with machine := m } :=
  .of_agrees rfl (by simp) rfl fun backed =>
    ⟨rfl, fun _ => rfl, rfl, rfl, rfl, fun _ => rfl, same.registry, same.freeReferences, carries,
      whole backed.whole⟩

theorem of_tame {α : Type} {f : Machine → α × Machine} (tame : IsTame f) :
    Moves own 0 w { w with machine := (f w.machine).2 } :=
  .of_machine (.of_tame tame w.machine)
    (fun _ _ carries => carries.of_table fun b _ => tame.table w.machine b) tame.staysWhole

/-- A change of the session beside its stores. -/
theorem of_session {s : Session} (handles : s.handles = w.session.handles)
    (proxies : s.proxies = w.session.proxies) (chunk : s.chunk = w.session.chunk)
    (liveFunctions : s.liveFunctions = w.session.liveFunctions)
    (isTornDown : s.isTornDown = w.session.isTornDown) : Moves own 0 w { w with session := s } :=
  .of_agrees isTornDown (by simp) handles fun backed =>
    ⟨handles, fun _ => by rw [proxies], chunk, liveFunctions, rfl, fun _ => rfl, rfl, rfl,
      fun _ _ carries => carries, backed.whole⟩

end Moves

end World

/-! ## Steps as moves -/

namespace World

/-- The world gets to where the action, run in it, ends. -/
abbrev MovesBy (own : Prop) (d : Int) (w : World) {ε α : Type} (x : Action World ε α) : Prop :=
  Moves own d w (x.run w).2

namespace MovesBy

variable {own : Prop} {w : World}

/-- The proxy of a token that is live is pushed. -/
theorem pushProxy {t : Token} {live : HandleEntry} (resolved : w.session.handles.get? t = some live)
    (typeName : String) : MovesBy own 0 w (Bridge.pushProxy t typeName) := by
  obtain ⟨handles, isTornDown⟩ := Bridge.session_pushProxy w t typeName
  refine ⟨fun scope => ⟨isTornDown ▸ scope.isOpen, handles ▸ scope.fits⟩, fun _ backed => ?_⟩
  obtain ⟨r, a, pinned, kept, _⟩ := backed.pinned resolved
  rw [Bridge.run_pushProxy_pinned pinned kept]
  refine ⟨0, .single (.agrees ⟨rfl, fun _ => rfl, rfl, rfl, rfl, fun _ => rfl, rfl, rfl,
    fun _ _ carries => carries, ?_⟩), by simp⟩
  have whole := backed.whole
  show w.machine.base ≤ (w.machine.stack.push _).size
  rw [Array.size_push]
  exact Nat.le_succ_of_le whole

theorem shift_issued (backed : w.IsBacked) {entry : HandleEntry} {i : Nat} {t : Token} {h : HandleStore}
    (unissued : w.session.handles.Unissued w.host entry) (issues : w.session.handles.Issues entry i t h)
    (bound : i < HandleStore.slotCapacity) (tidy : h.IsTidy) : Shift own w 0 (w.issued entry t h) := by
  have added := addsProxy_newProxy backed.whole t entry.typeName
  have base_added : (w.machine.newProxy t entry.typeName).base = w.machine.base := by
    rw [Machine.base, added.frames, Machine.base]
  -- The proxy is on top of the stack when it is pinned.
  have pins := pins_reference (backed.backs.tidy.of_eq added.registry added.freeReferences) (-1)
  rw [valueAt_top added.stack (by rw [base_added]; exact backed.whole)] at pins
  refine .issue unissued issues bound tidy added pins ((isRelative_reference (-1)).staysWhole ?_)
  rw [base_added, height, added.stack, Array.size_push]
  exact Nat.le_succ_of_le backed.whole

/-- A handle is issued for a thing that has none. -/
theorem issueProxy {entry : HandleEntry} (missing : w.liveToken? entry = none) :
    MovesBy own 0 w (Bridge.issueProxy entry) := by
  obtain ⟨handles, isTornDown⟩ := Bridge.session_issueProxy w entry
  refine ⟨fun scope => ⟨isTornDown ▸ scope.isOpen, ?_⟩, fun scope backed => ?_⟩
  · have fits := scope.fits
    rw [handles] at fits
    exact Nat.le_trans (HandleStore.size_slots_alloc w.session.handles entry entry.tag) fits
  · rcases Bridge.run_issueProxy backed.isFiled entry (handles ▸ scope.fits) with
      ⟨e, run_eq⟩ | ⟨i, t, h, issues, bound, tidy, run_eq⟩ <;> rw [run_eq]
    · exact ⟨0, .refl, by simp⟩
    · have shift : Shift own w 0 _ := shift_issued backed (unissued_of_liveToken? missing) issues bound tidy
      have grown := HostStore.size_published_recordToken w.host t entry
      exact ⟨0, .single shift, by simpa [World.issued] using grown⟩

theorem push_entry (entry : HandleEntry) : MovesBy own 0 w (Bridge.push entry.toValue) := by
  have run_eq := Bridge.run_push_entry w entry
  cases found : w.liveToken? entry with
  | some t =>
    obtain ⟨live, resolved⟩ := get?_of_liveToken? found
    rw [found] at run_eq
    rw [MovesBy, run_eq]
    exact pushProxy resolved entry.typeName
  | none =>
    rw [found] at run_eq
    rw [MovesBy, run_eq]
    exact issueProxy found

theorem readFunction {i j : Int} (slot : w.machine.readSlot (w.machine.absIndex i) = .function (.slot j)) :
    MovesBy own 0 w (Bridge.read i) := by
  rw [MovesBy, Bridge.run_read_function_at slot]
  exact Moves.of_shift rfl rfl (by simp [HostStore.newFunction]) fun backed =>
    .pinFunction (pins_reference backed.backs.tidy j) (isFunction_of_readSlot slot)
      ((isRelative_reference j).staysWhole backed.whole)

theorem releaseToken (t : Token) : MovesBy own 1 w (Session.releaseToken t) := by
  rw [MovesBy, Session.run_releaseToken]
  refine ⟨fun scope => ⟨scope.isOpen, ?_⟩, fun scope backed => ?_⟩
  · exact HandleStore.size_slots_release w.session.handles t ▸ scope.fits
  · have proxied := backed.proxied t
    rcases HandleStore.release_cases backed.handles t with
      ⟨dead, refused⟩ | ⟨entry, h, served, freed, tidy⟩
    · rw [dead] at proxied
      have unpinned := Option.isNone_iff_eq_none.1 (Option.isSome_eq_false_iff.1 proxied)
      rw [unpinned, refused]
      refine ⟨0, .single (.agrees ⟨rfl, fun t' => ?_, rfl, rfl, rfl, fun _ => rfl, rfl, rfl,
        fun _ _ carries => carries, backed.whole⟩),
        Int.le_add_one (Int.le_of_eq (Int.zero_add _))⟩
      -- Erasing what is not there changes nothing.
      by_cases same : t = t'
      · simp [← same, unpinned]
      · simp [same]
    · rw [freed.live] at proxied
      obtain ⟨r, held⟩ := Option.isSome_iff_exists.1 proxied
      rw [held, served]
      exact ⟨1, .single (.releaseToken freed tidy held (backed.unpins (x := .proxy t) held)
        ((isRelative_releaseReference r).staysWhole backed.whole)), by simp [Int.add_comm]⟩

end MovesBy

/-- Moving the stores is a course.  What it pays for are the handles that are given up. -/
def moving (own : Prop) : Course where
  Leads := Moves own
  refl _ := .refl
  mono := Moves.mono
  trans := Moves.trans
  tame tame _ := .of_tame tame
  session _ _ := Moves.of_session
  newSurface d w := by
    have made : (w.host.newSurface d).2.published.size = w.host.published.size + 1 := Array.size_push _
    refine .of_agrees rfl (?_ : (w.host.published.size : Int) ≤ (w.host.newSurface d).2.published.size + (-1))
      rfl fun backed => ⟨rfl, fun _ => rfl, rfl, rfl, rfl, HostStore.publishedToken_newSurface w.host d, rfl,
        rfl, fun _ _ carries => carries, backed.whole⟩
    omega
  pushEntry entry _ := MovesBy.push_entry entry
  readFunction := MovesBy.readFunction
  releaseToken t _ := MovesBy.releaseToken t

namespace MovesBy

variable {own : Prop} {w : World}

theorem push (v : HostValue) : MovesBy own 0 w (Bridge.push v) := (moving own).push v

theorem disposeFunction (number : Nat) : MovesBy own 0 w (Bridge.disposeFunction number) := by
  cases held : w.host.functionReference? number with
  | none =>
    exact Course.LeadsBy.of_unchanged (C := moving own)
      (by simp [Bridge.disposeFunction, Bridge.run_functionReference, held])
  | some r =>
    rw [MovesBy, Bridge.run_disposeFunction held]
    exact Moves.of_shift rfl rfl (by simp [HostStore.disposeFunction]) fun backed =>
      .disposeFunction held (backed.unpins (x := .function number) held)
        ((isRelative_releaseReference r).staysWhole backed.whole)

theorem pinChunk : MovesBy own 0 w Session.pinChunk := by
  have relative : IsRelative fun m => ((), (m.reference (-1)).2.pop 1) :=
    ((isRelative_reference (-1)).mapAnswer fun _ => ()).seq (isSteady_pop 1).toIsRelative
  rw [MovesBy, Session.run_pinChunk]
  refine Moves.of_shift rfl rfl (by simp) fun backed => ?_
  have pins := Machine.pins_pinned backed.backs.tidy
  have whole := relative.staysWhole backed.whole
  cases held : w.session.chunk with
  | none => exact .loadChunk held pins whole
  | some stale =>
    -- The stale chunk is given up after the new one is pinned, so the two have different references.
    obtain ⟨v, kept⟩ := backed.backs.live (x := .chunk) held
    exact .replaceChunk held pins (unpins_releaseReference pins.tidy (pins.kept kept)) whole
      ((isRelative_releaseReference stale).staysWhole whole)

theorem takeChunk : MovesBy own 0 w Session.takeChunk := by
  cases held : w.session.chunk with
  | none =>
    exact Course.LeadsBy.of_unchanged (C := moving own) (by simp [Session.takeChunk, held])
  | some r =>
    rw [MovesBy, Session.run_takeChunk held]
    have pushed : Moves own 0 w _ := .of_tame (isSteady_pushReference r).isTame
    refine pushed.trans (e := 0) (Moves.of_shift rfl rfl (by simp) fun backed => ?_)
    exact .takeChunk held (backed.unpins (x := .chunk) held)
      ((isRelative_releaseReference r).staysWhole backed.whole)

/-- After the teardown the session is not in scope. -/
theorem teardown : MovesBy own 0 w Session.teardown := by
  have tornDown := Session.isTornDown_teardown w
  refine ⟨fun scope => ?_, fun scope => ?_⟩ <;> rw [scope.isOpen] at tornDown <;> cases tornDown

end MovesBy

/-! ### Edits -/

section Edits

variable {own : Prop} {w : World}

/-- Giving up a reference that the session does not hold. -/
theorem Moves.releaseReference (allowed : own) {r : Nat} (unheld : ∀ x, w.heldBy x ≠ some r) :
    Moves own 0 w { w with machine := w.machine.releaseReference r } := by
  cases kept : w.machine.referenced? r with
  | none =>
    rw [releaseReference_of_dead kept]
    exact .refl
  | some v =>
    exact .of_shift rfl rfl (by simp) fun backed =>
      .unpin allowed unheld (unpins_releaseReference backed.backs.tidy kept)
        ((isRelative_releaseReference r).staysWhole backed.whole)

theorem Moves.setTableField {address : Nat} (harmless : ¬ w.IsProxyMetatable address) (key : Bytes)
    (v : Value) : Moves own 0 w { w with machine := w.machine.setTableField address key v } :=
  .of_machine ⟨rfl, rfl⟩
    (fun {t r a} held kept carries =>
      carries.setTableField (fun found => harmless ⟨a, ⟨t, r, held, kept⟩, found⟩) key v)
    (isRelative_setTableField address key v).staysWhole

theorem Moves.rawSet {i : Int} (harmless : ∀ address, w.machine.valueAt i = .table address →
    ¬ w.IsProxyMetatable address) (name : String) :
    Moves own 0 w { w with machine := w.machine.rawSet i name } := by
  refine .of_machine (.rawSet w.machine i name) (fun {t r a} held kept carries => ?_)
    (isRelative_rawSet i name).staysWhole
  -- The value is popped first, which touches no table; then the field is set.
  have popped : w.machine.popValue.2.Carries a t :=
    carries.of_table fun b _ => isSteady_popValue.table w.machine b
  simp only [Machine.rawSet]
  cases target : w.machine.valueAt i with
  | table address =>
    refine popped.setTableField (fun found => harmless address target ⟨a, ⟨t, r, held, kept⟩, ?_⟩) _ _
    rw [← isSteady_popValue.table w.machine a, found]
  | _ => exact popped

theorem Moves.setMetatable {i : Int} (harmless : ∀ address, w.machine.valueAt i = .table address →
    ¬ w.IsProxy address) : Moves own 0 w { w with machine := (w.machine.setMetatable i).2 } := by
  refine .of_machine (.setMetatable w.machine i) (fun {t r a} held kept carries => ?_)
    (isRelative_setMetatable i).staysWhole
  have popped : w.machine.popValue.2.Carries a t :=
    carries.of_table fun b _ => isSteady_popValue.table w.machine b
  simp only [Machine.setMetatable]
  cases target : w.machine.valueAt i with
  | table address =>
    have other : a ≠ address := fun same => harmless address target ⟨t, r, held, same ▸ kept⟩
    cases w.machine.popValue.1 with
    | table metatable => exact popped.setMetatable other _
    | nil => exact popped.setMetatable other _
    | _ => exact popped
  | _ => exact popped

/-- The value to assign was popped before, which changed neither tables nor references. -/
theorem isProxyMetatable_popped {address : Nat} (proxy : w.popped.IsProxyMetatable address) :
    w.IsProxyMetatable address := by
  obtain ⟨a, ⟨t, r, held, kept⟩, metatable⟩ := proxy
  have kept : w.machine.popValue.2.referenced? r = some (.table a) := kept
  rw [referenced?_of_eq (isSteady_popValue.registry w.machine)] at kept
  have metatable : (w.machine.popValue.2.table a).metatable = some address := metatable
  rw [isSteady_popValue.table w.machine] at metatable
  exact ⟨a, ⟨t, r, held, kept⟩, metatable⟩

end Edits

/-! ### Paths -/

section Paths

variable {bars : Op → World → Prop} {own : Prop} {w w' : World}

/-- In a run that is stopped before an operation disturbs the session, each step moves the stores.  If
    scripts have no references of their own, it is also stopped before they pin or unpin any. -/
theorem Step.moves (safe : ∀ op w, op.Disturbs w → bars op w)
    (pins : own ∨ ∀ i w, bars (.reference i) w) (unpins : own ∨ ∀ r w, bars (.releaseReference r) w)
    (step : Step bars w w') : Moves own 0 w w' := by
  cases step with
  | @stack m same whole =>
    refine .of_machine ⟨by rw [same], by rw [same]⟩ (fun _ _ carries => ?_) fun _ => whole
    exact carries.of_tables (by rw [same])
  | tame tame => exact .of_tame tame
  | plain plain =>
    have resembles := plain w.host
    exact .of_agrees rfl (by simpa using resembles.surfaces) rfl fun backed =>
      ⟨rfl, fun _ => rfl, rfl, rfl, resembles.functions, resembles.published, rfl, rfl,
        fun _ _ carries => carries, backed.whole⟩
  | emit e =>
    exact .of_agrees rfl (by simp) rfl fun backed =>
      ⟨rfl, fun _ => rfl, rfl, rfl, rfl, fun _ => rfl, rfl, rfl, fun _ _ carries => carries,
        backed.whole⟩
  | push v => exact MovesBy.push v
  | read i => exact (moving own).read i
  | disposeFunction number => exact MovesBy.disposeFunction number
  | registerType d => exact (moving own).registerType d
  | forwardType d => exact (moving own).forwardType d
  | pinChunk => exact MovesBy.pinChunk
  | takeChunk => exact MovesBy.takeChunk
  | teardown => exact MovesBy.teardown
  -- References of scripts are the own ones, if the run may get that far at all.
  | @reference i allowed =>
    have isOwn : own := pins.resolve_right fun barred => allowed (barred i w)
    exact .of_shift rfl rfl (by simp) fun backed =>
      .pin isOwn (pins_reference backed.backs.tidy i) ((isRelative_reference i).staysWhole backed.whole)
  | @releaseReference r allowed =>
    have isOwn : own := unpins.resolve_right fun barred => allowed (barred r w)
    exact .releaseReference isOwn fun x held => allowed (safe _ w ⟨x, held⟩)
  | close allowed => exact absurd (safe .close w trivial) allowed
  | rawSet allowed =>
    exact .rawSet (fun address target proxy => allowed (safe _ w ⟨address, target, proxy⟩)) _
  | setMetatable allowed =>
    exact .setMetatable fun address target proxy => allowed (safe _ w ⟨address, target, proxy⟩)
  | assign allowed popped found =>
    subst popped
    exact .setTableField (fun proxy =>
      allowed (safe _ _ ⟨_, found, isProxyMetatable_popped proxy⟩)) _ _

theorem Path.moves (safe : ∀ op w, op.Disturbs w → bars op w)
    (pins : own ∨ ∀ i w, bars (.reference i) w) (unpins : own ∨ ∀ r w, bars (.releaseReference r) w)
    (path : Path bars w w') : Moves own 0 w w' := by
  induction path with
  | refl => exact .refl
  | tail _ step ih => exact ih.trans (step.moves safe pins unpins)

end Paths

end World

end ScriptHost
