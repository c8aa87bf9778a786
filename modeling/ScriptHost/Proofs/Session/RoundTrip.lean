import ScriptHost.Proofs.Number.Nearest
import ScriptHost.Proofs.Session.Memory
import ScriptHost.Proofs.Text.Utf8
/-!
# Round trips

What the host pushes and reads again comes back: a scalar or text as it was, an integer as the double
nearest to it, an object or a surface as itself, and a script function as another hold on the same
function (`HostValue.ComesBack`).  An object or a surface is pushed as one and the same table as long as
its handle lives, and no handle is issued for it again (`push_read_round_trip`).

This rests on what `World.IsBacked` says of one state, and on what `World.Shifts.remember` says of two.
The states are those on a path from a new session, among them all in which a run of commands ends or is
stopped (`World.Reaches.path`).
-/

namespace ScriptHost

open World Machine

/-! ## Handles of things -/

/-- The entries are of one object, or of one surface. -/
def HandleEntry.IsSame : HandleEntry → HandleEntry → Prop
  | .object o, .object o' => o.record = o'.record
  | .surface s, .surface s' => s.number = s'.number
  | _, _ => False

instance : (live entry : HandleEntry) → Decidable (live.IsSame entry)
  | .object o, .object o' => inferInstanceAs (Decidable (o.record = o'.record))
  | .surface s, .surface s' => inferInstanceAs (Decidable (s.number = s'.number))
  | .object _, .surface _ => isFalse id
  | .surface _, .object _ => isFalse id

theorem HandleEntry.isSame_refl (entry : HandleEntry) : entry.IsSame entry := by
  cases entry <;> exact rfl

/-- The token is a live handle of the thing. -/
def World.IsHandleOf (w : World) (t : Token) (entry : HandleEntry) : Prop :=
  ∃ live, w.session.handles.get? t = some live ∧ live.IsSame entry

instance (w : World) (t : Token) (entry : HandleEntry) : Decidable (w.IsHandleOf t entry) :=
  inferInstanceAs (Decidable (∃ live, live ∈ w.session.handles.get? t ∧ live.IsSame entry))

section Handles

variable {w : World} {entry : HandleEntry} {t : Token}

/-- A thing that has a handle is pushed under it. -/
theorem HandleStore.IsRecorded.liveToken?_eq (recorded : w.session.handles.IsRecorded w.host)
    (handle : w.IsHandleOf t entry) : w.liveToken? entry = some t := by
  obtain ⟨live, resolved, same⟩ := handle
  cases live with
  | object o' =>
    cases entry with
    | object o => exact recorded.tokenOf?_eq resolved same
    | surface s => exact same.elim
  | surface s' =>
    cases entry with
    | object o => exact same.elim
    | surface s =>
      have published : w.host.publishedToken s = some t := by
        rw [HostStore.publishedToken, ← same]
        exact recorded.surfaces resolved
      rw [liveToken?, published, Option.filter_some, if_pos (by rw [resolved]; rfl)]

theorem World.IsBacked.liveToken?_eq (backed : w.IsBacked) (handle : w.IsHandleOf t entry) :
    w.liveToken? entry = some t :=
  backed.recorded.liveToken?_eq handle

/-- The token under which a thing is pushed is its own. -/
theorem World.isHandleOf_of_liveToken? (recalls : ∀ s, entry = .surface s → w.Recalls s)
    (found : w.liveToken? entry = some t) : w.IsHandleOf t entry := by
  cases entry with
  | object o =>
    obtain ⟨live, resolved, same⟩ := HandleStore.get?_of_tokenOf? found
    exact ⟨_, resolved, same⟩
  | surface s =>
    obtain ⟨live, resolved⟩ := get?_of_liveToken? found
    obtain ⟨published, _⟩ := Option.filter_eq_some_iff.1 found
    obtain ⟨own, ⟨s', rfl, same⟩, keeps⟩ := recalls s rfl t published
    rw [keeps.eq_of_live resolved] at resolved
    exact ⟨_, resolved, same⟩

end Handles

/-! ## Pushing a thing -/

section Things

variable {w w' : World} {entry : HandleEntry}

/-- A thing is pushed as the proxy of its handle.  If it had the handle before, nothing but the stack is
    changed. -/
theorem Bridge.push_thing (backed : w.IsBacked) (recalls : ∀ s, entry = .surface s → w.Recalls s)
    (pushed : (Bridge.push entry.toValue).run w = (.value (), w'))
    (fits : w'.session.handles.slots.size ≤ HandleStore.slotCapacity) :
    ∃ t a, w'.IsHandleOf t entry ∧ w'.HasPushed t a ∧
      ((∃ t', w.IsHandleOf t' entry) → w'.session = w.session) := by
  obtain ⟨t, a, proxy, ⟨found, same⟩ | ⟨missing, resolved⟩⟩ := push_entry backed pushed fits
  · obtain ⟨live, resolved, isSame⟩ := isHandleOf_of_liveToken? recalls found
    exact ⟨t, a, ⟨live, same ▸ resolved, isSame⟩, proxy, fun _ => same⟩
  · refine ⟨t, a, ⟨entry, resolved, entry.isSame_refl⟩, proxy, fun ⟨t', handle⟩ => ?_⟩
    rw [backed.liveToken?_eq handle] at missing
    cases missing

/-- As long as a thing has the handle, it is pushed as the table that is its proxy. -/
theorem Bridge.run_push_of_holds (backed : w.IsBacked) {t : Token} {live : HandleEntry} {a : Nat}
    (holds : w.Holds t live a) (handle : w.IsHandleOf t entry) :
    (Bridge.push entry.toValue).run w = (.value (), { w with machine := w.machine.push (.table a) }) := by
  have found := backed.liveToken?_eq handle
  obtain ⟨other, resolved, _⟩ := handle
  rcases holds with ⟨_, r, pinned, kept⟩ | past
  · rw [run_push_entry, found]
    exact run_pushProxy_pinned pinned kept _
  · rw [past.get?_eq_none] at resolved
    cases resolved

end Things

/-! ## Script functions -/

/-- A function on top of the stack is read as a new hold on it. -/
theorem Bridge.run_read_function {w : World} (tidy : w.machine.HasTidyRegistry) {f : Value}
    (top : w.machine.IsTop f) (isFunction : f.isFunction = true) : ∃ number w', (Bridge.read (-1)).run w =
      (.value (.function number), w') ∧ w'.functionOf? number = some f := by
  have slot : w.machine.readSlot (w.machine.absIndex (-1)) =
      .function (.slot (w.machine.absIndex (-1))) := by
    rw [top.readSlot_eq]
    cases f with
    | function name code => rfl
    | _ => cases isFunction
  have holds := functionOf?_read tidy slot
  rw [run_read_function_at slot, top.valueAt_eq] at holds
  exact ⟨_, _, run_read_function_at slot, holds⟩

/-! ## Values -/

/-- What is read, of a value that was pushed.  The worlds are those in which it was pushed and after it
    was read. -/
def HostValue.ComesBack (w : World) (v : HostValue) (w' : World) (v' : HostValue) : Prop :=
  match v with
  | .int n => ∃ x, v' = .float x ∧ x.IsNearest (n.toInt * Binary64.one)
  | .object o => ∃ o', v' = .object o' ∧ o'.record = o.record
  | .surface s => ∃ s', v' = .surface s' ∧ s'.number = s.number
  | .function number => ∃ number' f, v' = .function number' ∧ w.functionOf? number = some f ∧
      w'.functionOf? number' = some f
  | .callable f => ∃ number', v' = .function number' ∧
      w'.functionOf? number' = some (.function f.name (.host f))
  | .nil | .bool _ | .float _ | .str _ => v' = v

theorem HandleEntry.comesBack {entry live : HandleEntry} (same : live.IsSame entry) (w w' : World) :
    entry.toValue.ComesBack w w' live.toValue := by
  cases entry with
  | object o =>
    cases live with
    | object o' => exact ⟨o', rfl, same⟩
    | surface s => exact same.elim
  | surface s =>
    cases live with
    | object o => exact same.elim
    | surface s' => exact ⟨s', rfl, same⟩

/-- What a value of the machine is read as that carries no token and is no function. -/
def Value.scalar? : Value → Option HostValue
  | .nil => some .nil
  | .boolean b => some (.bool b)
  | .number x => some (.float x)
  | .string bytes => some (.str (utf8DecodeLossy bytes))
  | _ => none

theorem Bridge.run_read_scalar {w : World} {x : Value} (top : w.machine.IsTop x) {v : HostValue}
    (scalar : x.scalar? = some v) : (Bridge.read (-1)).run w = (.value v, w) := by
  have slot := top.readSlot_eq
  cases x with
  | light t => cases scalar
  | table a => cases scalar
  | function name code => cases scalar
  | _ =>
    cases scalar
    simp only [read, Action.run_bind, run_askMachine, slot]
    rfl

/-- A value that was pushed comes back when it is read. -/
theorem Bridge.read_pushed {w w' : World} (backed : w.IsBacked) {v : HostValue}
    (recalls : ∀ s, v = .surface s → w.Recalls s) (pushed : (Bridge.push v).run w = (.value (), w'))
    (fits : w'.session.handles.slots.size ≤ HandleStore.slotCapacity) :
    ∃ v' w'', (Bridge.read (-1)).run w' = (.value v', w'') ∧ v.ComesBack w w'' v' := by
  have top (x : Value) : (w.machine.push x).IsTop x := isTop_push backed.whole x
  have tidy (x : Value) : (w.machine.push x).HasTidyRegistry := backed.backs.tidy.of_eq rfl rfl
  -- Objects and surfaces go the same way, through the token that they are issued or had before.
  have thing (entry : HandleEntry) (recalls : ∀ s, entry = .surface s → w.Recalls s)
      (pushed : (Bridge.push entry.toValue).run w = (.value (), w')) :
      ∃ v' w'', (Bridge.read (-1)).run w' = (.value v', w'') ∧ entry.toValue.ComesBack w w'' v' := by
    obtain ⟨t, a, ⟨live, resolved, same⟩, proxy, _⟩ := push_thing backed recalls pushed fits
    exact ⟨_, w', run_read_proxy proxy resolved, HandleEntry.comesBack same w w'⟩
  cases v with
  | nil =>
    cases pushed
    exact ⟨_, _, run_read_scalar (top .nil) rfl, rfl⟩
  | bool b =>
    cases pushed
    exact ⟨_, _, run_read_scalar (top (.boolean b)) rfl, rfl⟩
  | float x =>
    cases pushed
    exact ⟨_, _, run_read_scalar (top (.number x)) rfl, rfl⟩
  | int n =>
    cases pushed
    exact ⟨_, _, run_read_scalar (top (.number (.ofInt n.toInt))) rfl, _, rfl,
      Binary64.isNearest_ofInt ⟨n.le_toInt, n.toInt_lt⟩⟩
  | str s =>
    cases pushed
    refine ⟨_, _, run_read_scalar (top (.string (utf8Encode s))) rfl, ?_⟩
    exact congrArg HostValue.str (utf8DecodeLossy_encode s)
  | object o => exact thing (.object o) nofun pushed
  | surface s =>
    refine thing (.surface s) (fun s' same => recalls s' ?_) pushed
    rw [HandleEntry.surface.inj same]
  -- A function comes back under a new number: what is kept is the value that both stand for.
  | function number =>
    cases held : w.host.functionReference? number with
    | none =>
      have refused : (Bridge.push (.function number)).run w =
          (.failure (.error .disposedFunction), w) := by
        simp [push, functionReference, held, fail]
      rw [refused] at pushed
      cases pushed
    | some r =>
      obtain ⟨f, kept, isFunction⟩ := backed.backs.kept (x := .function number) held
      have run_eq : (Bridge.push (.function number)).run w =
          (.value (), { w with machine := w.machine.push f }) := by
        simp [push, functionReference, held, pushReference, kept]
      rw [run_eq] at pushed
      cases pushed
      obtain ⟨number', w'', read, holds⟩ := run_read_function
        (w := { w with machine := w.machine.push f }) (tidy f) (top f) isFunction
      refine ⟨_, w'', read, number', f, rfl, ?_, holds⟩
      rw [functionOf?, held, Option.bind_some, kept]
  | callable f =>
    cases pushed
    obtain ⟨number', w'', read, holds⟩ := run_read_function
      (w := { w with machine := w.machine.push (.function f.name (.host f)) }) (tidy _) (top _) rfl
    exact ⟨_, w'', read, number', rfl, holds⟩

/-! ## Sessions -/

/-- At a point of a session that was not disturbed, a surface that was not published before the session
    was opened has been published as itself.  The slots are then as young as the host has made surfaces
    since. -/
theorem World.Path.recalls {m : Machine} {host : HostStore} (fresh : IsFresh m host)
    {options : SessionOptions} {w : World} (passed : Path Op.Disturbs (openSession options m host) w)
    (scope : w.InScope) (few : w.host.published.size < HandleHistory.generationCapacity) :
    (∃ n, w.session.handles.IsYoung n ∧ n + host.published.size ≤ w.host.published.size) ∧
      ∀ s, host.publishedToken s = none → w.Recalls s := by
  obtain ⟨n, shifts, paid⟩ := passed.shifts fresh scope
  have backed := (fresh.openSession options).toIsBacked
  obtain ⟨young, -, recalls⟩ := shifts.remember backed (n := 0)
    (HandleStore.isYoung_empty options.maxHandles) (by omega)
  rw [Nat.zero_add] at young
  refine ⟨⟨n, young, paid⟩, fun s unpublished => recalls fun t published => ?_⟩
  have published : host.publishedToken s = some t := published
  rw [unpublished] at published
  cases published

/-- At whatever point of a session that is not disturbed, a value that is pushed comes back when it is
    read.  An object or a surface that has a handle then is not given another; and as long as it keeps
    the handle, whatever else happens, it is pushed as the same table. -/
theorem push_read_round_trip {m : Machine} {host : HostStore} (fresh : IsFresh m host)
    {options : SessionOptions} {w w' : World}
    (passed : World.Path Op.Disturbs (World.openSession options m host) w) {v : HostValue}
    (isOwn : ∀ s, v = .surface s → host.publishedToken s = none)
    (pushed : (Bridge.push v).run w = (.value (), w')) (scope : w'.InScope)
    (few : w'.host.published.size < HandleHistory.generationCapacity) :
    (∃ v' w'', (Bridge.read (-1)).run w' = (.value v', w'') ∧ v.ComesBack w w'' v') ∧
    ∀ entry : HandleEntry, v = entry.toValue →
      ((∃ t, w.IsHandleOf t entry) → w'.session = w.session) ∧
      (∃ t, w'.IsHandleOf t entry) ∧
      ∃ a, w'.machine.IsTop (.table a) ∧ ∀ t later, w'.IsHandleOf t entry →
        World.Path Op.Disturbs w' later → later.InScope →
        later.host.published.size < HandleHistory.generationCapacity → later.IsHandleOf t entry →
        (Bridge.push v).run later =
          (.value (), { later with machine := later.machine.push (.table a) }) := by
  have ended : ((Bridge.push v).run w).2 = w' := by rw [pushed]
  have moves : World.Moves True 0 w w' := ended ▸ MovesBy.push v
  have scope₀ := moves.inScope scope
  have backed := passed.isBacked fresh scope₀
  have few₀ : w.host.published.size < HandleHistory.generationCapacity := by
    obtain ⟨n, -, paid⟩ := moves.shifts scope backed
    omega
  obtain ⟨-, recalls⟩ := passed.recalls fresh scope₀ few₀
  have own (s : Surface) (same : v = .surface s) : w.Recalls s := recalls s (isOwn s same)
  refine ⟨Bridge.read_pushed backed own pushed scope.fits, fun entry same => ?_⟩
  subst same
  have passed' : World.Path Op.Disturbs (World.openSession options m host) w' := by
    have step : World.Step Op.Disturbs w w' := ended ▸ .push entry.toValue
    exact passed.tail step
  have backed' := passed'.isBacked fresh scope
  have recalled (s : Surface) (same : entry = .surface s) : w.Recalls s := own s (by rw [same]; rfl)
  obtain ⟨t, a, handle, proxy, kept⟩ := Bridge.push_thing backed recalled pushed scope.fits
  refine ⟨kept, ⟨t, handle⟩, a, proxy.top, fun t' later handle' path scope₁ few₁ still => ?_⟩
  -- A thing has one handle, so it is the one whose proxy was pushed.
  obtain rfl : t' = t := Option.some.inj
    ((backed'.liveToken?_eq handle').symm.trans (backed'.liveToken?_eq handle))
  obtain ⟨live, resolved, -⟩ := handle
  obtain ⟨⟨n, young, paid⟩, -⟩ := passed'.recalls fresh scope few
  have moves' : World.Moves True 0 w' later :=
    path.moves (fun _ _ disturbs => disturbs) (.inl trivial) (.inl trivial)
  obtain ⟨n', shifts, paid'⟩ := moves'.shifts scope₁ backed'
  obtain ⟨-, holds, -⟩ := shifts.remember backed' young (by omega)
  exact Bridge.run_push_of_holds (shifts.isBacked backed') (holds (.inl ⟨resolved, proxy.hasProxy⟩)) still

/-- A session has forwarded a type. -/
def gaugeWorld : World :=
  ((Command.runAll (watchedCaller (stopWhen fun op _ => decide op.IsEdit) 1)
    [.forward (blankSpec "Gauge")]).run (World.openSession {} (.start 8) .empty)).2

/-- Its surface was pushed. -/
def pushedGaugeWorld : World := ((Bridge.push (.surface gaugeSurface)).run gaugeWorld).2

/-- After that another type was forwarded, and an object of it pushed. -/
def laterGaugeWorld : World :=
  ((Command.runAll (watchedCaller (stopWhen fun op _ => decide op.IsEdit) 1)
    [.forward (blankSpec "Dial"), .pushObject "dial" ⟨"Dial", .plain⟩ []]).run pushedGaugeWorld).2

/-- The surface is read as itself, and its proxy is still the same when the other things have theirs. -/
theorem push_read_round_trip_of_gauge :
    ∃ a s, pushedGaugeWorld.machine.IsTop (.table a) ∧ s.number = gaugeSurface.number ∧
      (∃ w, (Bridge.read (-1)).run pushedGaugeWorld = (.value (.surface s), w)) ∧
      laterGaugeWorld.session.handles.size = 3 ∧
      (Bridge.push (.surface gaugeSurface)).run laterGaugeWorld = (.value (),
        { laterGaugeWorld with machine := laterGaugeWorld.machine.push (.table a) }) := by
  have fresh : IsFresh (.start 8) .empty := .start 8 fun _ => rfl
  have watchful (op : Op) (w : World) (disturbs : op.Disturbs w) : decide op.IsEdit = true :=
    decide_eq_true disturbs.isEdit
  have reached : World.Reaches (fun op _ => decide op.IsEdit) (World.openSession {} (.start 8) .empty)
      gaugeWorld := ⟨1, [.forward (blankSpec "Gauge")], _, (Prod.eta _).symm⟩
  have reached' : World.Reaches (fun op _ => decide op.IsEdit) pushedGaugeWorld laterGaugeWorld :=
    ⟨1, [.forward (blankSpec "Dial"), .pushObject "dial" ⟨"Dial", .plain⟩ []], _, (Prod.eta _).symm⟩
  have isPushed : ((Bridge.push (.surface gaugeSurface)).run gaugeWorld).1.value? = some () := by
    decide +kernel
  have handle : pushedGaugeWorld.IsHandleOf ⟨1, 0, 1⟩ (.surface gaugeSurface) := by decide +kernel
  have still : laterGaugeWorld.IsHandleOf ⟨1, 0, 1⟩ (.surface gaugeSurface) := by decide +kernel
  have whole : pushedGaugeWorld.machine.base ≤ pushedGaugeWorld.machine.height := by decide +kernel
  have scope : pushedGaugeWorld.InScope := ⟨by decide +kernel, by decide +kernel⟩
  have scope' : laterGaugeWorld.InScope := ⟨by decide +kernel, by decide +kernel⟩
  have few : pushedGaugeWorld.host.published.size < HandleHistory.generationCapacity := by
    decide +kernel
  have few' : laterGaugeWorld.host.published.size < HandleHistory.generationCapacity := by
    decide +kernel
  have size : laterGaugeWorld.session.handles.size = 3 := by decide +kernel
  have pushed : (Bridge.push (.surface gaugeSurface)).run gaugeWorld = (.value (), pushedGaugeWorld) :=
    Action.run_of_value? isPushed
  generalize pushedGaugeWorld = w' at *
  generalize laterGaugeWorld = later at *
  obtain ⟨⟨v', w'', read, comesBack⟩, things⟩ := push_read_round_trip fresh
    (reached.path watchful (fresh.openSession {}).whole) (fun _ _ => rfl) pushed scope few
  obtain ⟨-, -, a, top, same⟩ := things (.surface gaugeSurface) rfl
  obtain ⟨s, rfl, number⟩ := comesBack
  exact ⟨a, s, top, number, ⟨w'', read⟩, size, same _ later handle
    (reached'.path watchful whole) scope' few' still⟩

/-- Code of the host has given up the reference of an object's proxy, and has kept a boolean under its
    number. -/
def unpinnedWorld : World :=
  ((Command.runAll (callerAt 1) [.forward (blankSpec "Gauge"),
    .bind "gauge" (.pushObject "gauge" ⟨"Gauge", .plain⟩ []),
    .machine [.releaseReference 1, .pushBoolean true, .reference (-1), .pop 1]]).run
      (World.openSession {} (.start 8) .empty)).2

/-- The object then comes back as the boolean. -/
theorem unpinned_object_comes_back_as_boolean :
    unpinnedWorld.session.isTornDown = false ∧ ∃ o w',
      unpinnedWorld.host.vars.get? "gauge" = some (.object o) ∧
        (Bridge.push (.object o)).run unpinnedWorld = (.value (), w') ∧
          (Bridge.read (-1)).run w' = (.value (.bool true), w') := by
  have isOpen : unpinnedWorld.session.isTornDown = false := by decide +kernel
  have found : ((unpinnedWorld.host.vars.get? "gauge").bind HostValue.object?).any (fun o =>
      decide (((Bridge.push (.object o)).run unpinnedWorld).1.value? = some ()) &&
      decide (((Bridge.push (.object o)).run unpinnedWorld).2.machine.readSlot
        (((Bridge.push (.object o)).run unpinnedWorld).2.machine.absIndex (-1)) = .bool true)) = true := by
    decide +kernel
  generalize unpinnedWorld = w at isOpen found
  obtain ⟨o, saved, found⟩ := HostValue.exists_object found
  obtain ⟨pushed, slot⟩ := Bool.and_eq_true_iff.1 found
  refine ⟨isOpen, o, _, saved, Action.run_of_value? (of_decide_eq_true pushed), ?_⟩
  simp only [Bridge.read, Action.run_bind, run_askMachine, of_decide_eq_true slot]
  rfl

end ScriptHost
