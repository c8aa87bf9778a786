import ScriptHost.Proofs.Session.Filing
import ScriptHost.Proofs.Text.Utf8
/-!
# Replacing surfaces

A type that is forwarded again gets a new surface.  Its handle is issued before that of the old surface
is given up, and its name is assigned before the old one's is cleared, so that the two forwardings share
slots, references and globals for a moment.  `World.Forwards` says what has become of each store when the
forwarding is done.

Nothing else gives a handle up or changes which surfaces are published.  Every other step of a session
spares them (`World.Spares`), and where a path has not spared them, a surface is published that was not
made before (`World.Path.spares`).
-/

namespace ScriptHost

open World Machine
open Session (forwardedSurface halfForwarded announced withdrawn)

/-! ## Globals -/

namespace Machine

variable {m : Machine}

theorem global_setGlobal {v : Value} (top : m.IsTop v) (name other : String) :
    (m.setGlobal name).global other = if other = name then v else m.global other := by
  obtain ⟨below, stack, whole⟩ := top
  simp only [setGlobal, popValue_top stack whole, global, Table.get_set, utf8Encode_inj, eq_comm]

theorem globals_reference (m : Machine) (i : Int) : (m.reference i).2.globals = m.globals := by
  rw [reference]
  split <;> rfl

theorem global_newProxy (whole : m.base ≤ m.height) (t : Token) (typeName name : String) (i : Int) :
    ((m.newProxy t typeName).reference i).2.global name = m.global name := by
  rw [global, globals_reference, newProxy_eq whole, global]

theorem globals_releaseReference (m : Machine) (r : Nat) : (m.releaseReference r).globals = m.globals := by
  rw [releaseReference]
  split <;> rfl

theorem tables_releaseReference (m : Machine) (r : Nat) : (m.releaseReference r).tables = m.tables := by
  rw [releaseReference]
  split <;> rfl

end Machine

/-! ## Withdrawing -/

/-- What the withdrawal of a surface, if there is one, does to the stores. -/
structure World.Withdraws (w : World) (previous : Option Surface) (name : String) (w' : World) : Prop where
  host : w'.host = w.host
  surfaces : w'.session.surfaces = w.session.surfaces
  handles : ∀ t, w'.session.handles.get? t =
    if previous.bind w.host.publishedToken = some t then none else w.session.handles.get? t
  carries : ∀ {a t}, w.machine.Carries a t → w'.machine.Carries a t
  global : ∀ other, w'.machine.global other =
    if previous.map Surface.typeName = some other ∧ other ≠ name then .nil else w.machine.global other

namespace Session

variable {w : World}

/-- The token is given up. -/
theorem withdraws_releaseToken (tidy : w.session.handles.IsTidy) (previous : Surface) {t : Token}
    (published : w.host.publishedToken previous = some t) :
    w.Withdraws (some previous) previous.typeName ((releaseToken t).run w).2 := by
  rw [run_releaseToken]
  refine ⟨rfl, rfl, fun t' => ?_, fun carries => ?_, fun other => ?_⟩
  · simp only [HandleStore.get?_release tidy, Option.bind_some, published, Option.some.injEq, eq_comm]
  · cases w.session.proxies.get? t with
    | none => exact carries
    | some q => exact carries.of_tables (tables_releaseReference w.machine q)
  · rw [if_neg (by simp [eq_comm])]
    cases w.session.proxies.get? t with
    | none => rfl
    | some q => exact congrArg (·.get (utf8Encode other)) (globals_releaseReference w.machine q)

/-- The global is cleared, unless the new surface has the same name. -/
theorem withdraws_clear {w₁ : World} {previous : Surface} (released : w.Withdraws (some previous)
      previous.typeName w₁) (whole : w₁.machine.base ≤ w₁.machine.height) (name : String) :
    w.Withdraws (some previous) name (if previous.typeName = name then w₁ else
      { w₁ with machine := (w₁.machine.push .nil).setGlobal previous.typeName }) := by
  by_cases same : previous.typeName = name
  · rw [if_pos same]
    exact same ▸ released
  · rw [if_neg same]
    have cleared := isSteady_defineGlobal previous.typeName .nil
    refine ⟨released.host, released.surfaces, released.handles, fun carries => ?_, fun other => ?_⟩
    · exact (released.carries carries).of_table fun b _ => cleared.table w₁.machine b
    · have global := released.global other
      rw [if_neg (by simp [eq_comm])] at global
      show ((w₁.machine.push .nil).setGlobal previous.typeName).global other = _
      rw [global_setGlobal (isTop_push whole _)]
      by_cases cleared : other = previous.typeName
      · subst cleared
        rw [if_pos rfl, if_pos ⟨rfl, same⟩]
      · rw [if_neg cleared, if_neg (by simp [Ne.symm cleared])]
        exact global

theorem withdraws (whole : w.machine.base ≤ w.machine.height) (tidy : w.session.handles.IsTidy)
    (previous : Option Surface) (name : String) :
    w.Withdraws previous name (withdrawn w previous name) := by
  cases previous with
  | none => exact ⟨rfl, rfl, by simp [withdrawn], id, by simp [withdrawn]⟩
  | some previous =>
    rw [withdrawn]
    cases published : w.host.publishedToken previous with
    | none =>
      rw [run_withdraw_unpublished published]
      refine withdraws_clear ⟨rfl, rfl, ?_, id, ?_⟩ whole name <;> simp [published, eq_comm]
    | some t =>
      rw [run_withdraw_published published]
      refine withdraws_clear (withdraws_releaseToken tidy previous published) ?_ name
      rw [run_releaseToken]
      cases w.session.proxies.get? t with
      | none => exact whole
      | some q => exact (isRelative_releaseReference q).staysWhole whole

end Session

/-! ## Forwarding -/

/-- The token of the surface that is published for the type. -/
def World.publishedFor? (w : World) (type : RecordType) : Option Token :=
  (w.session.surfaces.get? type).bind w.host.publishedToken

/-- What a forwarding that succeeds does to the stores.  The new surface has the token, and the table is its
    proxy. -/
structure World.Forwards (w : World) (d : TypeDescriptor) (t : Token) (a : Nat) (w' : World) : Prop where
  surfaces : w'.session.surfaces = w.session.surfaces.insert d.type (forwardedSurface w d)
  unissued : w.session.handles.get? t = none
  handles : ∀ t', w'.session.handles.get? t' =
    if t' = t then some (.surface (forwardedSurface w d))
    else if w.publishedFor? d.type = some t' then none
    else w.session.handles.get? t'
  carries : w'.machine.Carries a t
  /-- No other table loses the token that it carries. -/
  kept : ∀ {a' t'}, w.machine.Carries a' t' → w'.machine.Carries a' t'
  published : ∀ s, w'.host.publishedToken s =
    if s.number = w.host.published.size then some t else w.host.publishedToken s
  made : w.host.published.size < w'.host.published.size
  global : ∀ name, w'.machine.global name =
    if name = d.name then .table a
    else if (w.session.surfaces.get? d.type).map Surface.typeName = some name then .nil
    else w.machine.global name

/-- Each surface that is published for a type was made before, and its token is live. -/
def World.HasLiveSurfaces (w : World) : Prop :=
  ∀ {type s}, w.session.surfaces.get? type = some s → s.number < w.host.published.size ∧
    ∃ t live, w.host.publishedToken s = some t ∧ w.session.handles.get? t = some live

namespace Session

variable {w w₁ w' : World} {d : TypeDescriptor}

/-- Registering the type and making its surface do not concern the handles. -/
theorem isFiled_halfForwarded (filed : w.IsFiled) (d : TypeDescriptor) : (halfForwarded w d).IsFiled :=
  filed.of_same rfl (HostStore.publishedToken_newSurface w.host { d with tag := w.session.types.nextTag })
    fun _ => rfl

/-- The new surface has no token yet, so it is issued one. -/
theorem run_push_forwardedSurface (filed : w.IsFiled)
    (pushed : (Bridge.push (.surface (forwardedSurface w d))).run (halfForwarded w d) = (.value (), w₁))
    (fits : w₁.session.handles.slots.size ≤ HandleStore.slotCapacity) :
    ∃ i t h, w.session.handles.Issues (.surface (forwardedSurface w d)) i t h ∧
      i < HandleStore.slotCapacity ∧ w₁ = (halfForwarded w d).issued (.surface (forwardedSurface w d)) t h := by
  have missing : (halfForwarded w d).liveToken? (.surface (forwardedSurface w d)) = none := by
    rw [liveToken?, publishedToken_forwardedSurface, Option.filter_none]
  have issuing := Bridge.run_push_entry (halfForwarded w d) (.surface (forwardedSurface w d))
  rw [missing] at issuing
  have issued : (Bridge.issueProxy (.surface (forwardedSurface w d))).run (halfForwarded w d) =
      (.value (), w₁) := issuing.symm.trans pushed
  have handles := (Bridge.session_issueProxy (halfForwarded w d) (.surface (forwardedSurface w d))).1
  rw [issued] at handles
  rcases Bridge.run_issueProxy (isFiled_halfForwarded filed d) (.surface (forwardedSurface w d))
    (handles ▸ fits) with ⟨r, refused⟩ | ⟨i, t, h, issues, bound, -, served⟩
  · rw [refused] at issued
    cases issued
  · rw [served] at issued
    exact ⟨i, t, h, issues, bound, (congrArg Prod.snd issued).symm⟩

/-- After the push the surface is assigned, and its forerunner withdrawn. -/
theorem files_withdrawn (w₁ : World) (d : TypeDescriptor) (s : Surface) (previous : Option Surface) :
    World.Files 1 w₁ (withdrawn (announced w₁ d s) previous d.name) := by
  have announced_ : World.Files 0 w₁ (announced w₁ d s) :=
    .of_same rfl rfl (by simp [announced]) (fun _ => rfl) fun _ _ => rfl
  cases previous with
  | none => exact announced_.mono (by decide)
  | some previous => exact announced_.trans (filing.withdraw previous d.name)

theorem publishedToken_recorded (w : World) (d : TypeDescriptor) (t : Token) (s : Surface) :
    ((halfForwarded w d).host.recordToken t (.surface (forwardedSurface w d))).publishedToken s =
      if s.number = w.host.published.size then some t else w.host.publishedToken s := by
  have before := HostStore.publishedToken_newSurface w.host { d with tag := w.session.types.nextTag } s
  have number : (forwardedSurface w d).number = w.host.published.size := rfl
  simp only [HostStore.recordToken, HostStore.publishedToken_setPublishedToken, number, eq_comm]
  rw [halfForwarded, before]

/-- What the push of the new surface does to the stores. -/
structure Pushes (w : World) (d : TypeDescriptor) (t : Token) (w₁ : World) : Prop where
  unissued : w.session.handles.get? t = none
  top : w₁.machine.IsTop (.table w.machine.tables.size)
  carries : w₁.machine.Carries w.machine.tables.size t
  kept : ∀ {a t'}, w.machine.Carries a t' → w₁.machine.Carries a t'
  surfaces : w₁.session.surfaces = w.session.surfaces
  handles : ∀ t', w₁.session.handles.get? t' =
    if t' = t then some (.surface (forwardedSurface w d)) else w.session.handles.get? t'
  published : ∀ s, w₁.host.publishedToken s =
    if s.number = w.host.published.size then some t else w.host.publishedToken s
  made : w.host.published.size < w₁.host.published.size
  global : ∀ name, w₁.machine.global name = w.machine.global name

theorem pushes_issued (whole : w.machine.base ≤ w.machine.height) {i : Nat} {t : Token} {h : HandleStore}
    (issues : w.session.handles.Issues (.surface (forwardedSurface w d)) i t h)
    (bound : i < HandleStore.slotCapacity) :
    Pushes w d t ((halfForwarded w d).issued (.surface (forwardedSurface w d)) t h) := by
  have same : (halfForwarded w d).machine = w.machine := rfl
  -- The surface takes the next number before it is pushed, and recording its token takes none.
  have made : w.host.published.size < (halfForwarded w d).host.published.size := by
    simp [halfForwarded, HostStore.newSurface]
  have recorded := HostStore.size_published_recordToken (halfForwarded w d).host t
    (.surface (forwardedSurface w d))
  obtain ⟨top, carries, kept⟩ :=
    addsProxy_issued (w := halfForwarded w d) whole (.surface (forwardedSurface w d)) t h
  constructor
  · exact issues.get?_before bound rfl
  · exact top
  · exact carries
  · exact kept
  · simp only [issued, halfForwarded, registered]
  · intro t'
    rw [issued, issues.get?_after bound]
  · intro s
    rw [issued, publishedToken_recorded]
  · rw [issued]
    exact Nat.lt_of_lt_of_le made recorded
  · intro name
    have global := global_newProxy whole t (HandleEntry.surface (forwardedSurface w d)).typeName name (-1)
    rw [issued, same, global]

/-- The surface that is withdrawn remembers its token still. -/
theorem Pushes.forerunner {t : Token} (pushes : Pushes w d t w₁) (live : w.HasLiveSurfaces) :
    (w.session.surfaces.get? d.type).bind w₁.host.publishedToken = w.publishedFor? d.type := by
  rw [publishedFor?]
  cases found : w.session.surfaces.get? d.type with
  | none => rfl
  | some previous =>
    have older : previous.number ≠ w.host.published.size := Nat.ne_of_lt (live found).1
    simp [pushes.published, older]

/-- Its token is not the one that was just issued. -/
theorem Pushes.publishedFor?_ne {t : Token} (pushes : Pushes w d t w₁) (live : w.HasLiveSurfaces) :
    w.publishedFor? d.type ≠ some t := by
  intro same
  obtain ⟨previous, found, published⟩ := Option.bind_eq_some_iff.1 same
  obtain ⟨-, t', entry, published', resolved⟩ := live found
  rw [published, Option.some.injEq] at published'
  rw [← published', pushes.unissued] at resolved
  cases resolved

theorem Pushes.withdraws {t : Token} (pushes : Pushes w d t w₁) (filed : w₁.IsFiled)
    (ended : w' = withdrawn (announced w₁ d (forwardedSurface w d)) (w₁.session.surfaces.get? d.type)
      d.name) : (announced w₁ d (forwardedSurface w d)).Withdraws (w.session.surfaces.get? d.type) d.name w' := by
  have whole := (isSteady_setGlobal d.name).staysWhole pushes.top.whole
  have withdraws := Session.withdraws (w := announced w₁ d (forwardedSurface w d)) whole filed.handles
    (w₁.session.surfaces.get? d.type) d.name
  rwa [← ended, pushes.surfaces] at withdraws

theorem Pushes.forwards {t : Token} (pushes : Pushes w d t w₁) (filed : w₁.IsFiled) (live : w.HasLiveSurfaces)
    (ended : w' = withdrawn (announced w₁ d (forwardedSurface w d)) (w₁.session.surfaces.get? d.type)
      d.name) : w.Forwards d t w.machine.tables.size w' := by
  have withdraws := pushes.withdraws filed ended
  have forerunner : (w.session.surfaces.get? d.type).bind
      (announced w₁ d (forwardedSurface w d)).host.publishedToken = w.publishedFor? d.type :=
    pushes.forerunner live
  have other := pushes.publishedFor?_ne live
  have announced_ {a : Nat} {t' : Token} (carries : w₁.machine.Carries a t') : w'.machine.Carries a t' :=
    withdraws.carries (carries.of_table fun b _ => (isSteady_setGlobal d.name).table w₁.machine b)
  constructor
  · rw [withdraws.surfaces, announced, pushes.surfaces]
  · exact pushes.unissued
  · intro t'
    have before : (announced w₁ d (forwardedSurface w d)).session.handles.get? t' = _ := pushes.handles t'
    rw [withdraws.handles, forerunner, before]
    -- What is withdrawn is another token, so the new one stays live.
    by_cases same : t' = t
    · rw [same, if_neg other, if_pos rfl, if_pos rfl]
    · rw [if_neg same, if_neg same]
  · exact announced_ pushes.carries
  · exact fun carries => announced_ (pushes.kept carries)
  · intro s
    rw [withdraws.host]
    exact pushes.published s
  · rw [withdraws.host]
    exact pushes.made
  · intro name
    have assigned := global_setGlobal pushes.top d.name name
    rw [pushes.global] at assigned
    have before : (announced w₁ d (forwardedSurface w d)).machine.global name = _ := assigned
    rw [withdraws.global, before]
    by_cases same : name = d.name
    · rw [if_pos same, if_neg (by simp [same]), if_pos same]
    · simp only [same, ne_eq, not_false_eq_true, and_true, if_false]

theorem pushes_forwardType (filed : w.IsFiled) (whole : w.machine.base ≤ w.machine.height) {s : Surface}
    (forwarded : (forwardType d).run w = (.value s, w')) (scope : w'.InScope) :
    s = forwardedSurface w d ∧ ∃ t w₁, Pushes w d t w₁ ∧ w₁.IsFiled ∧
      w' = withdrawn (announced w₁ d (forwardedSurface w d)) (w₁.session.surfaces.get? d.type) d.name := by
  have files : World.Files 0 w ((forwardType d).run w).2 := filing.forwardType d
  rw [forwarded] at files
  obtain ⟨rfl, w₁, pushed, ended⟩ := forwardType_value_cases (files.inScope scope).isOpen forwarded
  have left : World.Files 1 w₁ w' := ended ▸ files_withdrawn w₁ d _ _
  have scope₁ := left.inScope scope
  have came : World.Files 0 (halfForwarded w d)
      ((Bridge.push (.surface (forwardedSurface w d))).run (halfForwarded w d)).2 :=
    .pushEntry (.surface (forwardedSurface w d))
  rw [pushed] at came
  have filed₁ := (came.files scope₁ (isFiled_halfForwarded filed d)).1
  obtain ⟨i, t, h, issues, bound, rfl⟩ := run_push_forwardedSurface filed pushed scope₁.fits
  exact ⟨rfl, t, _, pushes_issued whole issues bound, filed₁, ended⟩

theorem surfaces_forwardType (filed : w.IsFiled) (whole : w.machine.base ≤ w.machine.height) {s : Surface}
    (forwarded : (forwardType d).run w = (.value s, w')) (scope : w'.InScope) :
    w'.session.surfaces = w.session.surfaces.insert d.type (forwardedSurface w d) := by
  obtain ⟨-, t, w₁, pushes, filed₁, ended⟩ := pushes_forwardType filed whole forwarded scope
  rw [(pushes.withdraws filed₁ ended).surfaces, announced, pushes.surfaces]

/-- A forwarding that succeeds publishes the new surface, and no more of the old one is left. -/
theorem forwards (filed : w.IsFiled) (whole : w.machine.base ≤ w.machine.height) (live : w.HasLiveSurfaces)
    {s : Surface} (forwarded : (forwardType d).run w = (.value s, w')) (scope : w'.InScope) :
    s = forwardedSurface w d ∧ ∃ t a, w.Forwards d t a w' := by
  obtain ⟨same, t, w₁, pushes, filed₁, ended⟩ := pushes_forwardType filed whole forwarded scope
  exact ⟨same, t, _, pushes.forwards filed₁ live ended⟩

end Session

/-! ## Sparing -/

/-- Each type has the surface that it had, and each token that was live is live. -/
structure World.Spares (w w' : World) : Prop where
  surfaces : w'.session.surfaces = w.session.surfaces
  live : ∀ {t entry}, w.session.handles.get? t = some entry → w'.session.handles.get? t = some entry

namespace World

variable {w w₁ w' : World}

namespace Spares

theorem refl : w.Spares w := ⟨rfl, id⟩

theorem trans (first : w.Spares w₁) (second : w₁.Spares w') : w.Spares w' :=
  ⟨second.surfaces.trans first.surfaces, fun live => second.live (first.live live)⟩

theorem pushProxy (t : Token) (typeName : String) : w.Spares ((Bridge.pushProxy t typeName).run w).2 := by
  rcases Bridge.session_pushProxy_cases w t typeName with ⟨same, -⟩ | ⟨r, inserted⟩
  · exact ⟨by rw [same], by rw [same]; exact id⟩
  · exact ⟨by rw [inserted], by rw [inserted]; exact id⟩

theorem issueProxy (filed : w.IsFiled) (entry : HandleEntry)
    (fits : ((Bridge.issueProxy entry).run w).2.session.handles.slots.size ≤ HandleStore.slotCapacity) :
    w.Spares ((Bridge.issueProxy entry).run w).2 := by
  rw [(Bridge.session_issueProxy w entry).1] at fits
  rcases Bridge.run_issueProxy filed entry fits with ⟨r, refused⟩ | ⟨i, t, h, issues, bound, -, served⟩
  · rw [refused]
    exact refl
  · rw [served, issued]
    refine ⟨rfl, fun {t' live} resolved => ?_⟩
    have other : t' ≠ t := by
      intro same
      rw [same, issues.get?_before bound rfl] at resolved
      cases resolved
    simp only [issues.get?_after bound, if_neg other, resolved]

theorem push (filed : w.IsFiled) (v : HostValue)
    (fits : ((Bridge.push v).run w).2.session.handles.slots.size ≤ HandleStore.slotCapacity) :
    w.Spares ((Bridge.push v).run w).2 := by
  have thing (entry : HandleEntry)
      (fits : ((Bridge.push entry.toValue).run w).2.session.handles.slots.size ≤ HandleStore.slotCapacity) :
      w.Spares ((Bridge.push entry.toValue).run w).2 := by
    rw [Bridge.run_push_entry] at fits ⊢
    cases found : w.liveToken? entry with
    | some t => exact pushProxy t entry.typeName
    | none =>
      rw [found] at fits
      exact issueProxy filed entry fits
  cases v with
  | object o => exact thing (.object o) fits
  | surface s => exact thing (.surface s) fits
  | function number =>
    cases held : w.host.functionReference? number <;>
      simp [Bridge.push, Bridge.run_functionReference, held] <;> exact ⟨rfl, id⟩
  | _ => exact ⟨rfl, id⟩

theorem read (i : Int) : w.Spares ((Bridge.read i).run w).2 := by
  rcases Bridge.read_cases w i with unchanged | ⟨j, slot⟩
  · rw [unchanged]
    exact refl
  · rw [Bridge.run_read_function_at slot]
    exact ⟨rfl, id⟩

theorem registerType (isOpen : w.session.isTornDown = false) (d : TypeDescriptor) :
    w.Spares ((Session.registerType d).run w).2 := by
  by_cases admits : w.session.Admits d.type
  · rw [Session.run_registerType isOpen admits]
    exact ⟨rfl, id⟩
  · obtain ⟨r, refused⟩ := Session.run_registerType_of_not_admits isOpen admits
    rw [refused]
    exact refl

end Spares

/-! ### Steps and paths -/

section Paths

variable {bars : Op → World → Prop}

/-- A step that leaves the session in scope spares the surfaces and the handles, unless it is a forwarding
    that succeeds. -/
theorem Step.spares (step : Step bars w w') (filed : w.IsFiled) (isOpen : w.session.isTornDown = false)
    (scope : w'.InScope) : w.Spares w' ∨ ∃ d s, (Session.forwardType d).run w = (.value s, w') := by
  cases step with
  | push v => exact .inl (.push filed v scope.fits)
  | read i => exact .inl (.read i)
  | disposeFunction number =>
    left
    cases held : w.host.functionReference? number with
    | none => simp [Bridge.disposeFunction, Bridge.run_functionReference, held, Spares.refl]
    | some r =>
      rw [Bridge.run_disposeFunction held]
      exact ⟨rfl, id⟩
  | registerType d => exact .inl (.registerType isOpen d)
  | forwardType d =>
    rcases Session.run_forwardType_cases isOpen d with
      ⟨w₁, _, forwarded⟩ | ⟨_, _, r, failed⟩ | ⟨_, r, failed⟩
    · exact .inr ⟨d, _, by rw [forwarded]⟩
    · rw [failed]
      exact .inl ⟨rfl, id⟩
    · rw [failed]
      exact .inl .refl
  | pinChunk =>
    rw [Session.run_pinChunk]
    exact .inl ⟨rfl, id⟩
  | takeChunk =>
    left
    cases held : w.session.chunk with
    | none => simp [Session.takeChunk, held, Spares.refl]
    | some r =>
      rw [Session.run_takeChunk held]
      exact ⟨rfl, id⟩
  -- A session that was torn down is not in scope.
  | teardown =>
    have tornDown := Session.isTornDown_teardown w
    rw [scope.isOpen] at tornDown
    cases tornDown
  | _ => exact .inl ⟨rfl, id⟩

/-- A surface is published that is not among the first ones that were made. -/
def HasLaterSurface (w : World) (n : Nat) : Prop :=
  ∃ type s, w.session.surfaces.get? type = some s ∧ n ≤ s.number

/-- Where a path has not spared the surfaces and the handles, another surface has come. -/
theorem Path.spares (path : Path bars w w') (filed : w.IsFiled) (whole : w.machine.base ≤ w.machine.height)
    (scope : w'.InScope) : w.Spares w' ∨ w'.HasLaterSurface w.host.published.size := by
  induction path with
  | refl => exact .inl .refl
  | @tail w₁ w' before step ih =>
    have files₁ : Files 0 w₁ w' := filing_ignoresMachine.step step
    have scope₁ := files₁.inScope scope
    obtain ⟨filed₁, n, made, -⟩ := (Path.files before).files scope₁ filed
    rcases step.spares filed₁ scope₁.isOpen scope with spares | ⟨d, s, forwarded⟩
    · rcases ih scope₁ with spared | ⟨type, s, found, later⟩
      · exact .inl (spared.trans spares)
      · exact .inr ⟨type, s, by rw [spares.surfaces, found], later⟩
    · -- The host has made no fewer surfaces when it makes this one.
      have later : w.host.published.size ≤ w₁.host.published.size := by omega
      have surfaces := Session.surfaces_forwardType filed₁ (Path.whole before whole) forwarded scope
      exact .inr ⟨d.type, forwardedSurface w₁ d, by rw [surfaces, Dict.get?_insert, if_pos rfl], later⟩

end Paths

end World

end ScriptHost
