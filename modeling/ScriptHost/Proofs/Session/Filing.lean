import ScriptHost.Proofs.Session.Memory
import ScriptHost.Proofs.Session.Turnover
/-!
# The filing of handles

Which tokens are live, what they refer to and what a surface remembers is kept by the session and the host.
The machine has no say in it: code may give up references that the session holds, edit proxies or close the
machine, and the handles are filed as before (`World.IsFiled`).  So what is remembered of a thing holds
along every path that leads to an open session (`World.Path.files`), though the proxies may not.
-/

namespace ScriptHost

open World Machine

/-! ## Changes of the handles -/

namespace World

variable {d e : Int} {w w₁ w' : World} {t : Token}

namespace IsFiled

theorem of_same (filed : w.IsFiled) (handles : w'.session.handles = w.session.handles)
    (published : ∀ s, w'.host.publishedToken s = w.host.publishedToken s)
    (proxied : ∀ t, (w'.session.proxies.get? t).isSome = (w.session.proxies.get? t).isSome) : w'.IsFiled := by
  constructor
  · rw [handles]
    exact filed.handles
  · rw [handles]
    exact ⟨filed.recorded.objects, fun live => (published _).trans (filed.recorded.surfaces live)⟩
  · intro t
    rw [proxied, handles, filed.proxied]

variable {entry : HandleEntry} {h : HandleStore}

theorem issue (filed : w.IsFiled) {i : Nat} (unissued : w.session.handles.Unissued w.host entry)
    (issued : w.session.handles.Issues entry i t h) (bound : i < HandleStore.slotCapacity) (tidy : h.IsTidy)
    (handles : w'.session.handles = h) (host : w'.host = w.host.recordToken t entry)
    (proxied : ∀ t', (w'.session.proxies.get? t').isSome =
      (decide (t' = t) || (w.session.proxies.get? t').isSome)) : w'.IsFiled := by
  constructor
  · rw [handles]
    exact tidy
  · rw [handles, host]
    exact filed.recorded.issue unissued issued
  · intro t'
    rw [proxied, handles, issued.get?_after bound, filed.proxied]
    by_cases same : t' = t <;> simp [same]

theorem release (filed : w.IsFiled) (freed : w.session.handles.Frees t entry h) (tidy : h.IsTidy)
    (handles : w'.session.handles = h) (host : w'.host = w.host)
    (proxies : w'.session.proxies = w.session.proxies.erase t) : w'.IsFiled := by
  constructor
  · rw [handles]
    exact tidy
  · rw [handles, host]
    exact filed.recorded.free freed
  · intro t'
    rw [proxies, handles, NumberedDict.get?_erase, freed.get?_after]
    by_cases same : t' = t
    · simp [same]
    · simp [same, Ne.symm same, filed.proxied]

end IsFiled

/-! ## Filing as a course -/

/-- The handles stay filed, provided the session is in scope at the end, and what was remembered of them
    still is.  For all those that are given up, but for as many as the debt, there is a new surface. -/
structure Files (d : Int) (w w' : World) : Prop where
  inScope : w'.InScope → w.InScope
  files : w'.InScope → w.IsFiled → w'.IsFiled ∧ ∃ n : Nat,
    n + (w.host.published.size : Int) ≤ w'.host.published.size + d ∧
    ∀ {age}, w.session.handles.IsYoung age → age + n < HandleHistory.generationCapacity →
      w.Recollects (age + n) w'

namespace Files

theorem refl : Files 0 w w :=
  ⟨id, fun _ filed => ⟨filed, 0, by simp, fun young _ => .refl young⟩⟩

theorem mono (files : Files d w w') (more : d ≤ e) : Files e w w' := by
  refine ⟨files.inScope, fun scope filed => ?_⟩
  obtain ⟨filed', n, paid, recollects⟩ := files.files scope filed
  exact ⟨filed', n, by omega, recollects⟩

theorem trans (first : Files d w w₁) (second : Files e w₁ w') : Files (d + e) w w' := by
  refine ⟨fun scope => first.inScope (second.inScope scope), fun scope filed => ?_⟩
  obtain ⟨filed₁, n, paid, before⟩ := first.files (second.inScope scope) filed
  obtain ⟨filed', n', paid', after⟩ := second.files scope filed₁
  refine ⟨filed', n + n', by omega, fun {age} young room => ?_⟩
  have recollects := before young (by omega)
  rw [← Nat.add_assoc] at room ⊢
  exact recollects.trans (after recollects.young room)

/-- A change of other things than the handles. -/
theorem of_same (handles : w'.session.handles = w.session.handles)
    (isTornDown : w'.session.isTornDown = w.session.isTornDown)
    (made : (w.host.published.size : Int) ≤ w'.host.published.size + d)
    (published : ∀ s, w'.host.publishedToken s = w.host.publishedToken s)
    (proxied : w.IsFiled → ∀ t,
      (w'.session.proxies.get? t).isSome = (w.session.proxies.get? t).isSome) : Files d w w' := by
  refine ⟨fun scope => ⟨isTornDown ▸ scope.isOpen, handles ▸ scope.fits⟩, fun _ filed => ?_⟩
  refine ⟨filed.of_same handles published (proxied filed), 0, by simpa using made, fun young _ => ?_⟩
  exact .of_same young handles published

theorem of_machine (m : Machine) : Files 0 w { w with machine := m } :=
  .of_same rfl rfl (by simp) (fun _ => rfl) fun _ _ => rfl

/-- A change of the host that the surfaces do not take part in. -/
theorem of_host {host : HostStore} (made : (w.host.published.size : Int) ≤ host.published.size + d)
    (published : ∀ s, host.publishedToken s = w.host.publishedToken s) : Files d w { w with host := host } :=
  .of_same rfl rfl made published fun _ _ => rfl

/-- A change of the session beside its stores. -/
theorem of_session {s : Session} (handles : s.handles = w.session.handles)
    (proxies : s.proxies = w.session.proxies) (isTornDown : s.isTornDown = w.session.isTornDown) :
    Files 0 w { w with session := s } :=
  .of_same handles isTornDown (by simp) (fun _ => rfl) fun _ _ => by rw [proxies]

theorem newSurface (d : TypeDescriptor) : Files (-1) w { w with host := (w.host.newSurface d).2 } := by
  have made : (w.host.newSurface d).2.published.size = w.host.published.size + 1 := Array.size_push _
  exact .of_host (by omega) (HostStore.publishedToken_newSurface w.host d)

theorem readFunction {i j : Int} (slot : w.machine.readSlot (w.machine.absIndex i) = .function (.slot j)) :
    Files 0 w ((Bridge.read i).run w).2 := by
  rw [Bridge.run_read_function_at slot]
  exact .of_same rfl rfl (by simp [HostStore.newFunction]) (fun _ => rfl) fun _ _ => rfl

/-- The proxy of a live token is pushed, perhaps as a new one. -/
theorem pushProxy {live : HandleEntry} (resolved : w.session.handles.get? t = some live)
    (typeName : String) : Files 0 w ((Bridge.pushProxy t typeName).run w).2 := by
  obtain ⟨handles, isTornDown⟩ := Bridge.session_pushProxy w t typeName
  have host := Bridge.host_pushProxy w t typeName
  refine .of_same handles isTornDown ?_ ?_ ?_
  · rw [host]
    simp
  · intro s
    rw [host]
  · intro filed t'
    have proxied := filed.proxied t
    rw [resolved] at proxied
    rw [Bridge.isSome_proxies_pushProxy]
    by_cases same : t' = t
    · simp [same, proxied]
    · simp [same]

theorem issueProxy {entry : HandleEntry} (missing : w.liveToken? entry = none) :
    Files 0 w ((Bridge.issueProxy entry).run w).2 := by
  obtain ⟨handles, isTornDown⟩ := Bridge.session_issueProxy w entry
  refine ⟨fun scope => ⟨isTornDown ▸ scope.isOpen, ?_⟩, fun scope filed => ?_⟩
  · have fits := scope.fits
    rw [handles] at fits
    exact Nat.le_trans (HandleStore.size_slots_alloc w.session.handles entry entry.tag) fits
  · rcases Bridge.run_issueProxy filed entry (handles ▸ scope.fits) with
      ⟨e, refused⟩ | ⟨i, t, h, issues, bound, tidy, served⟩
    · rw [refused]
      exact ⟨filed, 0, by simp, fun young _ => .refl young⟩
    · rw [served]
      have made := HostStore.size_published_recordToken w.host t entry
      refine ⟨?_, 0, by simpa [issued] using made, fun young _ => .issue young issues bound fun _ => rfl⟩
      refine filed.issue (unissued_of_liveToken? missing) issues bound tidy rfl rfl fun t' => ?_
      rw [issued, NumberedDict.get?_insert]
      by_cases same : t' = t
      · simp [same]
      · simp [same, Ne.symm same]

theorem pushEntry (entry : HandleEntry) : Files 0 w ((Bridge.push entry.toValue).run w).2 := by
  rw [Bridge.run_push_entry]
  cases found : w.liveToken? entry with
  | some t =>
    obtain ⟨live, resolved⟩ := get?_of_liveToken? found
    exact pushProxy resolved entry.typeName
  | none => exact issueProxy found

theorem releaseToken (t : Token) : Files 1 w ((Session.releaseToken t).run w).2 := by
  rw [Session.run_releaseToken]
  refine ⟨fun scope => ⟨scope.isOpen, ?_⟩, fun _ filed => ?_⟩
  · exact HandleStore.size_slots_release w.session.handles t ▸ scope.fits
  · rcases HandleStore.release_cases filed.handles t with ⟨dead, refused⟩ | ⟨entry, h, served, freed, tidy⟩
    · rw [refused]
      have proxied := filed.proxied t
      rw [dead] at proxied
      refine ⟨filed.of_same rfl (fun _ => rfl) fun t' => ?_, 0,
        Int.le_add_one (Int.le_of_eq (Int.zero_add _)), fun young _ => ?_⟩
      · -- Erasing what is not there changes nothing.
        rw [NumberedDict.get?_erase]
        by_cases same : t = t'
        · rw [if_pos same, ← same, proxied]
          rfl
        · rw [if_neg same]
      · exact .of_same young rfl fun _ => rfl
    · rw [served]
      refine ⟨filed.release freed tidy rfl rfl rfl, 1, by simp [Int.add_comm], fun young room => ?_⟩
      exact .release young freed room fun _ => rfl

end Files

/-- Filing is a course. -/
def filing : Course where
  Leads := Files
  refl _ := .refl
  mono := Files.mono
  trans := Files.trans
  tame _ _ := .of_machine _
  session _ _ handles proxies _ _ isTornDown := .of_session handles proxies isTornDown
  newSurface d _ := .newSurface d
  pushEntry entry _ := .pushEntry entry
  readFunction := .readFunction
  releaseToken t _ := .releaseToken t

/-! ### Paths -/

section Paths

variable {bars : Op → World → Prop}

theorem filing_ignoresMachine : filing.IgnoresMachine where
  same handles proxies isTornDown made published :=
    .of_same handles isTornDown (by simpa using made) published fun _ _ => by rw [proxies]
  teardown w := by
    -- The session is not in scope then.
    have tornDown := Session.isTornDown_teardown w
    constructor <;> intro scope <;> rw [scope.isOpen] at tornDown <;> cases tornDown

/-- Whatever happens on a path, the handles stay filed. -/
theorem Path.files (path : Path bars w w') : Files 0 w w' := filing_ignoresMachine.path path

end Paths

/-! ## Sessions -/

section Sessions

variable {bars : Op → World → Prop} {options : SessionOptions} {m : Machine} {host : HostStore}

theorem isFiled_openSession (options : SessionOptions) (m : Machine) (host : HostStore) :
    (openSession options m host).IsFiled :=
  ⟨HandleStore.isTidy_empty _, ⟨nofun, nofun⟩, fun _ => rfl⟩

theorem Path.isFiled (path : Path bars (openSession options m host) w) (scope : w.InScope) : w.IsFiled :=
  (path.files.files scope (isFiled_openSession options m host)).1

/-- A surface that was not published before the session was opened has been published as itself, if at
    all. -/
theorem Path.recollects (path : Path bars (openSession options m host) w) (scope : w.InScope)
    (few : w.host.published.size < host.published.size + HandleHistory.generationCapacity) :
    ∃ n, n + host.published.size ≤ w.host.published.size ∧ w.session.handles.IsYoung n ∧
      ∀ s, host.publishedToken s = none → w.Recalls s := by
  obtain ⟨-, n, paid, recollects⟩ := path.files.files scope (isFiled_openSession options m host)
  have same : (openSession options m host).host = host := rfl
  rw [same] at paid
  have recollected := recollects (HandleStore.isYoung_empty options.maxHandles) (by omega)
  rw [Nat.zero_add] at recollected
  refine ⟨n, by omega, recollected.young, fun s unpublished => recollected.recalls fun t published => ?_⟩
  rw [same, unpublished] at published
  cases published

end Sessions

end World

end ScriptHost
