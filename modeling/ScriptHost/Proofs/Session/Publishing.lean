import Mathlib.Data.List.Dedup
import ScriptHost.Proofs.Session.Replacing
import ScriptHost.Proofs.Session.RoundTrip
/-!
# Published types

A type is forwarded any number of times, under one name or under several, and between the forwardings the
host and its scripts do what they like, so long as they leave the names alone and push no surface that has
been replaced.  `World.Publishes` is such a history.

What a session has published at the end of one is what the history says (`World.IsPublished`): each type
has its newest surface, which can be read under its name and has the only live handle that a surface of the
type has, and nothing leads to the earlier ones any more.  `World.Succession` is the invariant behind
this; forwarding keeps it by what `World.Forwards` says, and everything else because it spares the surfaces
that there are.
-/

namespace ScriptHost

open World Machine
open Session (forwardedSurface)

/-! ## Histories -/

/-- The newest of the surfaces that is of the type. -/
def newestOf (past : List Surface) (type : RecordType) : Option Surface :=
  past.find? fun s => s.descriptor.type = type

theorem exists_newestOf {past : List Surface} {s : Surface} (member : s ∈ past) :
    ∃ newest, newestOf past s.descriptor.type = some newest :=
  Option.isSome_iff_exists.1 (List.find?_isSome.2 ⟨s, member, decide_eq_true rfl⟩)

/-- The surface is the one that the session has published for its type. -/
def World.IsCurrent (w : World) (s : Surface) : Prop :=
  w.session.surfaces.get? s.descriptor.type = some s

/-- Something has run that has forwarded no type, has left the published names and the proxies under them
    alone, and has pushed no surface but the current ones. -/
structure World.Idles (start : World) (past : List Surface) (w w' : World) : Prop where
  path : Evolves w w'
  surfaces : w'.session.surfaces = w.session.surfaces
  names : ∀ s ∈ past, w'.machine.global s.typeName = w.machine.global s.typeName
  proxies : ∀ s a t, w.IsCurrent s → w.machine.global s.typeName = .table a → w.machine.Carries a t →
    w'.machine.Carries a t
  /-- A surface remembers the token under which it was last pushed. -/
  unpushed : ∀ s, ¬ w.IsCurrent s → w'.host.publishedToken s = w.host.publishedToken s
  /-- The surfaces that other sessions have published before this one was opened have no handles here. -/
  own : ∀ t s, w'.session.handles.get? t = some (.surface s) → start.host.publishedToken s = none

/-- The surfaces were forwarded, the newest one last, on the way from the first world to the second. -/
inductive World.Publishes (start : World) : List Surface → World → Prop where
  | start : Publishes start [] start
  | idle {past : List Surface} {w w' : World} (publishes : Publishes start past w)
      (idles : start.Idles past w w') : Publishes start past w'
  /-- No other type is published under the name at the time. -/
  | forward {past : List Surface} {w w' : World} {d : TypeDescriptor} {s : Surface}
      (publishes : Publishes start past w) (forwarded : (Session.forwardType d).run w = (.value s, w'))
      (free : ∀ type s', w.session.surfaces.get? type = some s' → s'.typeName = d.name → type = d.type) :
      Publishes start (s :: past) w'

theorem World.evolves_forwardType {w w' : World} {d : TypeDescriptor} {s : Surface}
    (forwarded : (Session.forwardType d).run w = (.value s, w')) : Evolves w w' := by
  have step : Step (fun _ _ => False) w ((Session.forwardType d).run w).2 := .forwardType d
  rw [forwarded] at step
  exact .single step

/-- The way from the first world to the second. -/
theorem World.Publishes.evolves {start w : World} {past : List Surface} (publishes : start.Publishes past w) :
    Evolves start w := by
  induction publishes with
  | start => exact .refl
  | idle _ idles ih => exact ih.trans idles.path
  | forward _ forwarded _ ih => exact ih.trans (evolves_forwardType forwarded)

/-! ## The invariant -/

/-- The surface has a live token, and a table that carries it is the global of the surface's name. -/
def World.Shows (w : World) (s : Surface) : Prop :=
  ∃ t a, w.host.publishedToken s = some t ∧ w.session.handles.get? t = some (.surface s) ∧
    w.machine.Carries a t ∧ w.machine.global s.typeName = .table a

/-- The slot of the surface's token has moved on. -/
def World.HasRetired (w : World) (s : Surface) : Prop :=
  ∃ t, w.host.publishedToken s = some t ∧ w.session.handles.IsPast t

/-- Where a history has led. -/
structure World.Succession (past : List Surface) (w : World) : Prop where
  newest : ∀ type, w.session.surfaces.get? type = newestOf past type
  numbered : ∀ s ∈ past, s.number < w.host.published.size
  distinct : (past.map Surface.number).Nodup
  shown : ∀ s, w.IsCurrent s → w.Shows s
  retired : ∀ s ∈ past, ¬ w.IsCurrent s → w.HasRetired s
  /-- No other surface has a handle. -/
  only : ∀ t s, w.session.handles.get? t = some (.surface s) → w.IsCurrent s
  apart : ∀ s s', w.IsCurrent s → w.IsCurrent s' → s.typeName = s'.typeName →
    s.descriptor.type = s'.descriptor.type
  vacant : ∀ s ∈ past, (∀ s', w.IsCurrent s' → s'.typeName ≠ s.typeName) →
    w.machine.global s.typeName = .nil

namespace World

variable {w w' : World} {past : List Surface}

namespace Succession

variable (succession : w.Succession past)

include succession

theorem isCurrent_of_get? {type : RecordType} {s : Surface}
    (found : w.session.surfaces.get? type = some s) : s ∈ past ∧ s.descriptor.type = type ∧ w.IsCurrent s := by
  have newest := succession.newest type
  rw [found] at newest
  have type_eq : s.descriptor.type = type := by simpa using List.find?_some newest.symm
  exact ⟨List.mem_of_find?_eq_some newest.symm, type_eq, by rw [IsCurrent, type_eq, found]⟩

theorem isCurrent_iff {s : Surface} : w.IsCurrent s ↔ newestOf past s.descriptor.type = some s := by
  rw [IsCurrent, succession.newest]

theorem hasLiveSurfaces : w.HasLiveSurfaces := by
  intro type s found
  obtain ⟨member, -, current⟩ := succession.isCurrent_of_get? found
  obtain ⟨t, a, published, live, -, -⟩ := succession.shown s current
  exact ⟨succession.numbered s member, t, _, published, live⟩

end Succession

/-- A new session has published nothing. -/
theorem succession_openSession (options : SessionOptions) (m : Machine) (host : HostStore) :
    (openSession options m host).Succession [] := by
  have none_found (type : RecordType) : (openSession options m host).session.surfaces.get? type = none := rfl
  have none_live (t : Token) : (openSession options m host).session.handles.get? t = none := rfl
  have none_current (s : Surface) : ¬ (openSession options m host).IsCurrent s := by
    intro current
    rw [IsCurrent, none_found] at current
    cases current
  constructor
  · intro type
    exact none_found type
  · simp
  · simp
  · intro s current
    exact absurd current (none_current s)
  · simp
  · intro t s live
    rw [none_live] at live
    cases live
  · intro s s' current
    exact absurd current (none_current s)
  · simp

/-- What lasts from a point of a session to a later one. -/
structure Lasts (w w' : World) : Prop where
  whole : w.machine.base ≤ w.machine.height
  filed : w.IsFiled
  filed' : w'.IsFiled
  inScope : w'.InScope
  made : w.host.published.size ≤ w'.host.published.size
  precedes : w.session.handles.Precedes w'.session.handles

theorem Path.lasts {options : SessionOptions} {m : Machine} {host : HostStore} (whole : m.base ≤ m.height)
    (passed : Evolves (openSession options m host) w) (path : Evolves w w') (scope : w'.InScope)
    (few : w'.host.published.size < host.published.size + HandleHistory.generationCapacity) : w.Lasts w' := by
  have files := Path.files path
  have scope₀ := files.inScope scope
  have filed := Path.isFiled passed scope₀
  obtain ⟨filed', k, paid, recollects⟩ := files.files scope filed
  obtain ⟨n, paid₀, young, -⟩ := Path.recollects passed scope₀ (by omega)
  have precedes := (recollects young (by omega)).precedes
  exact ⟨Path.whole passed (whole_openSession whole options host), filed, filed', scope, by omega, precedes⟩

/-! ### Between forwardings -/

namespace Succession

variable {start : World}

/-- As nothing is forwarded, the surfaces keep their handles. -/
theorem spares (succession : w.Succession past) (idles : start.Idles past w w') (lasts : w.Lasts w') :
    w.Spares w' := by
  rcases idles.path.spares lasts.filed lasts.whole lasts.inScope with spares | ⟨type, s, found, later⟩
  · exact spares
  · rw [idles.surfaces] at found
    obtain ⟨member, -, -⟩ := succession.isCurrent_of_get? found
    have earlier := succession.numbered s member
    omega

/-- No surface that is not current has got a handle. -/
theorem isCurrent_of_live (succession : w.Succession past) (idles : start.Idles past w w')
    (lasts : w.Lasts w') (recalls : ∀ s, start.host.publishedToken s = none → w.Recalls s) {t : Token}
    {s : Surface} (live : w'.session.handles.get? t = some (.surface s)) : w.IsCurrent s := by
  apply Classical.byContradiction
  intro replaced
  -- It was not pushed, so it was the token's surface before.
  have published := lasts.filed'.recorded.surfaces live
  rw [idles.unpushed s replaced] at published
  obtain ⟨entry, -, keeps⟩ := recalls s (idles.own t s live) t published
  rcases keeps with before | past
  · rcases lasts.precedes.keeps before with after | past
    · rw [live, Option.some.injEq] at after
      exact replaced (succession.only t s (after ▸ before))
    · rw [past.get?_eq_none] at live
      cases live
  · rw [(lasts.precedes.past past).get?_eq_none] at live
    cases live

theorem idle (succession : w.Succession past) (idles : start.Idles past w w') (lasts : w.Lasts w')
    (recalls : ∀ s, start.host.publishedToken s = none → w.Recalls s) : w'.Succession past := by
  have spares := succession.spares idles lasts
  -- The surfaces of the session are as they were, and so is which of them are current.
  have current (s : Surface) : w'.IsCurrent s ↔ w.IsCurrent s := by
    rw [IsCurrent, idles.surfaces, IsCurrent]
  constructor
  · intro type
    rw [idles.surfaces, succession.newest]
  · intro s member
    exact Nat.lt_of_lt_of_le (succession.numbered s member) lasts.made
  · exact succession.distinct
  · intro s isCurrent
    rw [current] at isCurrent
    obtain ⟨member, -, -⟩ := succession.isCurrent_of_get? isCurrent
    obtain ⟨t, a, -, live, carries, global⟩ := succession.shown s isCurrent
    have live' := spares.live live
    exact ⟨t, a, lasts.filed'.recorded.surfaces live', live', idles.proxies s a t isCurrent global carries,
      (idles.names s member).trans global⟩
  · intro s member replaced
    rw [current] at replaced
    obtain ⟨t, published, past⟩ := succession.retired s member replaced
    exact ⟨t, (idles.unpushed s replaced).trans published, lasts.precedes.past past⟩
  · intro t s live
    rw [current]
    exact succession.isCurrent_of_live idles lasts recalls live
  · intro s s' isCurrent isCurrent'
    rw [current] at isCurrent isCurrent'
    exact succession.apart s s' isCurrent isCurrent'
  · intro s member vacant
    rw [idles.names s member]
    apply succession.vacant s member
    intro s' isCurrent
    exact vacant s' ((current s').2 isCurrent)

/-! ### At a forwarding -/

section Forwarding

variable {d : TypeDescriptor} {t : Token} {a : Nat}

/-- The new surface is current, and so are the current ones of other types. -/
theorem isCurrent_forwarded (forwards : w.Forwards d t a w') {s : Surface} :
    w'.IsCurrent s ↔ s = forwardedSurface w d ∨ (s.descriptor.type ≠ d.type ∧ w.IsCurrent s) := by
  have type_new : (forwardedSurface w d).descriptor.type = d.type := rfl
  rw [IsCurrent, forwards.surfaces, Dict.get?_insert, IsCurrent]
  by_cases same : d.type = s.descriptor.type
  · simp [same, eq_comm]
  · have other : s ≠ forwardedSurface w d := by
      intro new
      rw [new, type_new] at same
      exact same rfl
    simp [same, other, Ne.symm same]

/-- The new surface is shown. -/
theorem shows_forwardedSurface (forwards : w.Forwards d t a w') : w'.Shows (forwardedSurface w d) := by
  have number : (forwardedSurface w d).number = w.host.published.size := rfl
  have name : (forwardedSurface w d).typeName = d.name := rfl
  refine ⟨t, a, ?_, ?_, forwards.carries, ?_⟩
  · rw [forwards.published, if_pos number]
  · rw [forwards.handles, if_pos rfl]
  · rw [forwards.global, if_pos name]

variable (succession : w.Succession past) (forwards : w.Forwards d t a w')

include succession forwards

/-- Earlier surfaces remember what they did. -/
theorem publishedToken_forwarded {s : Surface} (member : s ∈ past) :
    w'.host.publishedToken s = w.host.publishedToken s := by
  have older := succession.numbered s member
  rw [forwards.published, if_neg (Nat.ne_of_lt older)]

/-- The global of a name that neither the new surface has nor its forerunner had. -/
theorem global_forwarded {name : String} (new : name ≠ d.name)
    (old : ∀ s, w.IsCurrent s → s.descriptor.type = d.type → s.typeName ≠ name) :
    w'.machine.global name = w.machine.global name := by
  have kept : (w.session.surfaces.get? d.type).map Surface.typeName ≠ some name := by
    intro found
    obtain ⟨previous, published, named⟩ := Option.map_eq_some_iff.1 found
    obtain ⟨-, type_eq, isCurrent⟩ := succession.isCurrent_of_get? published
    exact old previous isCurrent type_eq named
  rw [forwards.global, if_neg new, if_neg kept]

omit forwards in
theorem distinct_forwarded (d : TypeDescriptor) : ((forwardedSurface w d :: past).map Surface.number).Nodup := by
  have number : (forwardedSurface w d).number = w.host.published.size := rfl
  rw [List.map_cons, List.nodup_cons]
  refine ⟨fun again => ?_, succession.distinct⟩
  obtain ⟨s, member, same⟩ := List.mem_map.1 again
  have older := succession.numbered s member
  rw [same, number] at older
  exact Nat.lt_irrefl _ older

/-- A name that was left now, or had been left before, and that nobody has taken since. -/
theorem vacant_forwarded {s : Surface} (member : s ∈ past)
    (vacant : ∀ s', w'.IsCurrent s' → s'.typeName ≠ s.typeName) : w'.machine.global s.typeName = .nil := by
  have new : s.typeName ≠ d.name := Ne.symm (vacant _ ((isCurrent_forwarded forwards).2 (.inl rfl)))
  rw [forwards.global, if_neg new]
  by_cases left : (w.session.surfaces.get? d.type).map Surface.typeName = some s.typeName
  · rw [if_pos left]
  · rw [if_neg left]
    apply succession.vacant s member
    intro s' isCurrent named
    by_cases previous : s'.descriptor.type = d.type
    · rw [IsCurrent, previous] at isCurrent
      rw [isCurrent, Option.map_some, named] at left
      exact left rfl
    · exact vacant s' ((isCurrent_forwarded forwards).2 (.inr ⟨previous, isCurrent⟩)) named

variable (filed : w.IsFiled)

include filed

omit forwards in
/-- Of the tokens of surfaces, the one that is given up is that of the type's earlier surface. -/
theorem publishedFor?_iff {t' : Token} {s : Surface}
    (live : w.session.handles.get? t' = some (.surface s)) (type : RecordType) :
    w.publishedFor? type = some t' ↔ s.descriptor.type = type := by
  constructor
  · intro found
    obtain ⟨previous, published, remembered⟩ := Option.bind_eq_some_iff.1 found
    obtain ⟨-, type_eq, isCurrent⟩ := succession.isCurrent_of_get? published
    obtain ⟨t₀, -, remembered₀, live₀, -, -⟩ := succession.shown previous isCurrent
    rw [remembered, Option.some.injEq] at remembered₀
    rw [← remembered₀, live, Option.some.injEq, HandleEntry.surface.injEq] at live₀
    rw [live₀, type_eq]
  · intro type_eq
    have isCurrent := succession.only t' s live
    rw [IsCurrent, type_eq] at isCurrent
    rw [publishedFor?, isCurrent, Option.bind_some]
    exact filed.recorded.surfaces live

/-- Of the surfaces that have tokens, only the type's earlier one has lost its own. -/
theorem get?_forwarded {t' : Token} {s : Surface} (live : w.session.handles.get? t' = some (.surface s)) :
    w'.session.handles.get? t' = if s.descriptor.type = d.type then none else some (.surface s) := by
  have different : t' ≠ t := by
    intro same
    rw [same, forwards.unissued] at live
    cases live
  simp only [forwards.handles, if_neg different, succession.publishedFor?_iff filed live, live]

theorem only_forwarded {t' : Token} {s : Surface} (live : w'.session.handles.get? t' = some (.surface s)) :
    w'.IsCurrent s := by
  rw [isCurrent_forwarded forwards]
  by_cases new : t' = t
  · rw [new, forwards.handles, if_pos rfl, Option.some.injEq, HandleEntry.surface.injEq] at live
    exact .inl live.symm
  · have before : w.session.handles.get? t' = some (.surface s) := by
      rw [forwards.handles, if_neg new] at live
      split at live
      · cases live
      · exact live
    refine .inr ⟨fun previous => ?_, succession.only t' s before⟩
    rw [succession.get?_forwarded forwards filed before, if_pos previous] at live
    cases live

/-- The surfaces of the other types are shown as before. -/
theorem shows_forwarded {s : Surface} (isCurrent : w.IsCurrent s) (other : s.descriptor.type ≠ d.type)
    (free : s.typeName ≠ d.name) : w'.Shows s := by
  obtain ⟨member, -, -⟩ := succession.isCurrent_of_get? isCurrent
  obtain ⟨t', a', published, live, carries, global⟩ := succession.shown s isCurrent
  refine ⟨t', a', ?_, ?_, forwards.kept carries, ?_⟩
  · rw [succession.publishedToken_forwarded forwards member, published]
  · rw [succession.get?_forwarded forwards filed live, if_neg other]
  · rw [succession.global_forwarded forwards free, global]
    intro s' isCurrent' type_eq named
    exact other ((succession.apart s s' isCurrent isCurrent' named.symm).trans type_eq)

theorem hasRetired_forwarded (precedes : w.session.handles.Precedes w'.session.handles) {s : Surface}
    (member : s ∈ past) (replaced : ¬ w'.IsCurrent s) : w'.HasRetired s := by
  have published_eq := succession.publishedToken_forwarded forwards member
  rw [isCurrent_forwarded forwards, not_or] at replaced
  by_cases before : w.IsCurrent s
  · have previous : s.descriptor.type = d.type := by
      apply Classical.byContradiction
      exact fun other => replaced.2 ⟨other, before⟩
    obtain ⟨t', -, published, live, -, -⟩ := succession.shown s before
    refine ⟨t', published_eq.trans published, ?_⟩
    -- It was live, and is not any more.
    rcases precedes.keeps live with still | past
    · rw [succession.get?_forwarded forwards filed live, if_pos previous] at still
      cases still
    · exact past
  · obtain ⟨t', published, past⟩ := succession.retired s member before
    exact ⟨t', published_eq.trans published, precedes.past past⟩

omit filed

theorem forward (lasts : w.Lasts w')
    (free : ∀ s, w.IsCurrent s → s.typeName = d.name → s.descriptor.type = d.type) :
    w'.Succession (forwardedSurface w d :: past) := by
  have name_new : (forwardedSurface w d).typeName = d.name := rfl
  have type_new : (forwardedSurface w d).descriptor.type = d.type := rfl
  -- Current are the new surface and those of other types; each field is checked for either kind.
  have current {s : Surface} := isCurrent_forwarded forwards (s := s)
  have isNew : w'.IsCurrent (forwardedSurface w d) := current.2 (.inl rfl)
  constructor
  · intro type
    rw [forwards.surfaces, Dict.get?_insert, newestOf, List.find?_cons, type_new, succession.newest, newestOf]
    by_cases same : d.type = type <;> simp [same]
  · intro s member
    rcases List.mem_cons.1 member with rfl | member
    · exact forwards.made
    · exact Nat.lt_of_lt_of_le (succession.numbered s member) lasts.made
  · exact succession.distinct_forwarded d
  · intro s isCurrent
    rcases current.1 isCurrent with rfl | ⟨other, isCurrent⟩
    · exact shows_forwardedSurface forwards
    · exact succession.shows_forwarded forwards lasts.filed isCurrent other fun named =>
        other (free s isCurrent named)
  · intro s member replaced
    rcases List.mem_cons.1 member with rfl | member
    · exact absurd isNew replaced
    · exact succession.hasRetired_forwarded forwards lasts.filed lasts.precedes member replaced
  · intro t' s live
    exact succession.only_forwarded forwards lasts.filed live
  · intro s s' isCurrent isCurrent' named
    rcases current.1 isCurrent with rfl | ⟨other, isCurrent⟩
    · rcases current.1 isCurrent' with rfl | ⟨other', isCurrent'⟩
      · rfl
      · exact (free s' isCurrent' (named.symm.trans name_new)).symm
    · rcases current.1 isCurrent' with rfl | ⟨other', isCurrent'⟩
      · exact free s isCurrent (named.trans name_new)
      · exact succession.apart s s' isCurrent isCurrent' named
  · intro s member vacant
    rcases List.mem_cons.1 member with rfl | member
    · exact absurd rfl (vacant _ isNew)
    · exact succession.vacant_forwarded forwards member vacant

end Forwarding

end Succession

/-- Wherever a history has led, its invariant holds. -/
theorem Publishes.succession {options : SessionOptions} {m : Machine} {host : HostStore}
    (whole : m.base ≤ m.height) (publishes : (openSession options m host).Publishes past w)
    (scope : w.InScope)
    (few : w.host.published.size < host.published.size + HandleHistory.generationCapacity) :
    w.Succession past := by
  induction publishes with
  | start => exact succession_openSession options m host
  | @idle past w w' before idles ih =>
    have lasts := Path.lasts whole before.evolves idles.path scope few
    have scope₀ := (Path.files idles.path).inScope scope
    have few₀ := Nat.lt_of_le_of_lt lasts.made few
    obtain ⟨-, -, -, recalls⟩ := Path.recollects before.evolves scope₀ few₀
    exact (ih scope₀ few₀).idle idles lasts recalls
  | @forward past w w' d s before forwarded free ih =>
    have path := evolves_forwardType forwarded
    have lasts := Path.lasts whole before.evolves path scope few
    have succession := ih ((Path.files path).inScope scope) (Nat.lt_of_le_of_lt lasts.made few)
    obtain ⟨rfl, t, a, forwards⟩ :=
      Session.forwards lasts.filed lasts.whole succession.hasLiveSurfaces forwarded scope
    exact succession.forward forwards lasts fun s isCurrent => free _ s isCurrent

end World

/-! ## What is published -/

/-- The number of the live handles of surfaces. -/
def HandleStore.surfaceCount (h : HandleStore) : Nat :=
  h.slots.countP fun s => (s.entry.bind HandleEntry.surface?).isSome

/-- The type of the surface in a slot, if there is one. -/
def HandleStore.surfaceTypeAt? (h : HandleStore) (i : Nat) : Option RecordType :=
  ((h.entryAt i).bind HandleEntry.surface?).map (·.descriptor.type)

theorem HandleStore.surfaceTypeAt?_eq_some {h : HandleStore} {i : Nat} {type : RecordType} :
    h.surfaceTypeAt? i = some type ↔
      ∃ s, h.entryAt i = some (.surface s) ∧ s.descriptor.type = type := by
  rw [surfaceTypeAt?]
  cases h.entryAt i with
  | none => simp
  | some entry => cases entry <;> simp [HandleEntry.surface?]

/-- The types of the surfaces in the slots. -/
def HandleStore.surfaceTypes (h : HandleStore) : List RecordType :=
  (List.range h.slots.size).filterMap h.surfaceTypeAt?

theorem HandleStore.surfaceCount_eq (h : HandleStore) : h.surfaceCount = h.surfaceTypes.length := by
  rw [surfaceCount, countP_eq_countP_range, surfaceTypes, List.length_filterMap_eq_countP]
  congr 1
  funext i
  rw [surfaceTypeAt?, entryAt, Option.isSome_map]
  cases h.slots[i]? <;> rfl

theorem HandleStore.lt_size_of_entryAt {h : HandleStore} {i : Nat} {entry : HandleEntry}
    (filled : h.entryAt i = some entry) : i < h.slots.size := by
  obtain ⟨s, found, -⟩ := Option.bind_eq_some_iff.1 filled
  exact (Array.getElem?_eq_some_iff.1 found).1

namespace World.Succession

variable {w : World} {past : List Surface} (succession : w.Succession past) (filed : w.IsFiled)
  (fits : w.session.handles.slots.size ≤ HandleStore.slotCapacity)

include succession fits

/-- A surface that a slot holds is current. -/
theorem isCurrent_of_entryAt {i : Nat} {s : Surface} (filled : w.session.handles.entryAt i = some (.surface s)) :
    w.session.handles.get? (w.session.handles.tokenAt i) = some (.surface s) ∧ w.IsCurrent s := by
  have inside := Nat.lt_of_lt_of_le (HandleStore.lt_size_of_entryAt filled) fits
  have live := HandleStore.get?_tokenAt inside filled
  exact ⟨live, succession.only _ s live⟩

include filed in
theorem nodup_surfaceTypes : w.session.handles.surfaceTypes.Nodup := by
  apply List.Nodup.filterMap _ List.nodup_range
  intro i j type first second
  obtain ⟨s, filled, same⟩ := HandleStore.surfaceTypeAt?_eq_some.1 first
  obtain ⟨s', filled', same'⟩ := HandleStore.surfaceTypeAt?_eq_some.1 second
  obtain ⟨live, current⟩ := succession.isCurrent_of_entryAt fits filled
  obtain ⟨live', current'⟩ := succession.isCurrent_of_entryAt fits filled'
  -- The two are the type's current surface, which has one token.
  rw [IsCurrent, same] at current
  rw [IsCurrent, same', current, Option.some.injEq] at current'
  have token := filed.recorded.surfaces live
  rw [current', filed.recorded.surfaces live', Option.some.injEq] at token
  have inside := Nat.lt_of_lt_of_le (HandleStore.lt_size_of_entryAt filled) fits
  have inside' := Nat.lt_of_lt_of_le (HandleStore.lt_size_of_entryAt filled') fits
  rw [← w.session.handles.slot_tokenAt inside, ← token, w.session.handles.slot_tokenAt inside']

theorem mem_surfaceTypes {type : RecordType} :
    type ∈ w.session.handles.surfaceTypes ↔ type ∈ past.map (·.descriptor.type) := by
  rw [HandleStore.surfaceTypes, List.mem_filterMap, List.mem_map]
  constructor
  · rintro ⟨i, -, found⟩
    obtain ⟨s, filled, same⟩ := HandleStore.surfaceTypeAt?_eq_some.1 found
    obtain ⟨-, current⟩ := succession.isCurrent_of_entryAt fits filled
    exact ⟨s, (succession.isCurrent_of_get? current).1, same⟩
  · rintro ⟨s, member, rfl⟩
    obtain ⟨newest, found⟩ := exists_newestOf member
    rw [← succession.newest] at found
    obtain ⟨-, type_eq, current⟩ := succession.isCurrent_of_get? found
    obtain ⟨t, -, -, resolved, -, -⟩ := succession.shown newest current
    have filled := HandleStore.entryAt_of_get? resolved
    exact ⟨t.slot.toNat, List.mem_range.2 (HandleStore.lt_size_of_entryAt filled),
      HandleStore.surfaceTypeAt?_eq_some.2 ⟨newest, filled, type_eq⟩⟩

include filed in
/-- Each type that was forwarded has one slot for its surface. -/
theorem surfaceCount_eq :
    w.session.handles.surfaceCount = (past.map (·.descriptor.type)).dedup.length := by
  rw [HandleStore.surfaceCount_eq]
  apply List.Perm.length_eq
  rw [List.perm_ext_iff_of_nodup (succession.nodup_surfaceTypes filed fits) (List.nodup_dedup _)]
  intro type
  rw [List.mem_dedup]
  exact succession.mem_surfaceTypes fits

end World.Succession

/-- A session has published what was forwarded. -/
structure World.IsPublished (past : List Surface) (w : World) : Prop where
  /-- No two forwardings make the same surface. -/
  distinct : (past.map Surface.number).Nodup
  surfaces : ∀ type, w.session.surfaces.get? type = newestOf past type
  /-- The newest surface of a type has a live token, and is what the type's name reads as. -/
  newest : ∀ type s, newestOf past type = some s → ∃ t, w.host.publishedToken s = some t ∧
    w.session.resolve t = .ok (.surface s) ∧ ((Session.getGlobal s.typeName).run w).1 = .value (.surface s)
  /-- The token of any earlier one is not live. -/
  earlier : ∀ s ∈ past, newestOf past s.descriptor.type ≠ some s → ∃ t, w.host.publishedToken s = some t ∧
    w.session.resolve t = .error (.unresolvedHandle t)
  /-- A name that a type had and none has now is that of no global. -/
  vacant : ∀ s ∈ past, (∀ type s', newestOf past type = some s' → s'.typeName ≠ s.typeName) →
    ((Session.getGlobal s.typeName).run w).1 = .value .nil
  /-- There is one live handle for each type that was forwarded. -/
  count : w.session.handles.surfaceCount = (past.map (·.descriptor.type)).dedup.length

section Reading

variable {w : World}

theorem Session.run_getGlobal (isOpen : w.session.isTornDown = false) {name : String} {v : HostValue}
    (read : (Bridge.read (-1)).run { w with machine := w.machine.push (w.machine.global name) } =
      (.value v, { w with machine := w.machine.push (w.machine.global name) })) :
    ((Session.getGlobal name).run w).1 = .value v := by
  have pushed : (w.machine.getGlobal name).2 = w.machine.push (w.machine.global name) := rfl
  simp [getGlobal, run_checkOpen isOpen, Bridge.global, pushed, read]

/-- A global that carries a live token reads as what the token resolves to. -/
theorem Session.getGlobal_table (whole : w.machine.base ≤ w.machine.height)
    (isOpen : w.session.isTornDown = false) {t : Token} {entry : HandleEntry}
    (live : w.session.handles.get? t = some entry) {a : Nat} (carries : w.machine.Carries a t) {name : String}
    (global : w.machine.global name = .table a) :
    ((Session.getGlobal name).run w).1 = .value entry.toValue := by
  apply run_getGlobal isOpen
  rw [global]
  exact Bridge.run_read_table (w := { w with machine := w.machine.push (.table a) }) (isTop_push whole _)
    (carries.of_tables rfl) live

theorem Session.getGlobal_nil (whole : w.machine.base ≤ w.machine.height)
    (isOpen : w.session.isTornDown = false) {name : String} (global : w.machine.global name = .nil) :
    ((Session.getGlobal name).run w).1 = .value .nil := by
  apply run_getGlobal isOpen
  rw [global]
  exact Bridge.run_read_scalar (isTop_push whole .nil) rfl

end Reading

/-- In a session that forwards types again and again, under whatever names, each type that was forwarded
    has its newest surface, and nothing is left of the earlier ones, whatever else the host and its scripts
    do in between, as long as they leave what is published alone. -/
theorem forwarding_publishes_newest {options : SessionOptions} {m : Machine} {host : HostStore}
    (whole : m.base ≤ m.height) {past : List Surface} {w : World}
    (publishes : (World.openSession options m host).Publishes past w) (scope : w.InScope)
    (few : w.host.published.size < host.published.size + HandleHistory.generationCapacity) :
    w.IsPublished past := by
  have succession := publishes.succession whole scope few
  have filed := World.Path.isFiled publishes.evolves scope
  have whole' := World.Path.whole publishes.evolves (World.whole_openSession whole options host)
  constructor
  · exact succession.distinct
  · exact succession.newest
  · intro type s newest
    rw [← succession.newest] at newest
    obtain ⟨-, -, current⟩ := succession.isCurrent_of_get? newest
    obtain ⟨t, a, published, live, carries, global⟩ := succession.shown s current
    refine ⟨t, published, ?_, Session.getGlobal_table whole' scope.isOpen live carries global⟩
    simp [Session.resolve, HandleStore.resolve_eq, live, Except.map, HandleEntry.toValue]
  · intro s member replaced
    rw [← succession.newest] at replaced
    obtain ⟨t, published, past⟩ := succession.retired s member replaced
    refine ⟨t, published, ?_⟩
    simp [Session.resolve, HandleStore.resolve_eq, past.get?_eq_none, Except.map]
  · intro s member vacant
    apply Session.getGlobal_nil whole' scope.isOpen
    apply succession.vacant s member
    intro s' current
    rw [succession.isCurrent_iff] at current
    exact vacant _ s' current
  · exact succession.surfaceCount_eq filed scope.fits

/-- Forwarding ends with a value, which is the surface that was made. -/
theorem Session.run_forwardType_of_isSome {w : World} (isOpen : w.session.isTornDown = false)
    {d : TypeDescriptor} (ended : ((forwardType d).run w).1.value?.isSome = true) :
    (forwardType d).run w = (.value (forwardedSurface w d), ((forwardType d).run w).2) := by
  obtain ⟨s, ended⟩ := Option.isSome_iff_exists.1 ended
  have ran := Action.run_of_value? ended
  obtain ⟨rfl, -⟩ := forwardType_value_cases isOpen ran
  exact ran

/-- A new session. -/
def unnamedGauge : World := World.openSession {} (.start 8) .empty

/-- It has forwarded a type. -/
def namedGauge : World := ((Session.forwardType (.blank "Gauge" ⟨"Gauge", .plain⟩)).run unnamedGauge).2

/-- An object of the type was pushed, and a script has kept the surface. -/
def usedGauge : World :=
  ((Command.runAll (callerAt 4) [.pushObject "gauge" ⟨"Gauge", .plain⟩ [],
    .machine [.getGlobal "Gauge", .setGlobal "kept"]]).run namedGauge).2

/-- The type was forwarded once more, under another name. -/
def renamedGauge : World := ((Session.forwardType (.blank "Dial" ⟨"Gauge", .plain⟩)).run usedGauge).2

theorem evolves_usedGauge : Evolves namedGauge usedGauge :=
  evolves_runAll (by decide +kernel) 4 _

theorem forwarded_namedGauge : (Session.forwardType (.blank "Gauge" ⟨"Gauge", .plain⟩)).run unnamedGauge =
    (.value (forwardedSurface unnamedGauge (.blank "Gauge" ⟨"Gauge", .plain⟩)), namedGauge) :=
  Session.run_forwardType_of_isSome rfl (by decide +kernel)

theorem forwarded_renamedGauge : (Session.forwardType (.blank "Dial" ⟨"Gauge", .plain⟩)).run usedGauge =
    (.value (forwardedSurface usedGauge (.blank "Dial" ⟨"Gauge", .plain⟩)), renamedGauge) :=
  Session.run_forwardType_of_isSome (by decide +kernel) (by decide +kernel)

theorem surfaces_usedGauge : usedGauge.session.surfaces = namedGauge.session.surfaces := by
  have whole : namedGauge.machine.base ≤ namedGauge.machine.height := by decide +kernel
  have scope : namedGauge.InScope := ⟨by decide +kernel, by decide +kernel⟩
  have scope' : usedGauge.InScope := ⟨by decide +kernel, by decide +kernel⟩
  have passed : Evolves unnamedGauge namedGauge := evolves_forwardType forwarded_namedGauge
  have filed : namedGauge.IsFiled := Path.isFiled passed scope
  have few : ∀ e ∈ usedGauge.session.surfaces.entries, e.2.number < namedGauge.host.published.size := by
    decide +kernel
  rcases evolves_usedGauge.spares filed whole scope' with spares | ⟨type, s, found, later⟩
  · exact spares.surfaces
  · exact absurd (few _ (Dict.mem_entries_of_get? found)) (Nat.not_lt_of_le later)

/-- The script has left the surface where it was. -/
theorem idles_usedGauge : unnamedGauge.Idles
    [forwardedSurface unnamedGauge (.blank "Gauge" ⟨"Gauge", .plain⟩)] namedGauge usedGauge := by
  have before : (namedGauge.machine.global "Gauge").address? = some 0 := by decide +kernel
  have after : (usedGauge.machine.global "Gauge").address? = some 0 := by decide +kernel
  have tokens : ∀ a, a < namedGauge.machine.tables.size →
      usedGauge.machine.tokenOf? (.table a) = namedGauge.machine.tokenOf? (.table a) := by decide +kernel
  have published : usedGauge.host.published = namedGauge.host.published := by decide +kernel
  refine ⟨evolves_usedGauge, surfaces_usedGauge, fun s member => ?_, fun s a t _ _ carries => ?_,
    fun s _ => ?_, fun t s _ => rfl⟩
  · have name : s.typeName = "Gauge" := by
      rw [List.mem_singleton.1 member]
      rfl
    rw [name, Value.eq_table before, Value.eq_table after]
  · exact carries_of_tokenOf? ((tokens a carries.bounds.1).trans carries.tokenOf?_eq)
  · rw [HostStore.publishedToken, published, HostStore.publishedToken]

/-- The session has published the type under its new name. -/
theorem forwarding_publishes_newest_of_gauge :
    renamedGauge.IsPublished [forwardedSurface usedGauge (.blank "Dial" ⟨"Gauge", .plain⟩),
      forwardedSurface unnamedGauge (.blank "Gauge" ⟨"Gauge", .plain⟩)] := by
  have whole : (Machine.start 8).base ≤ (Machine.start 8).height := by decide
  have scope : renamedGauge.InScope := ⟨by decide +kernel, by decide +kernel⟩
  have few : renamedGauge.host.published.size <
      HostStore.empty.published.size + HandleHistory.generationCapacity := by decide +kernel
  have only : ∀ e ∈ usedGauge.session.surfaces.entries, e.1 = ⟨"Gauge", .plain⟩ := by decide +kernel
  have vacant (type : RecordType) : unnamedGauge.session.surfaces.get? type = none := rfl
  have first : unnamedGauge.Publishes _ namedGauge :=
    .forward .start forwarded_namedGauge fun type s found _ => by
      rw [vacant] at found
      cases found
  have second : unnamedGauge.Publishes _ renamedGauge :=
    .forward (.idle first idles_usedGauge) forwarded_renamedGauge fun type s found _ =>
      only _ (Dict.mem_entries_of_get? found)
  exact forwarding_publishes_newest whole second scope few

/-- A script has taken the metatable off the proxy of a surface, and then another type was forwarded. -/
def strippedGauge : World :=
  ((Command.runAll (callerAt 4) [.forward (blankSpec "Gauge"), .run "main" "strip",
    .forward (blankSpec "Dial")]).run (World.openSession {}
      (MachineSpec.build { chunks := [(utf8Encode "strip",
        .mk [.getGlobal "Gauge", .pushNil, .setMeta (-2)] (some 0) none true)] }) .empty)).2

/-- The surface has its handle still, and its name was not assigned, but the name reads as nothing. -/
theorem stripped_proxy_reads_as_nil : strippedGauge.session.isTornDown = false ∧
    (∃ s t, strippedGauge.session.surfaces.get? ⟨"Gauge", .plain⟩ = some s ∧ s.typeName = "Gauge" ∧
      strippedGauge.host.publishedToken s = some t ∧ strippedGauge.IsHandleOf t (.surface s)) ∧
    (∃ a, strippedGauge.machine.global "Gauge" = .table a) ∧
    ((Session.getGlobal "Gauge").run strippedGauge).1 = .value .nil := by
  have isOpen : strippedGauge.session.isTornDown = false := by decide +kernel
  have published : (strippedGauge.session.surfaces.get? ⟨"Gauge", .plain⟩).any (fun s =>
      decide (s.typeName = "Gauge") && (strippedGauge.host.publishedToken s).any fun t =>
        decide (strippedGauge.IsHandleOf t (.surface s))) = true := by decide +kernel
  have assigned : (strippedGauge.machine.global "Gauge").address? = some 0 := by decide +kernel
  have slot : (strippedGauge.machine.push (strippedGauge.machine.global "Gauge")).readSlot
      ((strippedGauge.machine.push (strippedGauge.machine.global "Gauge")).absIndex (-1)) = .nil := by
    decide +kernel
  generalize strippedGauge = w at isOpen published assigned slot ⊢
  refine ⟨isOpen, ?_, ⟨0, Value.eq_table assigned⟩, Session.run_getGlobal isOpen ?_⟩
  · obtain ⟨s, found, published⟩ := (Option.any_eq_true _ _).1 published
    obtain ⟨name, published⟩ := Bool.and_eq_true_iff.1 published
    obtain ⟨t, remembered, handle⟩ := (Option.any_eq_true _ _).1 published
    exact ⟨s, t, found, of_decide_eq_true name, remembered, of_decide_eq_true handle⟩
  · simp only [Bridge.read, Action.run_bind, run_askMachine, slot]
    rfl

end ScriptHost
