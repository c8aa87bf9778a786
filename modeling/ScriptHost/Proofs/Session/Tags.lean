import ScriptHost.Proofs.Provenance.Commands
import ScriptHost.Proofs.Session.Resources
/-!
# Tags separate types

A token names its slot by a generation and a number, and the type of what it stands for by a tag.  Every
registration takes a new tag, also that of a type which is registered again, and every handle is issued
under the tag of the descriptor that the thing behind it was made with.  That descriptor may have been
replaced long since, and the slot may have had other tenants.

`tags_separate_types` says that tags never mix up two registrations in any state that a run passes
through.  It rests on two lemmas about whole runs: descriptors are never made up (`files_runAll`), and
the tags of what has been registered count up (`TypeDirectory.Counts`).
-/

namespace ScriptHost

/-- In the world as it is after these registrations, with things from elsewhere perhaps, tags tell the
    registrations apart. -/
structure World.TellsApart (w : World) (past : List TypeDescriptor) (foreign : TypeDescriptor → Prop) :
    Prop where
  /-- No registration was given zero. -/
  nonzero : ∀ d ∈ past, d.tag ≠ 0
  /-- Each was given a tag that none before it had. -/
  fresh : past.Pairwise fun earlier d => earlier.tag ≠ d.tag
  /-- A live handle belongs to a descriptor, whose tag it has. -/
  belongs : ∀ t entry, w.session.handles.resolve t = .ok entry →
    t.tag = entry.descriptor.tag ∧ (entry.descriptor ∈ past ∨ foreign entry.descriptor)
  /-- Live handles of the session with the same tag belong to the same descriptor. -/
  separate : ∀ t t' entry entry', w.session.handles.resolve t = .ok entry →
    w.session.handles.resolve t' = .ok entry' → entry.descriptor ∈ past → entry'.descriptor ∈ past →
      t.tag = t'.tag → entry.descriptor = entry'.descriptor
  /-- A live handle of the session does not resolve under the tag of any other registration. -/
  mistagged : ∀ t entry d, w.session.handles.resolve t = .ok entry → entry.descriptor ∈ past → d ∈ past →
    d ≠ entry.descriptor →
      w.session.handles.resolve { t with tag := d.tag } = .error (.unresolvedHandle { t with tag := d.tag })

/-- Of a slot only one tag is right. -/
theorem HandleStore.tag_eq_of_get? {h : HandleStore} {t t' : Token} {entry entry' : HandleEntry}
    (live : h.get? t = some entry) (live' : h.get? t' = some entry') (slot : t.slot = t'.slot) :
    t.tag = t'.tag := by
  obtain ⟨s, found, -, tag, -⟩ := (get?_eq_some_iff h t entry).1 live
  obtain ⟨s', found', -, tag', -⟩ := (get?_eq_some_iff h t' entry').1 live'
  rw [slot, found'] at found
  cases found
  exact tag.symm.trans tag'

theorem World.Remembers.tellsApart {w : World} {past : List TypeDescriptor} {foreign : TypeDescriptor → Prop}
    (remembers : w.Remembers foreign past) (few : past.length < UInt32.size) : w.TellsApart past foreign := by
  have distinct := remembers.counts.nodup few
  -- The tag of a registration says which one it is.
  have injective {d d' : TypeDescriptor} (member : d ∈ past) (member' : d' ∈ past) (same : d.tag = d'.tag) :
      d = d' := List.inj_on_of_nodup_map distinct member member' same
  have issued {t : Token} {entry : HandleEntry} (live : w.session.handles.resolve t = .ok entry) :=
    remembers.isFrom.session.handles.get? ((HandleStore.resolve_eq_ok _ t entry).1 live)
  refine ⟨fun d => remembers.counts.ne_zero few, List.pairwise_map.1 distinct,
    fun t entry live => ⟨(issued live).2, (issued live).1⟩, ?_, ?_⟩
  · intro t t' entry entry' live live' own own' same
    rw [(issued live).2, (issued live').2] at same
    exact injective own own' same
  · intro t entry d live own member other
    rw [HandleStore.resolve_eq]
    cases live' : w.session.handles.get? { t with tag := d.tag } with
    | none => rfl
    | some entry' =>
      -- The slot would have both tags.
      have same := HandleStore.tag_eq_of_get? live' ((HandleStore.resolve_eq_ok _ t entry).1 live) rfl
      rw [(issued live).2] at same
      exact absurd (injective member own same) other

theorem World.remembers_openSession {host : HostStore} {foreign : TypeDescriptor → Prop}
    (brought : host.IsFrom foreign) (options : SessionOptions) (m : Machine) :
    (openSession options m host).Remembers foreign [] where
  isFrom := by
    refine ⟨brought.mono fun _ => .inr, ⟨fun _ _ found => ?_, fun _ _ found => ?_, ?_⟩⟩
    · cases found
    · cases found
    · exact HandleStore.isFrom_empty options.maxHandles
  counts := TypeDirectory.counts_empty

/-- In every state that a run of one session passes through, whether between commands or in the midst of
    nested code, tags tell apart the types that the session has registered by then, if these are fewer
    than 2³².  What the host brings along from elsewhere is all that could belong to other descriptors:
    where it brings nothing, `foreign` is empty, and all live handles are handles of the session. -/
theorem tags_separate_types {host : HostStore} {foreign : TypeDescriptor → Prop}
    (brought : host.IsFrom foreign) (options : SessionOptions) (m : Machine) (stop : Op → World → Bool)
    (depth : Nat) (commands : List Command) {past : List TypeDescriptor} {outcome : Outcome Raised Unit}
    {w : World}
    (registered : Command.registrations (watchedCaller (stopWhen stop) depth) commands
      (World.openSession options m host) = past)
    (ran : (Command.runAll (watchedCaller (stopWhen stop) depth) commands).run
      (World.openSession options m host) = (outcome, w))
    (few : past.length < UInt32.size) : w.TellsApart past foreign := by
  have watched (known : TypeDescriptor → Prop) (op : Op) : KeepsTo known (stopWhen stop op) := by
    refine Yields.aloof fun w => ?_
    rw [run_stopWhen]
    split <;> exact ⟨rfl, rfl⟩
  have files := files_runAll (fun known => minds_watchedCaller (watched known) depth) commands
    (World.remembers_openSession brought options m)
  rw [List.nil_append, registered, ran] at files
  exact files.remembers.tellsApart few

/-- A type forwarded twice, and an object pushed after each time.  The handle of the first surface is given
    up, and the second object is given its slot. -/
def gaugeTwice : List Command :=
  let spec : TypeSpec := ⟨⟨"Gauge", .plain⟩, "Gauge", [.defaultConstructor]⟩
  [.forward spec, .pushObject "old" spec.type [], .forward spec, .pushObject "new" spec.type []]

def gaugeTwiceCaller : Caller := watchedCaller (stopWhen fun _ _ => false) 1

def gaugeTwicePast : List TypeDescriptor :=
  Command.registrations gaugeTwiceCaller gaugeTwice (World.openSession {} (.start 10) .empty)

def gaugeTwiceRun : Outcome Raised Unit × World :=
  (Command.runAll gaugeTwiceCaller gaugeTwice).run (World.openSession {} (.start 10) .empty)

/-- Both objects resolve, each under the tag of its own registration, and the one in the slot that was
    used before does not resolve under the tag of the other. -/
theorem tags_separate_types_of_gauge_twice :
    gaugeTwicePast.map (·.tag) = [1, 2] ∧
      gaugeTwiceRun.2.TellsApart gaugeTwicePast (fun _ => False) ∧
      (gaugeTwiceRun.2.session.handles.get? ⟨1, 1, 1⟩).isSome ∧
      (gaugeTwiceRun.2.session.handles.get? ⟨2, 0, 2⟩).isSome ∧
      gaugeTwiceRun.2.session.handles.resolve ⟨2, 0, 1⟩ = .error (.unresolvedHandle ⟨2, 0, 1⟩) := by
  have tags : gaugeTwicePast.map (·.tag) = [1, 2] := by decide +kernel
  have few : gaugeTwicePast.length < UInt32.size := by
    rw [← List.length_map (f := (·.tag)), tags]
    decide
  have bare : HostStore.empty.IsFrom fun _ => False := HostStore.isFrom_empty
  have registered : Command.registrations gaugeTwiceCaller gaugeTwice
      (World.openSession {} (.start 10) .empty) = gaugeTwicePast := rfl
  have ran := (Prod.eta gaugeTwiceRun).symm
  have apart := tags_separate_types bare {} (.start 10) (fun _ _ => false) 1 gaugeTwice registered ran few
  have old : (gaugeTwiceRun.2.session.handles.get? ⟨1, 1, 1⟩).isSome := by decide +kernel
  have new : (gaugeTwiceRun.2.session.handles.get? ⟨2, 0, 2⟩).isSome := by decide +kernel
  refine ⟨tags, apart, old, new, ?_⟩
  obtain ⟨entry, live⟩ := Option.isSome_iff_exists.1 new
  have live := (HandleStore.resolve_eq_ok _ _ _).2 live
  obtain ⟨tag, own⟩ := apart.belongs _ entry live
  have own : entry.descriptor ∈ gaugeTwicePast := own.resolve_right id
  -- The descriptor of the first registration.
  have listed : 1 ∈ gaugeTwicePast.map (·.tag) := by
    rw [tags]
    decide
  obtain ⟨d, member, first⟩ := List.mem_map.1 listed
  have other : d ≠ entry.descriptor := by
    rintro rfl
    rw [first] at tag
    exact absurd tag (by decide)
  have mistagged := apart.mistagged _ entry d live own member other
  rw [first] at mistagged
  exact mistagged

end ScriptHost
