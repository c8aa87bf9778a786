import ScriptHost.Proofs.Handles.Store
import ScriptHost.Session.Operations
/-!
# Where descriptors come from

An object carries the descriptor that it was made with, and a surface the one that it was compiled from.
Host code passes them on: it keeps them in records, cells and variables, hands them to functions as
arguments, and gets them back from handles.  It cannot make up one of its own, for no text of host code
has a descriptor in it.

So all the descriptors in the stores of a world are `known` ones, if they were at the start and each type
that is registered becomes known.  These lemmas say so of the operations on values and on stores.
-/

namespace ScriptHost

/-! ## Values and stores -/

section Known

variable (known : TypeDescriptor → Prop)

/-- The descriptor of the value is known, if it has one. -/
def HostValue.IsFrom : HostValue → Prop
  | .object o => known o.descriptor
  | .surface s => known s.descriptor
  | _ => True

def Record.IsFrom (r : Record) : Prop := ∀ key, (r.read key).IsFrom known

structure HostStore.IsFrom (h : HostStore) : Prop where
  records : ∀ i, (h.record i).IsFrom known
  cells : ∀ i, (h.cell i).IsFrom known
  vars : ∀ name v, h.vars.get? name = some v → v.IsFrom known

def HandleEntry.descriptor : HandleEntry → TypeDescriptor
  | .object o => o.descriptor
  | .surface s => s.descriptor

/-- Each live handle has the tag of the descriptor of what it stands for, which is known. -/
def HandleStore.IsFrom (h : HandleStore) : Prop :=
  ∀ (i : Nat) s entry, h.slots[i]? = some s → s.entry = some entry →
    known entry.descriptor ∧ s.tag = entry.descriptor.tag

structure Session.IsFrom (s : Session) : Prop where
  types : ∀ type d, s.types.lookup type = some d → known d
  surfaces : ∀ type surface, s.surfaces.get? type = some surface → known surface.descriptor
  handles : s.handles.IsFrom known

structure World.IsFrom (w : World) : Prop where
  host : w.host.IsFrom known
  session : w.session.IsFrom known

end Known

section Mono

variable {known known' : TypeDescriptor → Prop} (more : ∀ d, known d → known' d)

include more

theorem HostValue.IsFrom.mono {v : HostValue} (isFrom : v.IsFrom known) : v.IsFrom known' := by
  cases v with
  | object o => exact more _ isFrom
  | surface s => exact more _ isFrom
  | _ => trivial

theorem HostStore.IsFrom.mono {h : HostStore} (isFrom : h.IsFrom known) : h.IsFrom known' where
  records i key := (isFrom.records i key).mono more
  cells i := (isFrom.cells i).mono more
  vars name v found := (isFrom.vars name v found).mono more

theorem Session.IsFrom.mono {s : Session} (isFrom : s.IsFrom known) : s.IsFrom known' where
  types type d found := more d (isFrom.types type d found)
  surfaces type surface found := more _ (isFrom.surfaces type surface found)
  handles i s entry found filled :=
    ⟨more _ (isFrom.handles i s entry found filled).1, (isFrom.handles i s entry found filled).2⟩

theorem World.IsFrom.mono {w : World} (isFrom : w.IsFrom known) : w.IsFrom known' :=
  ⟨isFrom.host.mono more, isFrom.session.mono more⟩

end Mono

variable {known : TypeDescriptor → Prop}

/-! ## Values made of others -/

theorem HostValue.isFrom_toPrimitive {v v' : HostValue} {t : HostType}
    (made : v.toPrimitive? t = some v') : v'.IsFrom known := by
  unfold toPrimitive? at made
  split at made
  · obtain ⟨n, _, rfl⟩ := Option.map_eq_some_iff.1 made
    trivial
  · obtain ⟨n, _, rfl⟩ := Option.map_eq_some_iff.1 made
    trivial
  · cases made
    trivial
  · obtain ⟨x, _, rfl⟩ := Option.map_eq_some_iff.1 made
    trivial
  · cases made
    trivial
  · cases made
    trivial
  · cases made

theorem HostValue.IsFrom.coerce {v v' : HostValue} (isFrom : v.IsFrom known) {t : HostType}
    (coerced : v.coerce? t = some v') : v'.IsFrom known := by
  rw [coerce?] at coerced
  split at coerced
  · cases coerced
    exact isFrom
  · exact isFrom_toPrimitive coerced

theorem HostValue.IsFrom.coerceOrMismatch {v v' : HostValue} (isFrom : v.IsFrom known) {t : HostType}
    (coerced : v.coerceOrMismatch t = .ok v') : v'.IsFrom known := by
  rw [HostValue.coerceOrMismatch] at coerced
  cases made : v.coerce? t with
  | none =>
    rw [made] at coerced
    cases coerced
  | some _ =>
    rw [made] at coerced
    cases coerced
    exact isFrom.coerce made

theorem Conversion.objectFromHost_ok {v : HostValue} {o : HostObject}
    (converted : objectFromHost v = .ok o) : v = .object o := by
  cases v with
  | object o' =>
    cases converted
    rfl
  | _ => cases converted

theorem Conversion.isFrom_intoHost (c : Conversion) {v : HostValue} (isFrom : v.IsFrom known)
    {contents : c.Carrier} (read : c.fromHost v = .ok contents) :
    (c.intoHost contents).IsFrom known := by
  induction c with
  | value =>
    cases read
    exact isFrom
  | object =>
    rw [objectFromHost_ok read] at isFrom
    exact isFrom
  | optional c ih =>
    rw [fromHost] at read
    split at read
    · cases read
      trivial
    · cases inner : c.fromHost v with
      | error e =>
        rw [inner] at read
        cases read
      | ok contents' =>
        rw [inner] at read
        cases read
        exact ih inner
  | _ => trivial

theorem HostValue.IsFrom.convert {v v' : HostValue} (isFrom : v.IsFrom known) {c : Conversion}
    (converted : c.convert v = .ok v') : v'.IsFrom known := by
  rw [Conversion.convert] at converted
  cases read : c.fromHost v with
  | error e =>
    rw [read] at converted
    cases converted
  | ok contents =>
    rw [read] at converted
    cases converted
    exact c.isFrom_intoHost isFrom read

theorem HostValue.IsFrom.accept {v v' : HostValue} (isFrom : v.IsFrom known) {s : Storage} {key : String}
    (accepted : s.accept key v = .ok v') : v'.IsFrom known := by
  cases s with
  | plain =>
    rw [Storage.accept] at accepted
    split at accepted
    · cases accepted
    · cases accepted
      exact isFrom
  | typed c => exact isFrom.convert accepted

/-! ## Records -/

theorem Record.isFrom_blank (type : RecordType) : (blank type).IsFrom known := fun _ => trivial

/-- Only the entries of a record matter. -/
theorem Record.IsFrom.of_entries {r r' : Record} (isFrom : r.IsFrom known) (same : r'.entries = r.entries) :
    r'.IsFrom known := fun key => by
  have read : r'.read key = r.read key := by rw [Record.read, same, Record.read]
  rw [read]
  exact isFrom key

theorem Record.IsFrom.set {r r' : Record} (isFrom : r.IsFrom known) {key : String} {v : HostValue}
    (good : v.IsFrom known) (accepted : r.set key v = .ok r') : r'.IsFrom known := by
  rw [Record.set] at accepted
  cases stored : r.type.storage.accept key v with
  | error e =>
    rw [stored] at accepted
    cases accepted
  | ok v' =>
    rw [stored] at accepted
    cases accepted
    intro key'
    rw [Record.read, Dict.get?_insert]
    split
    · exact good.accept stored
    · exact isFrom key'

theorem Record.IsFrom.put {r : Record} (isFrom : r.IsFrom known) (key : String) {v : HostValue}
    (good : v.IsFrom known) : (r.put key v).IsFrom known := by
  rw [Record.put]
  cases accepted : r.set key v with
  | error e => exact isFrom
  | ok r' => exact isFrom.set good accepted

/-! ## The host's state -/

theorem HostStore.isFrom_empty : empty.IsFrom known where
  records i := by
    rw [record, empty, Array.getElem?_empty]
    exact Record.isFrom_blank _
  cells i := by
    rw [cell, empty, Array.getElem?_empty]
    trivial
  vars name v found := by cases found

namespace HostStore.IsFrom

variable {h : HostStore} (isFrom : h.IsFrom known)

include isFrom

theorem setRecord (i : Nat) {r : Record} (good : r.IsFrom known) : (h.setRecord i r).IsFrom known where
  records j := by
    rw [record, HostStore.setRecord, Array.getElem?_setIfInBounds]
    split
    · split
      · exact good
      · exact Record.isFrom_blank _
    · exact isFrom.records j
  cells := isFrom.cells
  vars := isFrom.vars

theorem newRecord {r : Record} (good : r.IsFrom known) : (h.newRecord r).2.IsFrom known where
  records j := by
    rw [record, HostStore.newRecord, Array.getElem?_push]
    split
    · exact good
    · exact isFrom.records j
  cells := isFrom.cells
  vars := isFrom.vars

theorem newCell {v : HostValue} (good : v.IsFrom known) : (h.newCell v).2.IsFrom known where
  records := isFrom.records
  cells j := by
    rw [cell, HostStore.newCell, Array.getElem?_push]
    split
    · exact good
    · exact isFrom.cells j
  vars := isFrom.vars

theorem setCell (i : Nat) {v : HostValue} (good : v.IsFrom known) : (h.setCell i v).IsFrom known where
  records := isFrom.records
  cells j := by
    rw [cell, HostStore.setCell, Array.getElem?_setIfInBounds]
    split
    · split
      · exact good
      · trivial
    · exact isFrom.cells j
  vars := isFrom.vars

theorem save (name : String) {v : HostValue} (good : v.IsFrom known) : (h.save name v).IsFrom known where
  records := isFrom.records
  cells := isFrom.cells
  vars name' v' found := by
    have found : (h.vars.insert name v).get? name' = some v' := found
    rw [Dict.get?_insert] at found
    split at found
    · cases found
      exact good
    · exact isFrom.vars name' v' found

/-- Only the records, the cells and the variables hold values. -/
theorem of_same {h' : HostStore} (records : h'.records = h.records) (cells : h'.cells = h.cells)
    (vars : h'.vars = h.vars) : h'.IsFrom known where
  records i := by
    rw [record, records]
    exact isFrom.records i
  cells i := by
    rw [cell, cells]
    exact isFrom.cells i
  vars := by
    rw [vars]
    exact isFrom.vars

theorem literal (l : Literal) : (h.literal l).IsFrom known := by
  cases l with
  | var name =>
    rw [HostStore.literal]
    cases found : h.vars.get? name with
    | none => trivial
    | some v => exact isFrom.vars name v found
  | _ => trivial

theorem apply (m : MemberSpec) (b : TypeBuilder) : (m.apply b h).2.IsFrom known := by
  cases m with
  | staticField name c initial => exact isFrom.newCell (isFrom.literal initial)
  | staticProperty name c initial => exact isFrom.newCell (isFrom.literal initial)
  | constant name value => exact isFrom.newCell (isFrom.literal value)
  | _ => exact isFrom

omit isFrom in
theorem applyAll (members : List MemberSpec) (built : TypeBuilder × HostStore) (isFrom : built.2.IsFrom known) :
    (members.foldl (fun built m => m.apply built.1 built.2) built).2.IsFrom known := by
  induction members generalizing built with
  | nil => exact isFrom
  | cons m members ih => exact ih _ (isFrom.apply m built.1)

theorem build (spec : TypeSpec) : (spec.build h).2.IsFrom known :=
  applyAll spec.members (.start spec.name spec.type, h) isFrom

end HostStore.IsFrom

/-! ## Handles -/

namespace HandleStore.IsFrom

variable {h : HandleStore} (isFrom : h.IsFrom known)

include isFrom

theorem of_slots {h' : HandleStore} (same : h'.slots = h.slots) : h'.IsFrom known := by
  rw [HandleStore.IsFrom, same]
  exact isFrom

/-- What a live token stands for is known, and has the token's tag. -/
theorem get? {t : Token} {entry : HandleEntry} (live : h.get? t = some entry) :
    known entry.descriptor ∧ t.tag = entry.descriptor.tag := by
  obtain ⟨s, found, -, tag, filled⟩ := (get?_eq_some_iff h t entry).1 live
  rw [← tag]
  exact isFrom _ s entry found filled

theorem occupy {entry : HandleEntry} (good : known entry.descriptor) :
    (h.occupy entry entry.descriptor.tag).2.IsFrom known := by
  rw [occupy_eq]
  cases h.free with
  | cons i free =>
    -- The slot is used again, and whatever tag it had before is overwritten.
    intro j s entry' found filled
    have found : (h.slots.modify i fun s => { s with tag := entry.descriptor.tag, entry := some entry })[j]? =
      some s := found
    rw [Array.getElem?_modify] at found
    split at found
    · obtain ⟨_, _, rfl⟩ := Option.map_eq_some_iff.1 found
      cases filled
      exact ⟨good, rfl⟩
    · exact isFrom j s entry' found filled
  | nil =>
    intro j s entry' found filled
    have found : (h.slots.push ⟨1, entry.descriptor.tag, some entry⟩)[j]? = some s := found
    rw [Array.getElem?_push] at found
    split at found
    · cases found
      cases filled
      exact ⟨good, rfl⟩
    · exact isFrom j s entry' found filled

theorem alloc {entry : HandleEntry} (good : known entry.descriptor) :
    (h.alloc entry entry.descriptor.tag).2.IsFrom known := by
  rw [HandleStore.alloc]
  split
  · exact isFrom
  · exact (isFrom.occupy good).of_slots (remember_slots _ _ _).1

theorem release (t : Token) : (h.release t).2.IsFrom known := by
  rw [HandleStore.release]
  cases h.resolve t with
  | error e => exact isFrom
  | ok entry =>
    -- The tag of the slot stays behind, but nothing is in it that could belong to another descriptor.
    refine of_slots (h := h.vacated t.slot.toNat) ?_ (forget_slots _ entry t).1
    intro j s entry' found filled
    rw [slots_vacated] at found
    split at found
    · obtain ⟨_, _, rfl⟩ := Option.map_eq_some_iff.1 found
      cases filled
    · exact isFrom j s entry' found filled

omit isFrom in
theorem releaseAll (h : HandleStore) : h.releaseAll.2.IsFrom known := by
  intro j s entry found filled
  rw [entry_releaseAll found] at filled
  cases filled

end HandleStore.IsFrom

theorem HandleStore.isFrom_empty (limit : Option Nat) : (empty limit).IsFrom known := by
  intro i s entry found
  simp [empty] at found

end ScriptHost
