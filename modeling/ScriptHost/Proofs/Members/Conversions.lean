import ScriptHost.Proofs.Host.Coercion
import ScriptHost.Proofs.Members.Directory
import ScriptHost.Proofs.Members.Writes
/-!
# Writes convert once

A member write looks at a value twice.  It is coerced to the type that the member is declared with, and
then the setter reads it as contents of the member's own representation.  The two agree because a
builder declares every writable member with the type of its representation (`TypeSpec.isTyped_build`), so
the setter reads from the coerced value what it would have read from the value itself, and coercion
fails only where the setter would, with the same error (`coercing_first_changes_nothing`).
-/

namespace ScriptHost

open World

/-! ## Members are declared with the types of their representations -/

def Accessor.IsTyped (a : Accessor) : Prop :=
  ∀ key c, a.writes = some (key, c) → a.type = c.hostType

def StaticAccessor.IsTyped (a : StaticAccessor) : Prop :=
  ∀ cell c, a.writes = some (cell, c) → a.type = c.hostType

namespace Dict

variable {ν : Type}

/-- Every value of the map has the property. -/
def Each (p : ν → Prop) (d : Dict String ν) : Prop := ∀ name v, d.get? name = some v → p v

variable {p : ν → Prop} {d : Dict String ν}

theorem each_empty : (empty : Dict String ν).Each p := fun name v found => by
  rw [get?_empty] at found
  cases found

theorem Each.insert (each : d.Each p) (name : String) {v : ν} (holds : p v) : (d.insert name v).Each p := by
  intro name' v' found
  rw [get?_insert] at found
  split at found
  · cases found
    exact holds
  · exact each name' v' found

end Dict

/-- Every writable accessor of the directory is declared with the type of what it stores. -/
structure TypeDescriptor.IsTyped (d : TypeDescriptor) : Prop where
  fields : d.fields.Each Accessor.IsTyped
  properties : d.properties.Each Accessor.IsTyped
  staticFields : d.staticFields.Each StaticAccessor.IsTyped
  staticProperties : d.staticProperties.Each StaticAccessor.IsTyped

namespace TypeBuilder

theorem isTyped_accessor (name : String) (isReadable : Bool) (c : Option Conversion) :
    (accessor name isReadable c).IsTyped := by
  intro key c' writes
  cases c with
  | none => cases writes
  | some c =>
    cases writes
    rfl

theorem isTyped_cellAccessor (c : Conversion) (cell : Nat) : (cellAccessor c cell).IsTyped := by
  intro cell' c' writes
  cases writes
  rfl

theorem isTyped_readAccessor (reader : StaticReader) : (readAccessor reader).IsTyped := by
  intro cell c writes
  cases writes

theorem isTyped_apply (m : MemberSpec) {b : TypeBuilder} (typed : b.descriptor.IsTyped) (h : HostStore) :
    (m.apply b h).1.descriptor.IsTyped := by
  cases m with
  | field name | readonlyField name =>
    exact { typed with fields := typed.fields.insert name (isTyped_accessor name _ _) }
  | property name | readonlyProperty name | writeonlyProperty name =>
    exact { typed with properties := typed.properties.insert name (isTyped_accessor name _ _) }
  | staticField name c =>
    exact { typed with staticFields := typed.staticFields.insert name (isTyped_cellAccessor c _) }
  | staticProperty name c =>
    exact { typed with staticProperties := typed.staticProperties.insert name (isTyped_cellAccessor c _) }
  | readonlyStaticField name | constant name =>
    exact { typed with staticFields := typed.staticFields.insert name (isTyped_readAccessor _) }
  | readonlyStaticProperty name =>
    exact { typed with staticProperties := typed.staticProperties.insert name (isTyped_readAccessor _) }
  | method | dictionary | staticMethod | constructor | defaultConstructor => exact { typed with }

theorem isTyped_build {b : TypeBuilder} (typed : b.descriptor.IsTyped) : b.build.IsTyped := by
  rw [build]
  split
  · exact { typed with }
  · exact typed

end TypeBuilder

theorem TypeSpec.isTyped_build (s : TypeSpec) (h : HostStore) : (s.build h).1.IsTyped := by
  have blank : (TypeBuilder.start s.name s.type).descriptor.IsTyped :=
    ⟨Dict.each_empty, Dict.each_empty, Dict.each_empty, Dict.each_empty⟩
  exact TypeBuilder.isTyped_build (s.builder_keeps (p := fun b => b.descriptor.IsTyped) h blank
    fun m _ _ h typed => TypeBuilder.isTyped_apply m typed h)

/-- A directory that was described by declarations, under whatever tag it is registered. -/
def TypeDescriptor.IsDeclared (d : TypeDescriptor) : Prop :=
  ∃ (s : TypeSpec) (h : HostStore) (tag : UInt32), d = { (s.build h).1 with tag }

theorem TypeDescriptor.IsDeclared.isTyped {d : TypeDescriptor} (declared : d.IsDeclared) : d.IsTyped := by
  obtain ⟨s, h, tag, rfl⟩ := declared
  exact { s.isTyped_build h with }

/-! ## The members that are written -/

theorem HostObject.isTyped_of_accessors {o : HostObject} (typed : o.descriptor.IsTyped) {name : String}
    {a : Accessor} {rest : List Accessor} (found : o.accessors name = a :: rest) : a.IsTyped := by
  have isAccessor : a ∈ o.accessors name := found ▸ List.mem_cons_self
  rw [accessors, List.mem_append, Option.mem_toList, Option.mem_toList] at isAccessor
  cases isAccessor with
  | inl field => exact typed.fields name a field
  | inr property => exact typed.properties name a property

def SurfaceMember.IsTyped : SurfaceMember → Prop
  | field a | property a => a.IsTyped
  | method _ | constructor => True

namespace Surface

theorem each_enter {α : Type} {p : α → Prop} {q : SurfaceMember → Prop} {kind : α → SurfaceMember}
    {source : Dict String α} {members : Dict String SurfaceMember} (entered : source.Each p)
    (kept : members.Each q) (kinds : ∀ a, p a → q (kind a)) : (enter kind source members).Each q := by
  intro name m found
  rw [get?_enter] at found
  cases here : source.get? name with
  | none =>
    rw [here] at found
    exact kept name m found
  | some a =>
    rw [here] at found
    cases found
    exact kinds a (entered name a here)

theorem isTyped_compile {d : TypeDescriptor} (typed : d.IsTyped) :
    (compile d).Each SurfaceMember.IsTyped := by
  have fields : (enter .field d.staticFields .empty).Each SurfaceMember.IsTyped :=
    each_enter typed.staticFields Dict.each_empty fun _ typed => typed
  have properties : (enter .property d.staticProperties (enter .field d.staticFields .empty)).Each
      SurfaceMember.IsTyped := each_enter typed.staticProperties fields fun _ typed => typed
  have methods : (enter .method d.staticMethods (enter .property d.staticProperties
      (enter .field d.staticFields .empty))).Each SurfaceMember.IsTyped :=
    each_enter (p := fun _ => True) (fun _ _ _ => trivial) properties fun _ _ => trivial
  rw [compile]
  split
  · exact methods
  · exact methods.insert constructorName trivial

theorem isTyped_of_member {s : Surface} (typed : s.descriptor.IsTyped)
    (compiled : s.members = compile s.descriptor) {name : String} {a : StaticAccessor}
    (found : s.member name = some (.field a) ∨ s.member name = some (.property a)) : a.IsTyped := by
  have members : s.members.Each SurfaceMember.IsTyped := compiled ▸ isTyped_compile typed
  cases found with
  | inl field => exact members name _ field
  | inr property => exact members name _ property

end Surface

/-! ## One conversion decides -/

namespace Setter

/-- The setter for an entry, if the value can be read as what the entry holds. -/
def toEntry (o : HostObject) (key : String) (c : Conversion) (v : HostValue) :
    Except BridgeError (Option Setter) :=
  (c.fromHost v).map fun x => some (.entry o key (c.intoHost x))

/-- The setter for a static member, if the value can be read as what the member holds. -/
def toCell (i : Nat) (c : Conversion) (v : HostValue) : Except BridgeError (Option Setter) :=
  (c.fromHost v).map fun x => some (.cell i (c.intoHost x))

end Setter

section Writes

variable {name : String} {c : Conversion} (v : HostValue)

theorem HostObject.setter?_eq_of_isTyped {o : HostObject} (typed : o.descriptor.IsTyped)
    (isRecord : o.descriptor.isDictionary = false) {a : Accessor} {rest : List Accessor} {key : String}
    (found : o.accessors name = a :: rest) (writes : a.writes = some (key, c)) (h : HostStore) :
    o.setter? name v h =
      (v.coerceOrMismatch c.hostType >>= fun _ => h.checkClaim o >>= fun _ => Setter.toEntry o key c v) := by
  -- The declared type is that of the representation, so one coercion serves both looks.
  have type_eq : a.type = c.hostType := isTyped_of_accessors typed found key c writes
  simp only [setter?, isRecord, found, writes, type_eq, Bool.false_eq_true, if_false]
  cases coerced : v.coerce? c.hostType with
  | none =>
    rw [HostValue.coerceOrMismatch_eq_error coerced]
    rfl
  | some v' =>
    rw [HostValue.coerceOrMismatch_eq_ok coerced, Except.ok_bind, Except.ok_bind]
    cases h.checkClaim o with
    | error e => rfl
    | ok _ =>
      rw [Except.ok_bind, Except.ok_bind, Setter.toEntry, Conversion.convert,
        Conversion.fromHost_eq_of_coerce? coerced]
      cases c.fromHost v <;> rfl

/-- With the claim to its record admitted, a write fails as the conversion does and not otherwise. -/
theorem HostObject.setter?_eq_of_admitted {o : HostObject} (typed : o.descriptor.IsTyped)
    (isRecord : o.descriptor.isDictionary = false) {a : Accessor} {rest : List Accessor} {key : String}
    (found : o.accessors name = a :: rest) (writes : a.writes = some (key, c)) {h : HostStore}
    (admitted : h.checkClaim o = .ok ()) : o.setter? name v h = Setter.toEntry o key c v := by
  rw [setter?_eq_of_isTyped v typed isRecord found writes, admitted]
  cases coerced : v.coerce? c.hostType with
  | none =>
    rw [HostValue.coerceOrMismatch_eq_error coerced, Setter.toEntry,
      Conversion.fromHost_eq_of_coerce?_eq_none coerced]
    rfl
  | some v' =>
    rw [HostValue.coerceOrMismatch_eq_ok coerced]
    rfl

theorem Surface.setter?_eq_of_isTyped {s : Surface} (typed : s.descriptor.IsTyped)
    (compiled : s.members = compile s.descriptor) {a : StaticAccessor} {cell : Nat}
    (found : s.member name = some (.field a) ∨ s.member name = some (.property a))
    (writes : a.writes = some (cell, c)) : s.setter? name v = Setter.toCell cell c v := by
  have type_eq : a.type = c.hostType := isTyped_of_member typed compiled found cell c writes
  have setter_eq : s.setter? name v = do
      let v ← v.coerceOrMismatch c.hostType
      return some (.cell cell (← c.convert v)) := by
    cases found with
    | inl found | inr found => simp only [setter?, found, writes, type_eq]
  rw [setter_eq, Setter.toCell]
  cases coerced : v.coerce? c.hostType with
  | none =>
    rw [HostValue.coerceOrMismatch_eq_error coerced, Conversion.fromHost_eq_of_coerce?_eq_none coerced]
    rfl
  | some v' =>
    rw [HostValue.coerceOrMismatch_eq_ok coerced, Except.ok_bind, Conversion.convert,
      Conversion.fromHost_eq_of_coerce? coerced]
    cases c.fromHost v <;> rfl

end Writes

/-- For every representation and value, coercing to the declared type first changes nothing: what is read
    from a coerced value is what is read from the value itself, coercing again leaves it alone, and where
    coercion fails, reading fails with the mismatch that a write reports.  So the two looks that a member
    write takes end as the one reading does.  Only if the object's record may not be written now does an
    object's write fail for that, once the value has passed coercion. -/
theorem coercing_first_changes_nothing :
    (∀ (c : Conversion) (v : HostValue),
      (∀ v', v.coerce? c.hostType = some v' →
        c.fromHost v' = c.fromHost v ∧ v'.coerce? c.hostType = some v') ∧
      (v.coerce? c.hostType = none →
        c.fromHost v = .error (.typeMismatch c.hostType.name v.typeName) ∧
          v.coerceOrMismatch c.hostType = .error (.typeMismatch c.hostType.name v.typeName))) ∧
    (∀ (o : HostObject) (name key : String) (a : Accessor) (rest : List Accessor) (c : Conversion)
        (v : HostValue) (w : World), o.descriptor.IsDeclared → o.descriptor.isDictionary = false →
      o.accessors name = a :: rest → a.writes = some (key, c) →
      (w.host.checkClaim o = .ok () →
        (o.writeMember name v).run w = Setter.finish w (Setter.toEntry o key c v)) ∧
      ∀ e, w.host.checkClaim o = .error e →
        (o.writeMember name v).run w =
          Setter.finish w (v.coerceOrMismatch c.hostType >>= fun _ => .error e)) ∧
    ∀ (s : Surface) (name : String) (a : StaticAccessor) (cell : Nat) (c : Conversion) (v : HostValue)
        (w : World), s.descriptor.IsDeclared → s.members = Surface.compile s.descriptor →
      (s.member name = some (.field a) ∨ s.member name = some (.property a)) →
      a.writes = some (cell, c) →
      (s.writeMember name v).run w = Setter.finish w (Setter.toCell cell c v) := by
  refine ⟨fun c v => ⟨fun v' coerced => ?_, fun refused => ?_⟩, ?_, ?_⟩
  · exact ⟨Conversion.fromHost_eq_of_coerce? coerced, HostValue.coerce?_again coerced⟩
  · exact ⟨Conversion.fromHost_eq_of_coerce?_eq_none refused,
      HostValue.coerceOrMismatch_eq_error refused⟩
  · intro o name key a rest c v w declared isRecord found writes
    rw [o.run_writeMember]
    -- The claim on the record comes between the two looks at the value.
    refine ⟨fun admitted => ?_, fun e refused => ?_⟩
    · rw [HostObject.setter?_eq_of_admitted v declared.isTyped isRecord found writes admitted]
    · rw [HostObject.setter?_eq_of_isTyped v declared.isTyped isRecord found writes, refused]
      rfl
  · intro s name a cell c v w declared compiled found writes
    rw [s.run_writeMember, Surface.setter?_eq_of_isTyped v declared.isTyped compiled found writes]

/-- A gauge whose level is a byte, as is the limit of all gauges. -/
def limitedGauge : TypeSpec :=
  ⟨⟨"Gauge", .plain⟩, "Gauge", [.field "Level" (.int .u8), .staticField "Limit" (.int .u8) (.int 9)]⟩

/-- One gauge, which nobody has borrowed. -/
def limitedGaugeWorld : World :=
  World.openSession {} (.start 1)
    (limitedGauge.build (HostStore.empty.newRecord (.blank limitedGauge.type)).2).2

/-- The level is set from a text to the number that the text says, and the limit refuses what is past a
    byte, as the conversion to a byte does. -/
theorem coercing_first_changes_nothing_of_gauge :
    let d := (limitedGauge.build (HostStore.empty.newRecord (.blank limitedGauge.type)).2).1
    let level := (HostObject.writeMember ⟨0, d⟩ "Level" (.str "7")).run limitedGaugeWorld
    let limit := ((Surface.build 1 d).writeMember "Limit" (.int 300)).run limitedGaugeWorld
    level = Setter.finish limitedGaugeWorld (.ok (some (.entry ⟨0, d⟩ "Level" (.int 7)))) ∧
      limit = (.failure (.error (.typeMismatch "u8" "300")), limitedGaugeWorld) := by
  intro d level limit
  have declared : d.IsDeclared := ⟨limitedGauge, _, 0, rfl⟩
  obtain ⟨-, objects, surfaces⟩ := coercing_first_changes_nothing
  have level_eq := (objects ⟨0, d⟩ "Level" "Level" _ [] (.int .u8) (.str "7") limitedGaugeWorld declared rfl
    rfl rfl).1 rfl
  have limit_eq := surfaces (Surface.build 1 d) "Limit" _ 0 (.int .u8) (.int 300) limitedGaugeWorld declared
    rfl (.inl rfl) rfl
  exact ⟨level_eq.trans rfl, limit_eq.trans rfl⟩

end ScriptHost
