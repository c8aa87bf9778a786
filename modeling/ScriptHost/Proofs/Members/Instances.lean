import ScriptHost.Proofs.Members.Conversions
/-!
# What the directory says of an instance's members

Three lookups decide what becomes of a member of an instance.  The directory lists the first kind that a
name was declared as, a field before a property before a method.  A read takes the first accessor that has
a getter, and a write the first accessor, whatever it has.

They could disagree where a field without a getter hides a property with one, but no builder makes such a
field.  So the directory predicts how every access ends (`instance_directory_predicts_access`).
-/

namespace ScriptHost

open World

namespace MemberKind

def isAccessor : MemberKind → Bool
  | field .. | property .. => true
  | method _ | constructor _ => false

def isReadable : MemberKind → Bool
  | field isReadable _ | property isReadable _ => isReadable
  | method _ | constructor _ => false

def isWritable : MemberKind → Bool
  | field _ isWritable | property _ isWritable => isWritable
  | method _ | constructor _ => false

variable {kind : Option MemberKind}

theorem isAccessor_of_isReadable (readable : kind.any isReadable = true) : kind.any isAccessor = true := by
  rcases kind with _ | (_ | _ | _ | _) <;> first | rfl | cases readable

theorem isAccessor_of_isWritable (writable : kind.any isWritable = true) : kind.any isAccessor = true := by
  rcases kind with _ | (_ | _ | _ | _) <;> first | rfl | cases writable

end MemberKind

/-! ## What builders declare -/

/-- Every accessor is one for the entry of its own name, and every field can be read. -/
structure TypeDescriptor.HasOwnEntries (d : TypeDescriptor) : Prop where
  fields : ∀ {name a}, d.fields.get? name = some a → ∃ c, a = TypeBuilder.accessor name true c
  properties : ∀ {name a}, d.properties.get? name = some a →
    ∃ isReadable c, a = TypeBuilder.accessor name isReadable c

namespace TypeBuilder

variable {b : TypeBuilder} (owned : b.descriptor.HasOwnEntries) (name : String)

include owned

theorem hasOwnEntries_addField (c : Option Conversion) :
    (b.addField name (accessor name true c)).descriptor.HasOwnEntries where
  fields {name' a} found := by
    simp only [addField, Dict.get?_insert] at found
    split at found
    · rename_i same
      cases found
      exact ⟨c, by rw [same]⟩
    · exact owned.fields found
  properties := owned.properties

theorem hasOwnEntries_addProperty (isReadable : Bool) (c : Option Conversion) :
    (b.addProperty name (accessor name isReadable c)).descriptor.HasOwnEntries where
  fields := owned.fields
  properties {name' a} found := by
    simp only [addProperty, Dict.get?_insert] at found
    split at found
    · rename_i same
      cases found
      exact ⟨isReadable, c, by rw [same]⟩
    · exact owned.properties found

omit name in
theorem hasOwnEntries_apply (m : MemberSpec) (h : HostStore) : (m.apply b h).1.descriptor.HasOwnEntries := by
  cases m with
  | field name c => exact hasOwnEntries_addField owned name _
  | readonlyField name => exact hasOwnEntries_addField owned name _
  | property name c => exact hasOwnEntries_addProperty owned name true _
  | readonlyProperty name => exact hasOwnEntries_addProperty owned name true _
  | writeonlyProperty name c => exact hasOwnEntries_addProperty owned name false _
  | _ => exact ⟨owned.fields, owned.properties⟩

end TypeBuilder

namespace TypeSpec

variable (s : TypeSpec) (h : HostStore)

theorem hasOwnEntries_build : (s.build h).1.HasOwnEntries := by
  have blank : (TypeBuilder.start s.name s.type).descriptor.HasOwnEntries :=
    ⟨fun found => (by cases found), fun found => (by cases found)⟩
  have owned : (s.builder h).1.descriptor.HasOwnEntries :=
    s.builder_keeps (p := fun b => b.descriptor.HasOwnEntries) h blank fun m _ _ h owned =>
      TypeBuilder.hasOwnEntries_apply owned m h
  show (s.builder h).1.build.HasOwnEntries
  rw [TypeBuilder.build]
  split
  · exact ⟨owned.fields, owned.properties⟩
  · exact owned

/-- No overload of a name is there if none was declared. -/
theorem methods_build {name : String} (undeclared : ∀ m, .method name m ∉ s.members) :
    (s.build h).1.methods.get? name = none := by
  have none_added : (s.builder h).1.descriptor.methods.get? name = none := by
    refine s.builder_keeps (p := fun b => b.descriptor.methods.get? name = none) h rfl fun m member b h absent => ?_
    cases m with
    | method added m =>
      have other : added ≠ name := fun same => undeclared m (same ▸ member)
      simp [MemberSpec.apply, TypeBuilder.method, Dict.alter, other, absent]
    | _ => exact absent
  show (s.builder h).1.build.methods.get? name = none
  rw [TypeBuilder.build]
  split <;> exact none_added

end TypeSpec

/-! ## Failing conversions -/

namespace HostValue

theorem mismatch_of_coerce {v : HostValue} {t : HostType} {e : BridgeError}
    (failed : v.coerceOrMismatch t = .error e) : ∃ expected actual, e = .typeMismatch expected actual := by
  rw [coerceOrMismatch] at failed
  split at failed
  · cases failed
  · cases failed
    exact ⟨_, _, rfl⟩

end HostValue

namespace Conversion

/-- Contents are read off a coerced value; whatever is refused is a mismatch. -/
theorem mismatch_of_coerced {α : Type} {v : HostValue} {t : HostType} {f : HostValue → Except BridgeError α}
    (refused : ∀ v e, f v = .error e → ∃ expected actual, e = .typeMismatch expected actual) {e : BridgeError}
    (failed : (v.coerceOrMismatch t >>= f) = .error e) : ∃ expected actual, e = .typeMismatch expected actual := by
  cases coerced : v.coerceOrMismatch t with
  | error e' =>
    rw [coerced] at failed
    cases failed
    exact HostValue.mismatch_of_coerce coerced
  | ok v' =>
    rw [coerced] at failed
    exact refused v' e failed

theorem mismatch_of_floatFromHost {v : HostValue} {e : BridgeError} (failed : floatFromHost v = .error e) :
    ∃ expected actual, e = .typeMismatch expected actual := by
  refine mismatch_of_coerced (fun v e refused => ?_) failed
  cases v <;> cases refused <;> exact ⟨_, _, rfl⟩

theorem mismatch_of_intFromHost {k : IntKind} {v : HostValue} {e : BridgeError}
    (failed : intFromHost k v = .error e) : ∃ expected actual, e = .typeMismatch expected actual := by
  refine mismatch_of_coerced (fun v e refused => ?_) failed
  cases v with
  | int n =>
    simp only [IntKind.narrow] at refused
    split at refused <;> cases refused
    exact ⟨_, _, rfl⟩
  | _ =>
    cases refused
    exact ⟨_, _, rfl⟩

/-- Whatever cannot be read as contents of a representation does not fit it. -/
theorem mismatch_of_fromHost {c : Conversion} {v : HostValue} {e : BridgeError}
    (failed : c.fromHost v = .error e) : ∃ expected actual, e = .typeMismatch expected actual := by
  -- By induction on the representation, of which only an optional one contains another.
  induction c with
  | int k => exact mismatch_of_intFromHost failed
  | single =>
    cases read : floatFromHost v with
    | ok x => simp [fromHost, read, Except.map] at failed
    | error e' =>
      simp only [fromHost, read, Except.map, Except.error.injEq] at failed
      exact failed ▸ mismatch_of_floatFromHost read
  | double => exact mismatch_of_floatFromHost failed
  | bool | text =>
    refine mismatch_of_coerced (fun v e refused => ?_) failed
    cases v <;> cases refused <;> exact ⟨_, _, rfl⟩
  | value => cases failed
  | object | function => cases v <;> cases failed <;> exact ⟨_, _, rfl⟩
  | optional c ih =>
    rw [fromHost] at failed
    split at failed
    · cases failed
    · cases read : c.fromHost v with
      | ok x => simp [read, Except.map] at failed
      | error e' =>
        simp only [read, Except.map, Except.error.injEq] at failed
        rw [failed] at read
        exact ih read

/-- So a write that gets as far as its setter fails with a mismatch, if at all. -/
theorem mismatch_of_convert {c : Conversion} {v : HostValue} {t : HostType} {e : BridgeError}
    (failed : (v.coerceOrMismatch t >>= c.convert) = .error e) :
    ∃ expected actual, e = .typeMismatch expected actual := by
  refine mismatch_of_coerced (fun v e refused => ?_) failed
  rw [convert] at refused
  cases read : c.fromHost v with
  | ok x => simp [read, Except.map] at refused
  | error e' =>
    simp only [read, Except.map, Except.error.injEq] at refused
    exact refused ▸ mismatch_of_fromHost read

end Conversion

/-! ## Listed members -/

/-- What a name is listed as fits the accessors that it stands for. -/
inductive HostObject.Lists (o : HostObject) (name : String) : Option MemberKind → Prop where
  /-- The first accessor is the one that is listed, and the only one unless it can be read. -/
  | accessor {kind : MemberKind} {isReadable : Bool} {c : Option Conversion} {rest : List Accessor}
    (listed : kind = .field isReadable c.isSome ∨ kind = .property isReadable c.isSome)
    (accessors : o.accessors name = TypeBuilder.accessor name isReadable c :: rest)
    (last : isReadable = true ∨ rest = []) : Lists o name (some kind)
  | other {kind : Option MemberKind} (listed : kind.any MemberKind.isAccessor = false)
    (accessors : o.accessors name = []) : Lists o name kind

section Access

variable {o : HostObject} {name : String} {kind : Option MemberKind} {w : World}

theorem HostObject.lists_member (owned : o.descriptor.HasOwnEntries) (name : String) :
    o.Lists name (o.descriptor.member name) := by
  have accessors : o.accessors name =
      (o.descriptor.fields.get? name).toList ++ (o.descriptor.properties.get? name).toList := rfl
  have reads (isReadable : Bool) (c : Option Conversion) :
      (TypeBuilder.accessor name isReadable c).reads.isSome = isReadable := by cases isReadable <;> rfl
  have writes (isReadable : Bool) (c : Option Conversion) :
      (TypeBuilder.accessor name isReadable c).writes.isSome = c.isSome := Option.isSome_map
  rw [TypeDescriptor.member]
  cases field : o.descriptor.fields.get? name with
  | some a =>
    obtain ⟨c, rfl⟩ := owned.fields field
    rw [field] at accessors
    -- A property of the same name comes second, which makes no difference as every field can be read.
    exact .accessor (.inl (by rw [reads, writes])) accessors (.inl rfl)
  | none =>
    cases property : o.descriptor.properties.get? name with
    | some a =>
      obtain ⟨isReadable, c, rfl⟩ := owned.properties property
      rw [field, property] at accessors
      exact .accessor (.inr (by rw [reads, writes])) accessors (.inr rfl)
    | none =>
      rw [field, property] at accessors
      refine .other ?_ accessors
      cases o.descriptor.methods.get? name <;> rfl

variable (isRecord : o.descriptor.isDictionary = false) (lists : o.Lists name kind)

include isRecord lists

/-- A member that is listed as readable is the entry of its name, and any other can only be called. -/
theorem HostObject.run_readMember_of_lists (free : (w.host.record o.record).borrow = .free) :
    (o.readMember name).run w =
      (.value (if kind.any MemberKind.isReadable then .value ((w.host.record o.record).read name)
        else .callable name), w) := by
  have entry : (Bridge.readEntry o name).run w = (.value ((w.host.record o.record).read name), w) := by
    simp [Bridge.readEntry, Bridge.checkBorrow, free, Borrow.admit?, Borrow.share?]
  cases lists with
  | @accessor kind isReadable c rest listed accessors last =>
    have listed_eq : (some kind).any MemberKind.isReadable = isReadable := by
      rcases listed with rfl | rfl <;> rfl
    rw [listed_eq]
    cases isReadable with
    | true => simp [readMember, isRecord, accessors, TypeBuilder.accessor, entry]
    | false =>
      -- Only a property cannot be read, and none comes after it.
      obtain rfl : rest = [] := last.resolve_left (by simp)
      simp [readMember, isRecord, accessors, TypeBuilder.accessor]
  | other listed accessors =>
    have listed_eq : kind.any MemberKind.isReadable = false := Bool.eq_false_iff.2 fun readable => by
      rw [MemberKind.isAccessor_of_isReadable readable] at listed
      cases listed
    simp [readMember, isRecord, accessors, listed_eq]

/-- A write to a member that is listed as writable coerces the value and runs the setter; one to another
    accessor fails, and any other one is ignored. -/
theorem HostObject.run_writeMember_of_lists (free : (w.host.record o.record).borrow = .free) :
    (kind.any MemberKind.isWritable = true → ∃ a c, (o.accessors name).head? = some a ∧
      a.writes = some (name, c) ∧ ∀ v, (o.writeMember name v).run w = Setter.finish w
        ((v.coerceOrMismatch a.type >>= c.convert).map fun stored => some (.entry o name stored))) ∧
    (kind.any MemberKind.isAccessor = true → kind.any MemberKind.isWritable = false → ∀ v,
      (o.writeMember name v).run w = (.failure (.error (.readOnlyMemberWrite name)), w)) ∧
    (kind.any MemberKind.isAccessor = false → ∀ v, (o.writeMember name v).run w = (.value .ignored, w)) := by
  have admitted : w.host.checkClaim o = .ok () := by
    simp [HostStore.checkClaim, free, Borrow.admit?, Borrow.claim?]
  -- The first accessor is the one that a write looks up, and what it can do is how the name is listed.
  cases lists with
  | @accessor kind isReadable c rest listed accessors last =>
    have isAccessor : (some kind).any MemberKind.isAccessor = true := by
      rcases listed with rfl | rfl <;> rfl
    have isWritable : (some kind).any MemberKind.isWritable = c.isSome := by
      rcases listed with rfl | rfl <;> rfl
    rw [isAccessor, isWritable]
    refine ⟨fun writable => ?_, fun _ readOnly v => ?_, fun absurd => by cases absurd⟩
    · obtain ⟨c, rfl⟩ := Option.isSome_iff_exists.1 writable
      refine ⟨_, c, congrArg List.head? accessors, rfl, fun v => ?_⟩
      rw [o.run_writeMember, setter?, isRecord, accessors]
      simp only [TypeBuilder.accessor, Option.map_some, Bool.false_eq_true, if_false, Option.getD_some, admitted]
      cases v.coerceOrMismatch c.hostType with
      | error e => rfl
      | ok v =>
        simp only [Except.ok_bind]
        cases c.convert v <;> rfl
    · obtain rfl := Option.not_isSome_iff_eq_none.1 (Bool.eq_false_iff.1 readOnly)
      rw [o.run_writeMember, setter?, isRecord, accessors]
      rfl
  | other listed accessors =>
    refine ⟨fun writable => ?_, fun isAccessor => ?_, fun _ v => ?_⟩
    · rw [MemberKind.isAccessor_of_isWritable writable] at listed
      cases listed
    · rw [listed] at isAccessor
      cases isAccessor
    · rw [o.run_writeMember, setter?, isRecord, accessors]
      rfl

end Access

/-- What runs a setter ends well or with a mismatch. -/
theorem Setter.finish_cases (w : World) (o : HostObject) (key : String) (t : HostType) (c : Conversion)
    (v : HostValue) :
    let outcome := (finish w ((v.coerceOrMismatch t >>= c.convert).map fun stored =>
      some (.entry o key stored))).1
    outcome = .value .assigned ∨ ∃ expected actual,
      outcome = .failure (.error (.typeMismatch expected actual)) := by
  cases read : v.coerceOrMismatch t >>= c.convert with
  | ok x => exact .inl rfl
  | error e =>
    obtain ⟨expected, actual, rfl⟩ := Conversion.mismatch_of_convert read
    exact .inr ⟨expected, actual, rfl⟩

/-- Whatever is declared of a type that is no dictionary, in whatever order and however often, and whatever
    its instance holds, as long as it is not borrowed: a read gives the entry that a name stands for exactly
    if the directory lists the name as a readable field or property, and else the callable of that name; a
    write coerces and sets the entry, or fails with a mismatch, exactly if it is listed as a writable one,
    fails exactly if it is listed as one that is not writable, and is ignored exactly if it is listed as
    neither.  A call of a name without overloads always fails. -/
theorem instance_directory_predicts_access (spec : TypeSpec) (h : HostStore) (tag : UInt32) {o : HostObject}
    (described : o.descriptor = { (spec.build h).1 with tag }) (isRecord : o.descriptor.isDictionary = false)
    {w : World} (free : (w.host.record o.record).borrow = .free) (name : String) :
    let kind := o.descriptor.member name
    ((o.readMember name).run w =
        (.value (if kind.any MemberKind.isReadable then .value ((w.host.record o.record).read name)
          else .callable name), w)) ∧
      (kind.any MemberKind.isWritable = true → ∃ a c, (o.accessors name).head? = some a ∧
        a.writes = some (name, c) ∧ ∀ v, (o.writeMember name v).run w = Setter.finish w
          ((v.coerceOrMismatch a.type >>= c.convert).map fun stored => some (.entry o name stored))) ∧
      (∀ v, let outcome := ((o.writeMember name v).run w).1
        ((outcome = .value .assigned ∨ ∃ expected actual,
            outcome = .failure (.error (.typeMismatch expected actual))) ↔
          kind.any MemberKind.isWritable = true) ∧
        (outcome = .failure (.error (.readOnlyMemberWrite name)) ↔
          kind.any MemberKind.isAccessor = true ∧ kind.any MemberKind.isWritable = false) ∧
        (outcome = .value .ignored ↔ kind.any MemberKind.isAccessor = false)) ∧
      ((∀ m, .method name m ∉ spec.members) → ∀ c args, (o.invokeMember c name args).run w =
        (.failure (.error (.noMatchingOverload name args.length)), w)) := by
  intro kind
  have owned : o.descriptor.HasOwnEntries := by
    rw [described]
    exact ⟨(spec.hasOwnEntries_build h).fields, (spec.hasOwnEntries_build h).properties⟩
  have lists := HostObject.lists_member owned name
  obtain ⟨writes, refuses, ignores⟩ := HostObject.run_writeMember_of_lists isRecord lists free
  refine ⟨HostObject.run_readMember_of_lists isRecord lists free, writes, fun v => ?_, fun undeclared c args => ?_⟩
  · -- The three endings exclude each other, so it is enough to say which of them each listing leads to.
    cases writable : kind.any MemberKind.isWritable with
    | true =>
      obtain ⟨a, c, -, -, ran⟩ := writes writable
      have isAccessor := MemberKind.isAccessor_of_isWritable writable
      rw [ran]
      rcases Setter.finish_cases w o name a.type c v with ended | ⟨expected, actual, ended⟩ <;>
        simp [ended, isAccessor]
    | false =>
      cases isAccessor : kind.any MemberKind.isAccessor with
      | true => simp [refuses isAccessor writable v]
      | false => simp [ignores isAccessor v]
  · have absent : o.descriptor.methods.get? name = none := by
      rw [described]
      exact spec.methods_build h undeclared
    simp only [HostObject.invokeMember, absent, Bridge.run_fail]

/-- A gauge with names that were declared more than once: as a property that can only be written and a
    method, as a field that can only be read and a property, and as a method. -/
def layeredGauge : TypeSpec :=
  ⟨⟨"Gauge", .plain⟩, "Gauge",
    [.method "Level" ⟨⟨[], true⟩, false, .literal .nil⟩, .writeonlyProperty "Level" (.int .u8),
      .property "Limit" (.int .u8), .readonlyField "Limit", .method "Reset" ⟨⟨[], false⟩, false, .literal .nil⟩]⟩

/-- The first is read as a method and set, the second can be read but not set, and the third ignores writes. -/
theorem instance_directory_predicts_access_of_layers :
    let d := (layeredGauge.build (HostStore.empty.newRecord (.blank layeredGauge.type)).2).1
    let w : World := World.openSession {} (.start 1) (HostStore.empty.newRecord (.blank layeredGauge.type)).2
    (HostObject.readMember ⟨0, d⟩ "Level").run w = (.value (.callable "Level"), w) ∧
      (((HostObject.writeMember ⟨0, d⟩ "Level" (.str "7")).run w).1 = .value .assigned ∨
        ∃ expected actual, ((HostObject.writeMember ⟨0, d⟩ "Level" (.str "7")).run w).1 =
          .failure (.error (.typeMismatch expected actual))) ∧
      (HostObject.readMember ⟨0, d⟩ "Limit").run w = (.value (.value .nil), w) ∧
      ((HostObject.writeMember ⟨0, d⟩ "Limit" (.int 7)).run w).1 =
        .failure (.error (.readOnlyMemberWrite "Limit")) ∧
      ((HostObject.writeMember ⟨0, d⟩ "Reset" (.int 7)).run w).1 = .value .ignored ∧
      (HostObject.invokeMember (callerAt 1) ⟨0, d⟩ "Limit" []).run w =
        (.failure (.error (.noMatchingOverload "Limit" 0)), w) := by
  intro d w
  have predicted (name : String) :=
    instance_directory_predicts_access layeredGauge (HostStore.empty.newRecord (.blank layeredGauge.type)).2 0
      (o := ⟨0, d⟩) rfl rfl (w := w) rfl name
  obtain ⟨level, -, levelWrites, -⟩ := predicted "Level"
  obtain ⟨limit, -, limitWrites, limitCalls⟩ := predicted "Limit"
  obtain ⟨-, -, resetWrites, -⟩ := predicted "Reset"
  have undeclared : ∀ m, .method "Limit" m ∉ layeredGauge.members := by simp [layeredGauge]
  exact ⟨level, (levelWrites _).1.2 rfl, limit, (limitWrites _).2.1.2 ⟨rfl, rfl⟩, (resetWrites _).2.2.2 rfl,
    limitCalls undeclared (callerAt 1) []⟩

end ScriptHost
