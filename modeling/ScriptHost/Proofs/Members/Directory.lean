import ScriptHost.Host.Builder
/-!
# What a static member is listed as

Two answers are given to what a name stands for on a forwarded type itself.  The directory of the type
looks it up, kind by kind, and takes the first that has it.  The surface is compiled from the same
directory, kind by kind in the same order, but there a later member replaces an earlier one, so the last
kind is seen.  Only the constructors come first in both.

Both know the same names.  Of a name that was declared as members of several kinds they give different
accounts (`static_directory_agrees_iff`).
-/

namespace ScriptHost

/-- The kinds of static members. -/
inductive StaticKind where
  | field
  | property
  | method
  | constructor
  deriving DecidableEq, Repr

def MemberKind.kind : MemberKind → StaticKind
  | field .. => .field
  | property .. => .property
  | method _ => .method
  | constructor _ => .constructor

def SurfaceMember.kind : SurfaceMember → StaticKind
  | field _ => .field
  | property _ => .property
  | method _ => .method
  | constructor => .constructor

namespace StaticKind

/-- The order in which the directory looks for a name. -/
def listed : List StaticKind := [.constructor, .field, .property, .method]

/-- The order in which the members of a name hide each other on a surface. -/
def compiled : List StaticKind := [.constructor, .method, .property, .field]

theorem mem_listed (k : StaticKind) : k ∈ listed := by cases k <;> decide

theorem mem_compiled (k : StaticKind) : k ∈ compiled := by cases k <;> decide

variable (p : StaticKind → Bool)

theorem isSome_find?_listed : (listed.find? p).isSome = (compiled.find? p).isSome := by
  rw [Bool.eq_iff_iff, List.find?_isSome, List.find?_isSome]
  exact exists_congr fun k => and_congr_left fun _ => iff_of_true (mem_listed k) (mem_compiled k)

variable {p}

/-- What comes first in both orders is the only kind, the constructors apart. -/
theorem eq_of_find? (unconstructed : p .constructor = false) {k first : StaticKind}
    (inListed : listed.find? p = some first) (inCompiled : compiled.find? p = some first)
    (found : p k = true) : k = first := by
  rw [listed, List.find?_cons, unconstructed] at inListed
  rw [compiled, List.find?_cons, unconstructed] at inCompiled
  cases k with
  | constructor =>
    rw [unconstructed] at found
    cases found
  | field => simpa [found] using inListed
  | method => simpa [found] using inCompiled
  | property =>
    -- Fields hide properties in one order and methods hide them in the other, so one of the two shows
    -- them unless there are both, and then the orders differ.
    cases field : p .field with
    | false => simpa [field, found] using inListed
    | true =>
      cases method : p .method with
      | false => simpa [method, found] using inCompiled
      | true =>
        have isField : StaticKind.field = first := by simpa [field] using inListed
        have isMethod : StaticKind.method = first := by simpa [method] using inCompiled
        cases isField.trans isMethod.symm

variable (p)

/-- The orders make no difference where the constructors are found, or one kind at the most. -/
theorem find?_listed_eq_iff : listed.find? p = compiled.find? p ↔
    p .constructor = true ∨ ∀ k k', p k = true → p k' = true → k = k' := by
  constructor
  · intro same
    cases constructor : p .constructor with
    | true => exact .inl rfl
    | false =>
      refine .inr fun k k' found found' => ?_
      obtain ⟨first, inListed⟩ := Option.isSome_iff_exists.1 (List.find?_isSome.2 ⟨k, mem_listed k, found⟩)
      have inCompiled := same.symm.trans inListed
      exact (eq_of_find? constructor inListed inCompiled found).trans
        (eq_of_find? constructor inListed inCompiled found').symm
  · rintro (found | unique)
    · simp [listed, compiled, found]
    · have isSome := isSome_find?_listed p
      cases first : listed.find? p with
      | none =>
        rw [first, Option.isSome_none] at isSome
        rw [Option.not_isSome_iff_eq_none.1 (Bool.eq_false_iff.1 isSome.symm)]
      | some k =>
        rw [first] at isSome
        obtain ⟨k', last⟩ := Option.isSome_iff_exists.1 isSome.symm
        rw [last, unique k k' (List.find?_some first) (List.find?_some last)]

end StaticKind

/-! ## Directories and surfaces -/

namespace TypeDescriptor

/-- The directory has a static member of the name and kind. -/
def hasStatic (d : TypeDescriptor) (name : String) : StaticKind → Bool
  | .field => (d.staticFields.get? name).isSome
  | .property => (d.staticProperties.get? name).isSome
  | .method => (d.staticMethods.get? name).isSome
  | .constructor => name = constructorName && !d.constructors.isEmpty

theorem kind_staticMember (d : TypeDescriptor) (name : String) :
    (d.staticMember name).map MemberKind.kind = StaticKind.listed.find? (d.hasStatic name) := by
  by_cases constructs : name = constructorName ∧ ¬ d.constructors.isEmpty
  · simp [staticMember, StaticKind.listed, hasStatic, constructs, MemberKind.kind]
  · have absent : d.hasStatic name .constructor = false := by
      simpa [hasStatic] using constructs
    rw [staticMember, if_neg constructs, StaticKind.listed, List.find?_cons, absent]
    cases field : d.staticFields.get? name with
    | some a => simp [hasStatic, field, MemberKind.kind]
    | none =>
      cases property : d.staticProperties.get? name with
      | some a => simp [hasStatic, field, property, MemberKind.kind]
      | none =>
        cases method : d.staticMethods.get? name <;>
          simp [List.find?, hasStatic, field, property, method, MemberKind.kind]

end TypeDescriptor

namespace Surface

/-- A member that is entered hides what was there under its name. -/
theorem get?_enter {α : Type} (kind : α → SurfaceMember) (source : Dict String α)
    (members : Dict String SurfaceMember) (name : String) :
    (enter kind source members).get? name = ((source.get? name).map kind).or (members.get? name) := by
  obtain ⟨entries⟩ := source
  rw [enter, Dict.toList]
  -- The newest entry is entered last.
  induction entries with
  | nil => rfl
  | cons entry rest ih =>
    rw [List.reverse_cons, List.foldl_append, List.foldl_cons, List.foldl_nil, Dict.get?_insert, ih]
    by_cases here : entry.1 = name
    · simp [Dict.get?, Dict.find, here]
    · simp [Dict.get?, Dict.find, here]

theorem kind_member (number : Nat) (d : TypeDescriptor) (name : String) :
    ((build number d).member name).map SurfaceMember.kind =
      StaticKind.compiled.find? (d.hasStatic name) := by
  have entered : ((enter .method d.staticMethods (enter .property d.staticProperties
      (enter .field d.staticFields .empty))).get? name).map SurfaceMember.kind =
        [StaticKind.method, .property, .field].find? (d.hasStatic name) := by
    simp only [get?_enter, Dict.get?_empty]
    cases method : d.staticMethods.get? name <;> cases property : d.staticProperties.get? name <;>
      cases field : d.staticFields.get? name <;>
        simp [List.find?, TypeDescriptor.hasStatic, method, property, field, SurfaceMember.kind]
  rw [build, member, compile, StaticKind.compiled, List.find?_cons]
  cases none : d.constructors.isEmpty with
  | true => simpa [TypeDescriptor.hasStatic, none] using entered
  | false =>
    by_cases here : name = constructorName
    · simp [TypeDescriptor.hasStatic, none, here, SurfaceMember.kind]
    · simpa [TypeDescriptor.hasStatic, none, here, Ne.symm here] using entered

end Surface

/-! ## Declarations -/

/-- The static member that is declared, by its kind and name. -/
def MemberSpec.static? : MemberSpec → Option (StaticKind × String)
  | staticField name .. | readonlyStaticField name _ | constant name _ => some (.field, name)
  | staticProperty name .. | readonlyStaticProperty name _ => some (.property, name)
  | staticMethod name _ => some (.method, name)
  | constructor _ | defaultConstructor => some (.constructor, constructorName)
  | _ => none

/-- A static member of the name is declared as one of the kind. -/
def TypeSpec.Declares (s : TypeSpec) (kind : StaticKind) (name : String) : Prop :=
  ∃ m ∈ s.members, m.static? = some (kind, name)

instance (s : TypeSpec) (kind : StaticKind) (name : String) : Decidable (s.Declares kind name) :=
  inferInstanceAs (Decidable (∃ m ∈ s.members, m.static? = some (kind, name)))

namespace TypeBuilder

/-- The builder has a static member of the name and kind; a default constructor counts. -/
def hasStatic (b : TypeBuilder) (name : String) : StaticKind → Bool
  | .constructor => name = constructorName &&
      (!b.descriptor.constructors.isEmpty || b.defaultConstructor?.isSome)
  | kind => b.descriptor.hasStatic name kind

theorem hasStatic_build (b : TypeBuilder) (name : String) : b.build.hasStatic name = b.hasStatic name := by
  funext kind
  rw [build]
  cases implicit : b.descriptor.constructors.isEmpty with
  | false => cases kind <;> simp [implicit, hasStatic, TypeDescriptor.hasStatic]
  | true =>
    cases kind <;> simp [implicit, hasStatic, TypeDescriptor.hasStatic]
    cases b.defaultConstructor? <;> simp

variable (b : TypeBuilder) (added name : String) (kind : StaticKind)

theorem hasStatic_addStaticField (a : StaticAccessor) :
    (b.addStaticField added a).hasStatic name kind =
      (b.hasStatic name kind || some (StaticKind.field, added) = some (kind, name)) := by
  by_cases same : added = name <;> cases kind <;>
    simp [hasStatic, TypeDescriptor.hasStatic, addStaticField, same]

theorem hasStatic_addStaticProperty (a : StaticAccessor) :
    (b.addStaticProperty added a).hasStatic name kind =
      (b.hasStatic name kind || some (StaticKind.property, added) = some (kind, name)) := by
  by_cases same : added = name <;> cases kind <;>
    simp [hasStatic, TypeDescriptor.hasStatic, addStaticProperty, same]

theorem hasStatic_staticMethod (m : StaticMethod) :
    (b.staticMethod added m).hasStatic name kind =
      (b.hasStatic name kind || some (StaticKind.method, added) = some (kind, name)) := by
  by_cases same : added = name <;> cases kind <;>
    simp [hasStatic, TypeDescriptor.hasStatic, staticMethod, Dict.alter, same]

theorem hasStatic_constructor (k : Constructor) :
    (b.constructor k).hasStatic name kind =
      (b.hasStatic name kind || some (StaticKind.constructor, constructorName) = some (kind, name)) := by
  by_cases same : constructorName = name <;> cases kind <;>
    simp [hasStatic, TypeDescriptor.hasStatic, constructor, same, eq_comm (a := name)]

theorem hasStatic_defaultConstructor :
    b.defaultConstructor.hasStatic name kind =
      (b.hasStatic name kind || some (StaticKind.constructor, constructorName) = some (kind, name)) := by
  by_cases same : constructorName = name <;> cases kind <;>
    simp [hasStatic, TypeDescriptor.hasStatic, defaultConstructor, same, eq_comm (a := name)]

/-- A declaration adds the static member that it declares, if any, and takes none away. -/
theorem hasStatic_apply (m : MemberSpec) (h : HostStore) : (m.apply b h).1.hasStatic name kind =
    (b.hasStatic name kind || m.static? = some (kind, name)) := by
  cases m with
  | staticField | readonlyStaticField | constant => exact b.hasStatic_addStaticField _ name kind _
  | staticProperty | readonlyStaticProperty => exact b.hasStatic_addStaticProperty _ name kind _
  | staticMethod added m => exact b.hasStatic_staticMethod added name kind m
  | constructor k => exact b.hasStatic_constructor name kind k
  | defaultConstructor => exact b.hasStatic_defaultConstructor name kind
  | _ =>
    show _ = (b.hasStatic name kind || false)
    rw [Bool.or_false]
    cases kind <;> rfl

end TypeBuilder

namespace TypeSpec

/-- What holds of a builder at the start and is kept by each of the declarations holds of it at the end. -/
theorem builder_keeps {p : TypeBuilder → Prop} (s : TypeSpec) (h : HostStore) (start : p (.start s.name s.type))
    (kept : ∀ m ∈ s.members, ∀ b h, p b → p (m.apply b h).1) : p (s.builder h).1 := by
  have folded (members : List MemberSpec) (among : ∀ m ∈ members, m ∈ s.members)
      (built : TypeBuilder × HostStore) (holds : p built.1) :
      p (members.foldl (fun built m => m.apply built.1 built.2) built).1 := by
    induction members generalizing built with
    | nil => exact holds
    | cons m rest ih =>
      have next := kept m (among m List.mem_cons_self) built.1 built.2 holds
      exact ih (fun m later => among m (List.mem_cons_of_mem _ later)) _ next
  exact folded s.members (fun _ member => member) _ start

/-- What is built has the static members that were declared. -/
theorem hasStatic_build (s : TypeSpec) (h : HostStore) (name : String) (kind : StaticKind) :
    (s.build h).1.hasStatic name kind = decide (s.Declares kind name) := by
  have folded (members : List MemberSpec) (start : TypeBuilder × HostStore) :
      (members.foldl (fun built m => m.apply built.1 built.2) start).1.hasStatic name kind =
        (start.1.hasStatic name kind || decide (∃ m ∈ members, m.static? = some (kind, name))) := by
    induction members generalizing start with
    | nil => simp
    | cons m rest ih =>
      rw [List.foldl_cons, ih, TypeBuilder.hasStatic_apply, Bool.or_assoc]
      simp
  have blank : (TypeBuilder.start s.name s.type).hasStatic name kind = false := by
    cases kind <;> simp [TypeBuilder.hasStatic, TypeDescriptor.hasStatic, TypeBuilder.start,
      TypeDescriptor.blank]
  show (s.builder h).1.build.hasStatic name kind = _
  rw [TypeBuilder.hasStatic_build]
  exact (folded s.members _).trans (by rw [blank, Bool.false_or]; rfl)

end TypeSpec

/-- Whatever is declared of a type, in whatever order, its directory and the surface compiled from it know
    the same static names.  The directory says of a name that it is the first kind that was declared of
    it, the surface that it is the last, but for the constructors.  So they agree on the names of
    constructors and on those of one kind, and on no others. -/
theorem static_directory_agrees_iff (spec : TypeSpec) (h : HostStore) (number : Nat) (name : String) :
    let d := (spec.build h).1
    let listed := (d.staticMember name).map MemberKind.kind
    let compiled := ((Surface.build number d).member name).map SurfaceMember.kind
    listed.isSome = compiled.isSome ∧
      listed = StaticKind.listed.find? (spec.Declares · name) ∧
      compiled = StaticKind.compiled.find? (spec.Declares · name) ∧
      (listed = compiled ↔ spec.Declares .constructor name ∨
        ∀ kind kind', spec.Declares kind name → spec.Declares kind' name → kind = kind') := by
  intro d listed compiled
  have declared : d.hasStatic name = fun kind => decide (spec.Declares kind name) :=
    funext (spec.hasStatic_build h name)
  have listed_eq : listed = StaticKind.listed.find? (spec.Declares · name) := by
    rw [← declared]
    exact d.kind_staticMember name
  have compiled_eq : compiled = StaticKind.compiled.find? (spec.Declares · name) := by
    rw [← declared]
    exact Surface.kind_member number d name
  refine ⟨?_, listed_eq, compiled_eq, ?_⟩
  · rw [listed_eq, compiled_eq, StaticKind.isSome_find?_listed]
  · rw [listed_eq, compiled_eq, StaticKind.find?_listed_eq_iff]
    simp only [decide_eq_true_eq]

/-- A type with a static field and a static method of one name. -/
def ambiguousGauge : TypeSpec :=
  ⟨⟨"Gauge", .plain⟩, "Gauge",
    [.staticField "Level" (.int .i64) (.int 1), .staticMethod "Level" ⟨⟨[], true⟩, .literal .nil⟩]⟩

/-- The directory lists the name as a field, and the surface has the method. -/
theorem static_directory_agrees_iff_of_ambiguous :
    let d := (ambiguousGauge.build .empty).1
    (d.staticMember "Level").map MemberKind.kind = some .field ∧
      ((Surface.build 0 d).member "Level").map SurfaceMember.kind = some .method := by
  obtain ⟨-, listed, compiled, -⟩ := static_directory_agrees_iff ambiguousGauge .empty 0 "Level"
  exact ⟨listed.trans (by decide), compiled.trans (by decide)⟩

end ScriptHost
