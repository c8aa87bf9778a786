import ScriptHost.Bridge.Member
import ScriptHost.Proofs.Host.Selection
import ScriptHost.Proofs.Members.Directory
/-!
# How a construction ends

A call of a type's constructors looks at the number of arguments before it selects one.  What it admits is
what selection goes on to consider: a constructor with as many parameters as arguments, or with one fewer
if the last argument is nil and no constructor accepts all of them (`TypeDescriptor.arityFits_iff`).  So
there are three cases, which exclude each other, and two of them end without any constructor being run
(`construction_classified`).

Which constructors there are is up to the builder: all that were declared, in their order, or the default
one if it is the only one.
-/

namespace ScriptHost

open World

namespace Selection

variable {cands : List (List HostType)} {args given : List HostValue}

/-- The candidate at this place is compared with the arguments: it has as many parameters as those that are
    tried, be it all of them or all but a trailing nil. -/
def ConsideredAt (cands : List (List HostType)) (args : List HostValue) (i : Nat) : Prop :=
  ∃ given params, IsTried cands args given ∧ cands[i]? = some params ∧ given.length = params.length

/-- Some candidate accepts the arguments that are tried. -/
def IsAccepted (cands : List (List HostType)) (args : List HostValue) : Prop :=
  ∃ given i, IsTried cands args given ∧ AcceptedAt cands given i

theorem IsAccepted.considered (accepted : IsAccepted cands args) : ∃ i, ConsideredAt cands args i := by
  obtain ⟨given, i, tried, params, param, accepts⟩ := accepted
  exact ⟨i, given, params, tried, param, accepts.arity⟩

theorem isAccepted_iff (member : String) : IsAccepted cands args ↔ ∃ s, select member cands args = .ok s := by
  constructor
  · rintro ⟨given, i, tried, acceptedAt⟩
    cases selected : select member cands args with
    | ok s => exact ⟨s, rfl⟩
    | error e => exact absurd acceptedAt ((select_eq_error_iff.mp selected).2 given tried i)
  · rintro ⟨s, selected⟩
    obtain ⟨given, tried, isFirst, -⟩ := select_eq_ok_iff.mp selected
    exact ⟨given, s.index, tried, isFirst.1⟩

theorem select_of_not_isAccepted (member : String) (refused : ¬ IsAccepted cands args) :
    select member cands args = .error (.noMatchingOverload member args.length) :=
  select_eq_error fun given tried i acceptedAt => refused ⟨given, i, tried, acceptedAt⟩

/-- A candidate of the right length for all arguments but a trailing nil is considered, unless another one
    accepts all of them; and that one is considered then. -/
theorem considered_withoutNil {params : List HostType} (param : params ∈ cands)
    (trailing : args = given ++ [.nil]) (arity : given.length = params.length) :
    ∃ i, ConsideredAt cands args i := by
  by_cases accepted : ∃ i, AcceptedAt cands args i
  · obtain ⟨i, acceptedAt⟩ := accepted
    exact IsAccepted.considered ⟨args, i, .all, acceptedAt⟩
  · obtain ⟨i, at_index⟩ := List.mem_iff_getElem?.mp param
    exact ⟨i, given, params, .withoutNil given (not_exists.mp accepted) trailing, at_index, arity⟩

end Selection

/-! ## Constructors that are run -/

theorem Action.run_some_eq_failure_iff {α : Type} {a : Bridge α} {w : World} {r : Raised} :
    ((some <$> a).run w).1 = .failure r ↔ (a.run w).1 = .failure r := by
  rw [Action.run_map]
  rcases a.run w with ⟨v | r' | _, w'⟩ <;> simp

/-- Evaluates the entries in order, with no receiver, into a record, which becomes a new instance. -/
def Constructor.make (k : Constructor) (c : Caller) (d : TypeDescriptor) (args : List HostValue) :
    Bridge HostValue := do
  let r ← Expr.evalEntries c ⟨args, .none⟩ (.blank d.type) k.entries
  let record ← onHost (·.newRecord r)
  return .object ⟨record, d⟩

/-- The instance is the newest record, with the descriptor that was at hand. -/
theorem Constructor.instance_of_value {k : Constructor} {c : Caller} {d : TypeDescriptor}
    {args : List HostValue} {w w' : World} {v : Option HostValue}
    (made : (some <$> k.make c d args).run w = (.value v, w')) :
    ∃ record, v = some (.object ⟨record, d⟩) ∧ record + 1 = w'.host.records.size := by
  rw [Action.run_map, make, Action.run_bind] at made
  cases evaluated : (Expr.evalEntries c ⟨args, .none⟩ (.blank d.type) k.entries).run w with
  | mk outcome w₁ =>
    rw [evaluated] at made
    cases outcome with
    | value r =>
      cases made
      exact ⟨w₁.host.records.size, rfl, by simp⟩
    | failure e => cases made
    | exhausted => cases made

namespace TypeDescriptor

variable {d : TypeDescriptor} {args : List HostValue}

theorem arityFits_iff :
    d.arityFits args = true ↔ ∃ i, Selection.ConsideredAt (d.constructors.map Constructor.params) args i := by
  have endsInNil_iff : args.getLast?.any HostValue.isNil = true ↔ ∃ given, args = given ++ [.nil] := by
    simp [Option.any_eq_true, List.getLast?_eq_some_iff, HostValue.isNil_iff]
  simp only [arityFits, List.any_eq_true, Bool.or_eq_true, Bool.and_eq_true, decide_eq_true_eq, endsInNil_iff]
  constructor
  · rintro ⟨k, member, arity | ⟨⟨given, trailing⟩, arity⟩⟩
    · obtain ⟨i, at_index⟩ := List.mem_iff_getElem?.mp (List.mem_map_of_mem (f := Constructor.params) member)
      exact ⟨i, args, k.params, .all, at_index, arity.symm⟩
    · refine Selection.considered_withoutNil (List.mem_map_of_mem member) trailing ?_
      rw [trailing, List.length_append, List.length_singleton] at arity
      omega
  · rintro ⟨i, given, params, tried, at_index, arity⟩
    obtain ⟨k, member, rfl⟩ := List.mem_map.mp (List.mem_of_getElem? at_index)
    refine ⟨k, member, ?_⟩
    cases tried with
    | all => exact .inl arity.symm
    | withoutNil _ _ trailing =>
      refine .inr ⟨⟨given, trailing⟩, ?_⟩
      rw [trailing, List.length_append, List.length_singleton, arity]

/-- The constructor that is selected on the arguments raises the error itself when it is run. -/
def SelectedRaises (d : TypeDescriptor) (c : Caller) (args : List HostValue) (w : World) (e : BridgeError) :
    Prop :=
  ∃ s k, Selection.select constructorName (d.constructors.map Constructor.params) args = .ok s ∧
    d.constructors[s.index]? = some k ∧ ((k.make c d s.args).run w).1 = .failure (.error e)

theorem SelectedRaises.isAccepted {c : Caller} {w : World} {e : BridgeError}
    (raises : d.SelectedRaises c args w e) :
    Selection.IsAccepted (d.constructors.map Constructor.params) args := by
  obtain ⟨s, -, selected, -⟩ := raises
  exact (Selection.isAccepted_iff constructorName).mpr ⟨s, selected⟩

/-- One constructor is run, so what it raises is what is raised. -/
theorem selectedRaises_iff {c : Caller} {w : World} {e : BridgeError} {s : Selection} {k : Constructor}
    (selected : Selection.select constructorName (d.constructors.map Constructor.params) args = .ok s)
    (found : d.constructors[s.index]? = some k) :
    d.SelectedRaises c args w e ↔ ((k.make c d s.args).run w).1 = .failure (.error e) := by
  constructor
  · rintro ⟨s', k', selected', found', raises⟩
    cases selected.symm.trans selected'
    cases found.symm.trans found'
    exact raises
  · exact fun raises => ⟨s, k, selected, found, raises⟩

theorem construct_unconsidered (c : Caller)
    (unconsidered : ¬ ∃ i, Selection.ConsideredAt (d.constructors.map Constructor.params) args i) :
    d.construct c args = Bridge.fail (.constructionFailure d.name args.length) := by
  have misfits : d.arityFits args = false := Bool.eq_false_iff.mpr (mt arityFits_iff.mp unconsidered)
  rw [construct, misfits]
  rfl

theorem construct_refused (c : Caller)
    (considered : ∃ i, Selection.ConsideredAt (d.constructors.map Constructor.params) args i)
    (refused : ¬ Selection.IsAccepted (d.constructors.map Constructor.params) args) :
    d.construct c args = Bridge.fail (.noMatchingOverload constructorName args.length) := by
  dsimp only [construct]
  rw [if_pos (arityFits_iff.mpr considered), Selection.select_of_not_isAccepted constructorName refused]
  rfl

/-- The constructor that is selected is the only one that is run. -/
theorem construct_selected (c : Caller) {s : Selection} {k : Constructor}
    (selected : Selection.select constructorName (d.constructors.map Constructor.params) args = .ok s)
    (found : d.constructors[s.index]? = some k) : d.construct c args = k.make c d s.args := by
  have considered := ((Selection.isAccepted_iff constructorName).mpr ⟨s, selected⟩).considered
  have next {α : Type} (f : Selection → Bridge α) : (Bridge.ofExcept (.ok s) >>= f) = f s := rfl
  dsimp only [construct]
  rw [if_pos (arityFits_iff.mpr considered), selected, next, found]
  rfl

theorem exists_selected (accepted : Selection.IsAccepted (d.constructors.map Constructor.params) args) :
    ∃ s k, Selection.select constructorName (d.constructors.map Constructor.params) args = .ok s ∧
      d.constructors[s.index]? = some k := by
  obtain ⟨s, selected⟩ := (Selection.isAccepted_iff constructorName).mp accepted
  obtain ⟨_, _, _, params, at_index, _⟩ := Selection.select_eq_ok_iff.mp selected
  rw [List.getElem?_map] at at_index
  obtain ⟨k, found, _⟩ := Option.map_eq_some_iff.mp at_index
  exact ⟨s, k, selected, found⟩

/-- Whatever a construction fails with, it is its own error or one that the constructor raises. -/
theorem run_construct_eq_failure_iff (c : Caller) (w : World) (e : BridgeError) :
    let isConsidered := ∃ i, Selection.ConsideredAt (d.constructors.map Constructor.params) args i
    let isAccepted := Selection.IsAccepted (d.constructors.map Constructor.params) args
    ((d.construct c args).run w).1 = .failure (.error e) ↔
      (¬ isConsidered ∧ .constructionFailure d.name args.length = e) ∨
        (isConsidered ∧ ¬ isAccepted ∧ .noMatchingOverload constructorName args.length = e) ∨
        d.SelectedRaises c args w e := by
  intro isConsidered isAccepted
  by_cases accepted : isAccepted
  · obtain ⟨s, k, selected, found⟩ := exists_selected accepted
    have considered : isConsidered := accepted.considered
    simp [accepted, considered, construct_selected c selected found, selectedRaises_iff selected found]
  · have silent : ¬ d.SelectedRaises c args w e := mt SelectedRaises.isAccepted accepted
    by_cases considered : isConsidered
    · simp [accepted, considered, silent, construct_refused c considered accepted, Bridge.fail]
    · simp [considered, silent, construct_unconsidered c considered, Bridge.fail]

end TypeDescriptor

/-- Where there are constructors, a surface has them under their name. -/
theorem Surface.invokeMember_constructorName (number : Nat) {d : TypeDescriptor} (declared : d.constructors ≠ [])
    (c : Caller) (args : List HostValue) :
    (Surface.build number d).invokeMember c constructorName args = some <$> d.construct c args := by
  have member : (Surface.build number d).member constructorName = some .constructor := by
    simp [Surface.build, Surface.member, compile, declared]
  rw [invokeMember, member]
  rfl

/-! ## Constructors that are declared -/

/-- The constructor that is declared, the default one apart. -/
def MemberSpec.constructor? : MemberSpec → Option Constructor
  | constructor k => some k
  | _ => none

def MemberSpec.isDefaultConstructor : MemberSpec → Bool
  | defaultConstructor => true
  | _ => false

namespace TypeSpec

variable (s : TypeSpec)

def explicitConstructors : List Constructor := s.members.filterMap MemberSpec.constructor?

def declaresDefault : Bool := s.members.any MemberSpec.isDefaultConstructor

theorem constructors_builder (h : HostStore) :
    (s.builder h).1.descriptor.constructors = s.explicitConstructors ∧
      (s.builder h).1.defaultConstructor? = if s.declaresDefault then some ⟨[], []⟩ else none := by
  have folded (members : List MemberSpec) (start : TypeBuilder × HostStore) :
      let built := (members.foldl (fun built m => m.apply built.1 built.2) start).1
      built.descriptor.constructors =
          start.1.descriptor.constructors ++ members.filterMap MemberSpec.constructor? ∧
        built.defaultConstructor? = if members.any MemberSpec.isDefaultConstructor then some ⟨[], []⟩
          else start.1.defaultConstructor? := by
    induction members generalizing start with
    | nil => simp
    | cons m rest ih =>
      obtain ⟨constructors, default⟩ := ih (m.apply start.1 start.2)
      rw [List.foldl_cons]
      refine ⟨constructors.trans ?_, default.trans ?_⟩
      · cases m <;> simp [MemberSpec.apply, MemberSpec.constructor?, TypeBuilder.constructor] <;> rfl
      · cases m <;> simp [MemberSpec.apply, MemberSpec.isDefaultConstructor, TypeBuilder.defaultConstructor] <;> rfl
  exact folded s.members _

theorem constructors_build (h : HostStore) : (s.build h).1.constructors =
    if s.explicitConstructors.isEmpty && s.declaresDefault then [⟨[], []⟩] else s.explicitConstructors := by
  obtain ⟨constructors, default⟩ := s.constructors_builder h
  show (s.builder h).1.build.constructors = _
  rw [TypeBuilder.build, constructors, default]
  cases none : s.explicitConstructors.isEmpty with
  | false => simp [constructors]
  | true =>
    have empty := List.isEmpty_iff.mp none
    cases s.declaresDefault <;> simp [empty]

end TypeSpec

/-- A call of the constructors of a surface fails for their arity exactly if no phase of the selection
    considers one of them, it fails for the arguments exactly if some are considered and none accepts, and
    otherwise it goes as the constructor that is selected does, on the coerced arguments.  The two failures
    leave everything as it was, and otherwise either error is only met if that constructor raises it itself.
    The new instance has the descriptor of the surface, whatever types are registered.  The default
    constructor is among the constructors exactly if it was declared, anywhere, and no other was. -/
theorem construction_classified (d : TypeDescriptor) (declared : d.constructors ≠ []) (number : Nat)
    (c : Caller) (args : List HostValue) (w : World) :
    let cands := d.constructors.map Constructor.params
    let isConsidered := ∃ i, Selection.ConsideredAt cands args i
    let isAccepted := Selection.IsAccepted cands args
    let noArity := BridgeError.constructionFailure d.name args.length
    let noMatch := BridgeError.noMatchingOverload constructorName args.length
    let called := ((Surface.build number d).invokeMember c constructorName args).run w
    (¬ isConsidered → called = (.failure (.error noArity), w)) ∧
    (isConsidered → ¬ isAccepted → called = (.failure (.error noMatch), w)) ∧
    (isAccepted → isConsidered ∧ ∃ s k, Selection.select constructorName cands args = .ok s ∧
      d.constructors[s.index]? = some k ∧ called = (some <$> k.make c d s.args).run w) ∧
    (called.1 = .failure (.error noArity) ↔ ¬ isConsidered ∨ d.SelectedRaises c args w noArity) ∧
    (called.1 = .failure (.error noMatch) ↔
      (isConsidered ∧ ¬ isAccepted) ∨ d.SelectedRaises c args w noMatch) ∧
    (∀ v w', called = (.value v, w') →
      ∃ record, v = some (.object ⟨record, d⟩) ∧ record + 1 = w'.host.records.size) ∧
    ∀ (spec : TypeSpec) (h : HostStore), (spec.build h).1.constructors =
      if spec.explicitConstructors.isEmpty && spec.declaresDefault then [⟨[], []⟩]
      else spec.explicitConstructors := by
  intro cands isConsidered isAccepted noArity noMatch called
  have called_eq : called = (some <$> d.construct c args).run w :=
    congrArg (Action.run · w) (Surface.invokeMember_constructorName number declared c args)
  have unconsidered (misfits : ¬ isConsidered) : called = (.failure (.error noArity), w) := by
    rw [called_eq, TypeDescriptor.construct_unconsidered c misfits]
    rfl
  have refused (considered : isConsidered) (unaccepted : ¬ isAccepted) :
      called = (.failure (.error noMatch), w) := by
    rw [called_eq, TypeDescriptor.construct_refused c considered unaccepted]
    rfl
  have chosen (accepted : isAccepted) : ∃ s k, Selection.select constructorName cands args = .ok s ∧
      d.constructors[s.index]? = some k ∧ called = (some <$> k.make c d s.args).run w := by
    obtain ⟨s, k, selected, found⟩ := TypeDescriptor.exists_selected accepted
    rw [called_eq, TypeDescriptor.construct_selected c selected found]
    exact ⟨s, k, selected, found, rfl⟩
  -- The two errors differ, so each is met in its own case or raised by the constructor that was selected.
  have failed_iff (e : BridgeError) : called.1 = .failure (.error e) ↔
      (¬ isConsidered ∧ noArity = e) ∨ (isConsidered ∧ ¬ isAccepted ∧ noMatch = e) ∨
        d.SelectedRaises c args w e := by
    rw [called_eq, Action.run_some_eq_failure_iff]
    exact TypeDescriptor.run_construct_eq_failure_iff c w e
  refine ⟨unconsidered, refused, fun accepted => ⟨accepted.considered, chosen accepted⟩,
    ?_, ?_, fun v w' answered => ?_, fun spec h => spec.constructors_build h⟩
  · simp [failed_iff, noArity, noMatch]
  · simp [failed_iff, noArity, noMatch]
  · by_cases accepted : isAccepted
    · obtain ⟨s, k, -, -, ran⟩ := chosen accepted
      exact Constructor.instance_of_value (ran.symm.trans answered)
    · by_cases considered : isConsidered
      · cases (refused considered accepted).symm.trans answered
      · cases (unconsidered considered).symm.trans answered

/-- A type with a default constructor, which does not count, and two others. -/
def choosyGauge : TypeSpec :=
  ⟨⟨"Gauge", .plain⟩, "Gauge",
    [.defaultConstructor, .constructor ⟨[.bool, .any], []⟩, .constructor ⟨[.int], [("Level", .arg 0)]⟩]⟩

/-- The text of a number and a nil are no truth value and another argument, so the second constructor is
    run on the number, and the instance is one of the surface's own type although another descriptor is
    registered for it by then. -/
theorem construction_classified_of_choosy :
    let d := (choosyGauge.build .empty).1
    let types := (TypeDirectory.empty.register (.blank "Dial" choosyGauge.type)).2
    let w : World := { (default : World) with session := { (default : World).session with types } }
    d.constructors ≠ [] ∧ (w.session.types.lookup d.type).map (·.name) = some "Dial" ∧
      ∃ w', ((Surface.build 0 d).invokeMember (.none Caller.unwatched) constructorName [.str "7", .nil]).run w =
          (.value (some (.object ⟨0, d⟩)), w') ∧
        (w'.host.record 0).read "Level" = .int 7 := by
  intro d types w
  have declared : d.constructors ≠ [] := by
    rw [choosyGauge.constructors_build]
    exact List.cons_ne_nil _ _
  have accepted : Selection.IsAccepted (d.constructors.map Constructor.params) [.str "7", .nil] :=
    (Selection.isAccepted_iff constructorName).mpr ⟨⟨1, [.int 7]⟩, rfl⟩
  obtain ⟨-, -, chosen, -⟩ :=
    construction_classified d declared 0 (.none Caller.unwatched) [.str "7", .nil] w
  obtain ⟨-, s, k, selected, found, called⟩ := chosen accepted
  cases (rfl : Selection.select constructorName (d.constructors.map Constructor.params) [.str "7", .nil] =
    .ok ⟨1, [.int 7]⟩).symm.trans selected
  cases (rfl : d.constructors[1]? = some ⟨[.int], [("Level", .arg 0)]⟩).symm.trans found
  exact ⟨declared, rfl, _, called, rfl⟩

end ScriptHost
