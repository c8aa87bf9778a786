import ScriptHost.Proofs.Discipline.Evaluator
import ScriptHost.Proofs.Provenance.Basic
/-!
# Script code keeps to known descriptors

Values of scripts have no descriptors in them, only tokens.  So scripts come to descriptors only through
the native functions that they call, and the walk through calls, metamethods and stack programs passes
nothing on.
-/

namespace ScriptHost

open Yields

/-- What the caller runs keeps to known descriptors; what callables give is known if what they are given
    is. -/
structure Caller.Minds (known : TypeDescriptor → Prop) (c : Caller) : Prop where
  run : ∀ code, KeepsTo known (c.run code)
  render : ∀ i, KeepsTo known (c.render i)
  apply : ∀ f args, (∀ v ∈ args, v.IsFrom known) →
    Yields known (fun result => ∀ v ∈ result, v.IsFrom known) (c.apply f args)
  before : ∀ op, KeepsTo known (c.before op)

namespace Caller.Minds

variable {known : TypeDescriptor → Prop} {c : Caller} (minds : c.Minds known)

include minds

/-! ## Calls and metamethods -/

theorem call (argCount resultCount : Int) (isProtected : Bool) :
    KeepsTo known (Vm.call c argCount resultCount isProtected) := by
  have giveUp (slot : Nat) (e : VmError) :
      KeepsTo known (Vm.giveUp isProtected slot e : Vm Unit) := by
    cases isProtected with
    | true => exact (changeMachine _).seq fun _ _ => failure e
    | false => exact failure e
  refine (askMachine _).seq fun callee _ => ?_
  cases callee with
  | missing e => exact failure e
  | refused slot e => exact giveUp slot e
  | ready slot code =>
    refine (askMachine _).seq fun depth _ => (changeMachine _).seq fun _ _ =>
      (minds.run code).attempt.seq fun outcome _ => (changeMachine _).seq fun _ _ => ?_
    cases outcome with
    | ok claimed => exact changeMachine _
    | error text => exact giveUp slot _

theorem callValue (f : Value) (args : List Value) (resultCount : Nat) :
    KeepsTo known (Vm.callValue c f args resultCount) := by
  refine (askMachine _).seq fun height _ => (changeMachine _).seq fun _ _ =>
    (minds.call _ _ _).attempt.seq fun outcome _ => ?_
  cases outcome with
  | ok _ => exact onMachine _
  | error e => exact (changeMachine _).seq fun _ _ => failure e

theorem index (key : String) (links : Nat) (target : Value) :
    KeepsTo known (Vm.index c key links target) := by
  induction links generalizing target with
  | zero => exact failure _
  | succ links ih =>
    cases target with
    | table address =>
      refine (askMachine _).seq fun field _ => whenTrue _ (value trivial) ?_
      refine (askMachine _).seq fun handler _ => ?_
      cases handler with
      | nil => exact value trivial
      | function name code => exact (minds.callValue _ _ _).seq fun _ _ => value trivial
      | table next => exact ih (.table next)
      | _ => exact failure _
    | _ => exact failure _

theorem newIndex (key : String) (v : Value) (links : Nat) (target : Value) :
    KeepsTo known (Vm.newIndex c key v links target) := by
  induction links generalizing target with
  | zero => exact failure _
  | succ links ih =>
    cases target with
    | table address =>
      refine (askMachine _).seq fun handler _ => ?_
      cases handler with
      | nil => exact changeMachine _
      | function name code => exact (minds.callValue _ _ _).seq fun _ _ => value trivial
      | table next => exact ih (.table next)
      | _ => exact failure _
    | _ => exact failure _

theorem getField (i : Int) (key : String) : KeepsTo known (Vm.getField c i key) :=
  (askMachine _).seq fun _ _ => (ofExcept fun _ _ => trivial).seq fun _ _ => (askMachine _).seq fun _ _ =>
    (minds.index _ _ _).seq fun _ _ => (changeMachine _).seq fun _ _ => value trivial

theorem setField (i : Int) (key : String) : KeepsTo known (Vm.setField c i key) :=
  (askMachine _).seq fun _ _ => (ofExcept fun _ _ => trivial).seq fun _ _ => (askMachine _).seq fun _ _ =>
    (onMachine _).seq fun _ _ => minds.newIndex _ _ _ _

theorem renderTable (i : Int) : KeepsTo known (Vm.renderTable c i) := by
  have dropped (text : Except VmError String) : KeepsTo known
      (do World.changeMachine (·.pop 1); Action.ofExcept text : Vm String) :=
    (changeMachine _).seq fun _ _ => ofExcept fun _ _ => trivial
  have rendered : KeepsTo known (Vm.call c 1 1 true >>= fun _ =>
      (Action.attempt (c.render (-1)) : Vm _) >>= fun text => do
        World.changeMachine (·.pop 1); Action.ofExcept text) :=
    (minds.call _ _ _).seq fun _ _ => (minds.render _).attempt.seq fun text _ => dropped text
  refine (onMachine _).seq fun _ _ => whenTrue _ ((onMachine _).seq fun f _ => whenTrue _ ?_ ?_)
    (value trivial)
  · exact (changeMachine _).seq fun _ _ => rendered.attempt.seq fun text _ => dropped text
  · exact (changeMachine _).seq fun _ _ => value trivial

theorem renderValue (i : Int) : KeepsTo known (Vm.render c i) := by
  refine (askMachine _).seq fun slot _ => (askMachine _).seq fun v _ => ?_
  cases v with
  | table address => exact minds.renderTable slot
  | _ => exact value trivial

theorem display {ε : Type} (i : Int) :
    KeepsTo known (Vm.display c i : Action World ε String) := by
  refine (minds.renderValue i).attempt.seq fun text _ => ?_
  cases text <;> exact value trivial

/-! ## Stack programs -/

omit minds in
theorem handleOf (i : Int) : KeepsTo known (Vm.handleOf i) := by
  refine (askMachine _).seq fun slot _ => (askMachine _).seq fun v _ => ?_
  cases v with
  | table address =>
    refine (onMachine _).seq fun _ _ => whenTrue _ ?_ (value trivial)
    exact (onMachine _).seq fun _ _ => (askMachine _).seq fun _ _ => (changeMachine _).seq fun _ _ =>
      value trivial
  | _ => exact value trivial

omit minds in
theorem readSlot (i : Int) : KeepsTo known (Vm.readSlot i) := by
  refine (askMachine _).seq fun slot _ => (askMachine _).seq fun v _ => ?_
  cases v with
  | light | table =>
    refine (handleOf slot).seq fun token _ => ?_
    cases token <;> exact value trivial
  | _ => exact value trivial

theorem perform (op : Op) : KeepsTo known (op.perform c) := by
  cases op with
  | getField i name => exact (minds.getField i name).seq fun _ _ => value trivial
  | setField i name => exact (minds.setField i name).seq fun _ _ => value trivial
  | call args results => exact (minds.call args results false).seq fun _ _ => value trivial
  | protectedCall args results => exact (minds.call args results true).seq fun _ _ => value trivial
  | setMeta i => exact (tryMachine _).seq fun _ _ => value trivial
  | load chunk source => exact (tryMachine _).seq fun _ _ => value trivial
  | display i => exact (minds.display i).seq fun _ _ => value trivial
  | render i => exact (minds.renderValue i).seq fun _ _ => value trivial
  | readSlot i => exact (readSlot i).seq fun _ _ => value trivial
  | handleOf i => exact (handleOf i).seq fun _ _ => value trivial
  | attempt inner => exact perform inner
  | _ => exact aloof fun _ => ⟨rfl, rfl⟩
termination_by sizeOf op

theorem runOp (isQuiet : Bool) (op : Op) : KeepsTo known (op.run c isQuiet) := by
  -- An operation that is only attempted is not announced itself.
  by_cases attempted : ∃ inner, op = .attempt inner
  · obtain ⟨inner, rfl⟩ := attempted
    rw [Op.run]
    exact (runOp isQuiet inner).attempt.seq fun _ _ => value trivial
  · have direct (inner : Op) : op ≠ .attempt inner := fun same => attempted ⟨inner, same⟩
    have report (name : String) (result : Except VmError OpAnswer) : KeepsTo known (Op.report name result) :=
      aloof fun _ => ⟨rfl, rfl⟩
    have finish (result : Except VmError OpAnswer) :
        KeepsTo known (do let _ ← Action.ofExcept result; return () : Vm Unit) :=
      (ofExcept fun _ _ => trivial).seq fun _ _ => value trivial
    rw [Op.run_eq direct]
    refine Yields.seq ((minds.before op).seq fun _ _ => (minds.perform op).attempt) fun result _ => ?_
    exact whenTrue _ ((report _ _).seq fun _ _ => finish result) (finish result)
termination_by sizeOf op

theorem runOps (isQuiet : Bool) (ops : List Op) : KeepsTo known (Op.runAll c isQuiet ops) := by
  induction ops with
  | nil => exact value trivial
  | cons op ops ih => exact (minds.runOp isQuiet op).seq fun _ _ => ih

theorem runEachOp (ops : List Op) : KeepsTo known (Op.runEach c ops) := by
  induction ops with
  | nil => exact value trivial
  | cons op ops ih => exact (minds.runOp false op).attempt.seq fun _ _ => ih

theorem runProgram (p : Program) : KeepsTo known (p.run c) := by
  obtain ⟨ops, resultCount, failure, isQuiet⟩ := p
  refine Yields.seq (reword _ (minds.runOps isQuiet ops)) fun _ _ => ?_
  cases failure with
  | some text => exact Yields.failure text
  | none => exact (askMachine _).seq fun _ _ => value trivial

end Caller.Minds

end ScriptHost
