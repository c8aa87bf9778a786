import ScriptHost.Proofs.Machine.Isolation
/-!
# Closed machines

Closing drops the state and sets a flag, and what cannot fail goes on as before: values are pushed, and
tables made, in a closed machine too.  So whether a closed machine refuses an operation depends on the
operation looking at the flag.  All that can fail do so before anything else, except the assignment of
a metatable, which goes as in an open machine (`closed_refuses_iff`).
-/

namespace ScriptHost

open World Machine

/-- The operations of the machine that can fail. -/
def Op.IsFallible : Op → Prop
  | .getField .. | .setField .. | .setMeta _ | .call .. | .protectedCall .. | .load .. => True
  | _ => False

/-! ## Staying closed -/

/-- Whatever runs in a closed machine, it stays closed. -/
theorem Op.runEach_stays_closed (depth : Nat) (ops : List Op) {w : World}
    (closed : w.machine.isClosed = true) :
    ((Op.runEach (callerAt depth) ops).run w).2.machine.isClosed = true :=
  ((isolation.covers_watchedCaller depth 0).runEachOp ops).isClosed rfl closed

/-! ## Assigning metatables -/

namespace Machine

/-- The metatable that a value is where one is assigned: a table, or none at all for nil. -/
def asMetatable? : Value → Option (Option Nat)
  | .table metatable => some (some metatable)
  | .nil => some none
  | _ => none

/-- The machine without the topmost value and with another metatable for a table. -/
def withMetatable (m : Machine) (address : Nat) (metatable : Option Nat) : Machine :=
  m.popValue.2.setTable address { m.popValue.2.table address with metatable }

theorem setMetatable_table {m : Machine} {i : Int} {address : Nat} {metatable : Option Nat}
    (target : m.valueAt i = .table address) (value : asMetatable? m.popValue.1 = some metatable) :
    m.setMetatable i = (.ok (), m.withMetatable address metatable) := by
  rw [setMetatable, target, withMetatable]
  rcases popped : m.popValue with ⟨v, m'⟩
  rw [popped] at value
  cases v with
  | table address => cases value; rfl
  | nil => cases value; rfl
  | _ => cases value

theorem setMetatable_refused {m : Machine} {i : Int}
    (refused : ∀ address, m.valueAt i = .table address → asMetatable? m.popValue.1 = none) :
    m.setMetatable i =
      (.error (.typeError ("cannot set a metatable on a " ++ (m.valueAt i).typeName ++ " value")),
        m.popValue.2) := by
  rw [setMetatable]
  rcases popped : m.popValue with ⟨v, m'⟩
  rw [popped] at refused
  cases target : m.valueAt i with
  | table address =>
    have value := refused address target
    cases v with
    | table address => cases value
    | nil => cases value
    | _ => rfl
  | _ => rfl

/-- One of the two cases is at hand. -/
theorem asMetatable?_cases (m : Machine) (i : Int) :
    (∃ address metatable, m.valueAt i = .table address ∧ asMetatable? m.popValue.1 = some metatable) ∨
    (∀ address, m.valueAt i = .table address → asMetatable? m.popValue.1 = none) := by
  cases value : asMetatable? m.popValue.1 with
  | none => exact .inr fun _ _ => rfl
  | some metatable =>
    cases target : m.valueAt i with
    | table address => exact .inl ⟨address, metatable, rfl, rfl⟩
    | _ => exact .inr fun _ isTable => Value.noConfusion isTable

/-- The flag makes no difference. -/
theorem setMetatable_isClosed (m : Machine) (isClosed : Bool) (i : Int) :
    { m with isClosed }.setMetatable i =
      ((m.setMetatable i).1, { (m.setMetatable i).2 with isClosed }) := by
  have target : { m with isClosed }.valueAt i = m.valueAt i := rfl
  have popped : { m with isClosed }.popValue = (m.popValue.1, { m.popValue.2 with isClosed }) := by
    by_cases filled : m.base < m.height
    · have filled' : { m with isClosed }.base < { m with isClosed }.height := filled
      rw [popValue, popValue, if_pos filled, if_pos filled']
    · have empty : ¬ { m with isClosed }.base < { m with isClosed }.height := filled
      rw [popValue, popValue, if_neg filled, if_neg empty]
  rw [setMetatable, setMetatable, target, popped]
  rcases m.popValue with ⟨v, m'⟩
  cases m.valueAt i <;> cases v <;> rfl

end Machine

/-! ## What a closed machine refuses -/

/-- The world with its machine open, whether it was closed or not. -/
def World.opened (w : World) : World := { w with machine := { w.machine with isClosed := false } }

namespace Op

variable {c : Caller} {w : World}

/-- What the answer of the machine is to the one who asked for an operation that answers nothing. -/
def answerOf : Except VmError Unit → Outcome VmError OpAnswer
  | .ok () => .value .nothing
  | .error e => .failure e

theorem run_perform_setMeta (c : Caller) (i : Int) (w : World) :
    ((setMeta i).perform c).run w =
      (answerOf (w.machine.setMetatable i).1, { w with machine := (w.machine.setMetatable i).2 }) := by
  simp only [perform, tryMachine, Action.run_bind, run_onMachine]
  cases (w.machine.setMetatable i).1 <;> rfl

theorem run_perform_setMeta_table {i : Int} {address : Nat} {metatable : Option Nat}
    (target : w.machine.valueAt i = .table address)
    (value : asMetatable? w.machine.popValue.1 = some metatable) :
    ((setMeta i).perform c).run w =
      (.value .nothing, { w with machine := w.machine.withMetatable address metatable }) := by
  rw [run_perform_setMeta, setMetatable_table target value, answerOf]

theorem run_perform_setMeta_refused {i : Int}
    (refused : ∀ address, w.machine.valueAt i = .table address →
      asMetatable? w.machine.popValue.1 = none) :
    ((setMeta i).perform c).run w =
      (.failure (.typeError
        ("cannot set a metatable on a " ++ (w.machine.valueAt i).typeName ++ " value")),
        { w with machine := w.machine.popValue.2 }) := by
  rw [run_perform_setMeta, setMetatable_refused refused, answerOf]

/-- Each operation that can fail, but one, looks at the flag before it does anything. -/
theorem run_perform_of_closed (closed : w.machine.isClosed = true) {op : Op} (fallible : op.IsFallible)
    (other : ∀ i, op ≠ .setMeta i) : (op.perform c).run w = (.failure .closed, w) := by
  have refused : w.machine.checkOpen = .error .closed := by rw [checkOpen, if_pos closed]
  have missing (argCount : Int) : w.machine.callee argCount = .missing .closed := if_pos closed
  cases op with
  | getField i name =>
    simp only [perform, Vm.getField, Action.run_bind, run_askMachine, refused, Action.run_ofExcept_error]
  | setField i name =>
    simp only [perform, Vm.setField, Action.run_bind, run_askMachine, refused, Action.run_ofExcept_error]
  | setMeta i => exact absurd rfl (other i)
  | call args results => simp [perform, Vm.run_call, missing]
  | protectedCall args results => simp [perform, Vm.run_call, missing]
  | load chunk source => simp [perform, tryMachine, Machine.load, refused]
  | _ => exact fallible.elim

theorem run_perform_setMeta_ne_closed (c : Caller) (i : Int) (w : World) :
    (((setMeta i).perform c).run w).1 ≠ .failure .closed := by
  obtain ⟨address, metatable, target, value⟩ | refused := asMetatable?_cases w.machine i
  · rw [run_perform_setMeta_table target value]
    simp
  · rw [run_perform_setMeta_refused refused]
    simp

theorem run_perform_setMeta_opened (c : Caller) (i : Int) (w : World) :
    ((setMeta i).perform c).run w.opened =
      ((((setMeta i).perform c).run w).1, (((setMeta i).perform c).run w).2.opened) := by
  have opened : w.opened.machine.setMetatable i =
      ((w.machine.setMetatable i).1, { (w.machine.setMetatable i).2 with isClosed := false }) :=
    setMetatable_isClosed w.machine false i
  rw [run_perform_setMeta, run_perform_setMeta, opened]
  rfl

end Op

/-- A closed machine refuses an operation that can fail, and is left as it was, exactly if the operation
    is not the assignment of a metatable.  That one goes as it would in an open machine: it pops a value
    in any case, and a table at the index gets the metatable that the value stands for. -/
theorem closed_refuses_iff (c : Caller) {w : World} (closed : w.machine.isClosed = true) {op : Op}
    (fallible : op.IsFallible) :
    ((op.perform c).run w = (.failure .closed, w) ↔ ∀ i, op ≠ .setMeta i) ∧
    ∀ i, op = .setMeta i →
      ((op.perform c).run w).1 = ((op.perform c).run w.opened).1 ∧
      ((op.perform c).run w).2.opened = ((op.perform c).run w.opened).2 ∧
      (∀ address metatable, w.machine.valueAt i = .table address →
        asMetatable? w.machine.popValue.1 = some metatable →
          (op.perform c).run w =
            (.value .nothing, { w with machine := w.machine.withMetatable address metatable })) ∧
      ((∀ address, w.machine.valueAt i = .table address → asMetatable? w.machine.popValue.1 = none) →
        (op.perform c).run w =
          (.failure (.typeError
            ("cannot set a metatable on a " ++ (w.machine.valueAt i).typeName ++ " value")),
            { w with machine := w.machine.popValue.2 })) := by
  refine ⟨⟨fun refused i isSetMeta => ?_, Op.run_perform_of_closed closed fallible⟩, ?_⟩
  · subst isSetMeta
    exact Op.run_perform_setMeta_ne_closed c i w (congrArg Prod.fst refused)
  · intro i isSetMeta
    subst isSetMeta
    have opened := Op.run_perform_setMeta_opened c i w
    exact ⟨by rw [opened], by rw [opened], fun _ _ => Op.run_perform_setMeta_table,
      Op.run_perform_setMeta_refused⟩

/-- A machine that was closed, and in which two tables were made since. -/
def closedWithTables : World :=
  ((Op.runEach (callerAt 0) [.newTable, .newTable]).run
    { machine := (Machine.start 1).close, session := .start {}, host := .empty, events := #[] }).2

theorem closed_refuses_iff_of_tables :
    closedWithTables.machine.isClosed = true ∧ (Op.setMeta (-2)).IsFallible ∧
      ((Op.setMeta (-2)).perform (callerAt 0)).run closedWithTables =
        (.value .nothing,
          { closedWithTables with machine := closedWithTables.machine.withMetatable 0 (some 1) }) ∧
      (Op.getField (-2) "x").IsFallible ∧
      ((Op.getField (-2) "x").perform (callerAt 0)).run closedWithTables = (.failure .closed, closedWithTables) := by
  have closed : closedWithTables.machine.isClosed = true :=
    Op.runEach_stays_closed 0 _ (isClosed_close _)
  have setMeta : (Op.setMeta (-2)).IsFallible := trivial
  have getField : (Op.getField (-2) "x").IsFallible := trivial
  obtain ⟨_, goesOn⟩ := closed_refuses_iff (callerAt 0) closed setMeta
  obtain ⟨refused, _⟩ := closed_refuses_iff (callerAt 0) closed getField
  obtain ⟨_, _, assigned, _⟩ := goesOn (-2) rfl
  exact ⟨closed, setMeta, assigned 0 (some 1) rfl rfl, getField,
    refused.2 fun _ isSetMeta => Op.noConfusion isSetMeta⟩

end ScriptHost
