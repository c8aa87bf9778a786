import ScriptHost.Proofs.Discipline.Basic
/-!
# Script code keeps every discipline

Indexing, rendering and stack programs, for any discipline and any callers that are covered by it.
-/

namespace ScriptHost

namespace Machine

theorem isQuery_valueAt (i : Int) : IsQuery (·.valueAt i) := fun _ _ _ fits => valueAt_onto fits i

theorem isQuery_absIndex (i : Int) : IsQuery (·.absIndex i) := fun _ _ _ fits => absIndex_onto fits i

theorem isQuery_top : IsQuery top := fun _ _ _ fits => top_onto fits

theorem isQuery_numberAt? (i : Int) : IsQuery (·.numberAt? i) := fun _ _ _ fits => by
  simp only [numberAt?, valueAt_onto fits]

theorem isQuery_integerAt? (i : Int) : IsQuery (·.integerAt? i) :=
  (isQuery_numberAt? i).map (Option.bind · Binary64.toInt64?)

theorem isQuery_bytesAt? (i : Int) : IsQuery (·.bytesAt? i) := fun _ _ _ fits => by
  simp only [bytesAt?, valueAt_onto fits]

theorem isQuery_views (n : Nat) : IsQuery fun m => (m.topmost n).map m.viewOf := fun bottom frames m fits => by
  have view : (m.onto bottom frames).viewOf = m.viewOf := by
    funext v
    cases v <;> rfl
  simp only [topmost_onto fits, view]

end Machine

/-- An operation that is not merely attempted is announced, performed and reported. -/
theorem Op.run_eq {c : Caller} {op : Op} (direct : ∀ inner, op ≠ .attempt inner) (isQuiet : Bool) :
    op.run c isQuiet =
      (c.before op >>= fun _ => (Action.attempt (op.perform c) : Vm _)) >>= fun result => do
        if !isQuiet then Op.report op.name result
        let _ ← Action.ofExcept result
        return () := by
  rw [bind_assoc]
  cases op with
  | attempt inner => exact absurd rfl (direct inner)
  | _ => rfl

namespace Discipline

open Machine World

variable {D : Discipline} {c c' : Caller}

namespace Covers

variable (covers : D.Covers c c')

include covers

theorem call (argCount resultCount : Int) (isProtected : Bool) :
    D.Relates (Vm.call c argCount resultCount isProtected)
      (Vm.call c' argCount resultCount isProtected) :=
  D.call argCount resultCount isProtected covers.run

theorem callValue (f : Value) (args : List Value) (resultCount : Nat) :
    D.Relates (Vm.callValue c f args resultCount) (Vm.callValue c' f args resultCount) :=
  D.callValue f args resultCount covers.run

theorem index (key : String) (links : Nat) (target : Value) :
    D.Relates (Vm.index c key links target) (Vm.index c' key links target) := by
  induction links generalizing target with
  | zero => exact D.failure _
  | succ links ih =>
    simp only [Vm.index]
    cases target with
    | table address =>
      refine D.look (fun _ _ _ _ => rfl) fun m => D.whenTrue _ (fun _ => D.value _) fun _ => ?_
      refine D.look (fun _ _ _ _ => rfl) fun m => ?_
      cases m.metamethod address "__index" with
      | nil => exact D.value _
      | function name code => exact D.seq (covers.callValue _ _ _) fun _ => D.value _
      | table next => exact ih (.table next)
      | _ => exact D.failure _
    | _ => exact D.failure _

theorem getField (i : Int) (key : String) :
    D.Relates (Vm.getField c i key) (Vm.getField c' i key) := by
  refine D.look (fun _ _ _ _ => rfl) fun m => D.seq (D.ofExcept _) fun _ => ?_
  refine D.look (isQuery_valueAt i) fun m => D.seq (covers.index key _ _) fun v => ?_
  exact D.seq (D.change (isSteady_push (isQuery_const v))) fun _ => D.value _

theorem renderTable (i : Int) : D.Relates (Vm.renderTable c i) (Vm.renderTable c' i) := by
  refine D.seq (D.steady (isSteady_getMetatable i)) fun hasMetatable => D.whenTrue _ (fun _ => ?_)
    fun _ => D.value _
  refine D.seq (D.steady (isSteady_rawGet (-1) "__tostring")) fun f => D.whenTrue _ (fun _ => ?_) fun _ =>
    D.seq (D.change (isSteady_pop 2)) fun _ => D.value _
  refine D.seq (D.change (isSteady_push (isQuery_valueAt i))) fun _ => ?_
  refine D.seq (D.attempt (D.seq (covers.call 1 1 true) fun _ => ?_)) fun text => ?_
  · exact D.seq (D.attempt (covers.render (-1))) fun text =>
      D.seq (D.change (isSteady_pop 1)) fun _ => D.ofExcept text
  · exact D.seq (D.change (isSteady_pop 1)) fun _ => D.ofExcept text

theorem renderValue (i : Int) : D.Relates (Vm.render c i) (Vm.render c' i) := by
  refine D.look (isQuery_absIndex i) fun m => ?_
  generalize m.absIndex i = slot
  refine D.look (isQuery_valueAt slot) fun m => ?_
  cases m.valueAt slot with
  | table address => exact covers.renderTable slot
  | _ => exact D.value _

theorem display {ε : Type} (i : Int) :
    D.Relates (Vm.display c i : Action World ε String)
      (Vm.display c' i : Action World ε String) := by
  refine D.seq (D.attempt (covers.renderValue i)) fun text => ?_
  cases text <;> exact D.value _

omit covers in
theorem handleOf (i : Int) : D.Keeps (Vm.handleOf i) := by
  refine D.look (isQuery_absIndex i) fun m => ?_
  generalize m.absIndex i = slot
  refine D.look (isQuery_valueAt slot) fun m => ?_
  cases m.valueAt slot with
  | table address =>
    refine D.seq (D.steady (isSteady_getMetatable slot)) fun hasMetatable => D.whenTrue _ (fun _ => ?_)
      fun _ => D.value _
    refine D.seq (D.steady (isSteady_rawGet (-1) "__handle")) fun _ => ?_
    exact D.look ((isQuery_valueAt (-1)).map Value.token?) fun _ =>
      D.seq (D.change (isSteady_pop 2)) fun _ => D.value _
  | _ => exact D.value _

omit covers in
theorem readSlot (i : Int) : D.Keeps (Vm.readSlot i) := by
  refine D.look (isQuery_absIndex i) fun m => ?_
  generalize m.absIndex i = slot
  refine D.look (isQuery_valueAt slot) fun m => ?_
  cases m.valueAt slot with
  | light | table =>
    refine D.seq (handleOf slot) fun token => ?_
    cases token <;> exact D.value _
  | _ => exact D.value _

/-! ## Stack programs -/

theorem perform {op : Op} (harmless : ¬ op.IsEdit) (direct : ∀ inner, op ≠ .attempt inner) :
    D.Relates (op.perform c) (op.perform c') := by
  cases op with
  -- One case for each operation: it looks at the machine, changes it steadily or runs other code.
  | top => exact D.look isQuery_top fun _ => D.value _
  | setTop i => exact D.seq (D.change (isSteady_setTop i)) fun _ => D.value _
  | pop n => exact D.seq (D.change (isSteady_pop n)) fun _ => D.value _
  | absIndex i => exact D.look (isQuery_absIndex i) fun _ => D.value _
  | typeOf i => exact D.look (isQuery_valueAt i) fun _ => D.value _
  | pushNil => exact D.seq (D.change (isSteady_push (isQuery_const _))) fun _ => D.value _
  | pushBoolean b => exact D.seq (D.change (isSteady_push (isQuery_const _))) fun _ => D.value _
  | pushNumber x => exact D.seq (D.change (isSteady_push (isQuery_const _))) fun _ => D.value _
  | pushInteger n => exact D.seq (D.change (isSteady_push (isQuery_const _))) fun _ => D.value _
  | pushString bytes => exact D.seq (D.change (isSteady_push (isQuery_const _))) fun _ => D.value _
  | pushLight t => exact D.seq (D.change (isSteady_push (isQuery_const _))) fun _ => D.value _
  | pushValue i => exact D.seq (D.change (isSteady_push (isQuery_valueAt i))) fun _ => D.value _
  | toBoolean i => exact D.look (isQuery_valueAt i) fun _ => D.value _
  | toNumber i => exact D.look (isQuery_numberAt? i) fun _ => D.value _
  | toInteger i => exact D.look (isQuery_integerAt? i) fun _ => D.value _
  | toBytes i => exact D.look (isQuery_bytesAt? i) fun _ => D.value _
  | toLight i => exact D.look (isQuery_valueAt i) fun _ => D.value _
  | newTable => exact D.seq (D.change isSteady_newTable) fun _ => D.value _
  | getField i name => exact D.seq (covers.getField i name) fun _ => D.value _
  | rawGet i name => exact D.seq (D.steady (isSteady_rawGet i name)) fun _ => D.value _
  | getMeta i => exact D.seq (D.steady (isSteady_getMetatable i)) fun _ => D.value _
  | getGlobal name => exact D.seq (D.steady (isSteady_getGlobal name)) fun _ => D.value _
  | setGlobal name => exact D.seq (D.change (isSteady_setGlobal name)) fun _ => D.value _
  | pushFunction name body => exact D.seq (D.change (isSteady_push (isQuery_const _))) fun _ => D.value _
  | call args results => exact D.seq (covers.call args results false) fun _ => D.value _
  | protectedCall args results => exact D.seq (covers.call args results true) fun _ => D.value _
  | pushReference r => exact D.seq (D.steady (isSteady_pushReference r)) fun _ => D.value _
  | load chunk source => exact D.seq (D.trySteady (isSteady_load chunk source)) fun _ => D.value _
  | isClosed => exact D.look (fun _ _ _ _ => rfl) fun _ => D.value _
  | display i => exact D.seq (covers.display i) fun _ => D.value _
  | render i => exact D.seq (covers.renderValue i) fun _ => D.value _
  | readSlot i => exact D.seq (Covers.readSlot i) fun _ => D.value _
  | writeSlot v => exact D.seq (D.change (isSteady_writeSlot v)) fun _ => D.value _
  | readInteger i => exact D.look (isQuery_integerAt? i) fun _ => D.value _
  | handleOf i => exact D.seq (Covers.handleOf i) fun _ => D.value _
  -- Attempts and edits are dealt with where they are watched.
  | attempt inner => exact absurd rfl (direct inner)
  | setField | rawSet | setMeta | reference | releaseReference | close => exact absurd trivial harmless

omit covers in
theorem report (name : String) (result : Except VmError OpAnswer) : D.Keeps (Op.report name result) :=
  D.look isQuery_top fun _ => D.look (isQuery_views _) fun _ => D.emit _

theorem performWatched {op : Op} (direct : ∀ inner, op ≠ .attempt inner) :
    D.Relates (c.before op >>= fun _ => (Action.attempt (op.perform c) : Vm (Except VmError _)))
      (c'.before op >>= fun _ => (Action.attempt (op.perform c') : Vm (Except VmError _))) := by
  rw [covers.before, covers.before']
  by_cases edit : op.IsEdit
  · exact D.edit edit covers.run
  · exact D.seq (D.watch op) fun _ => D.attempt (covers.perform edit direct)

theorem runOp (isQuiet : Bool) (op : Op) : D.Relates (op.run c isQuiet) (op.run c' isQuiet) := by
  -- An operation that is only attempted is not announced itself.
  by_cases attempted : ∃ inner, op = .attempt inner
  · obtain ⟨inner, rfl⟩ := attempted
    simp only [Op.run]
    exact D.seq (D.attempt (runOp isQuiet inner)) fun _ => D.value _
  · have direct (inner : Op) : op ≠ .attempt inner := fun same => attempted ⟨inner, same⟩
    rw [Op.run_eq direct, Op.run_eq direct]
    refine D.seq (covers.performWatched direct) fun result => ?_
    exact D.whenTrue _ (fun _ => D.seq (report _ _) fun _ => D.seq (D.ofExcept _) fun _ => D.value _)
      fun _ => D.seq (D.ofExcept _) fun _ => D.value _
termination_by sizeOf op

theorem runOps (isQuiet : Bool) (ops : List Op) :
    D.Relates (Op.runAll c isQuiet ops) (Op.runAll c' isQuiet ops) := by
  induction ops with
  | nil => exact D.value _
  | cons op ops ih => exact D.seq (covers.runOp isQuiet op) fun _ => ih

theorem runEachOp (ops : List Op) : D.Relates (Op.runEach c ops) (Op.runEach c' ops) := by
  induction ops with
  | nil => exact D.value _
  | cons op ops ih => exact D.seq (D.attempt (covers.runOp false op)) fun _ => ih

theorem runProgram (p : Program) : D.Relates (p.run c) (p.run c') := by
  obtain ⟨ops, resultCount, failure, isQuiet⟩ := p
  refine D.seq (D.reword _ (covers.runOps isQuiet ops)) fun _ => ?_
  cases failure with
  | some text => exact D.failure text
  | none => exact D.look (fun _ _ _ fits => frameSize_onto fits) fun _ => D.value _

end Covers

end Discipline

end ScriptHost
