import ScriptHost.Proofs.Discipline.Evaluator
import ScriptHost.Proofs.Machine.Calls
import ScriptHost.Proofs.Machine.References
/-!
# Programs that render nothing end

A machine admits only so many frames at once, so calls alone cannot go on for ever.  Rendering can: a
table is rendered as whatever its `__tostring` answers, and that may be the table again.  Code that
renders nothing therefore ends, if it is allowed as many levels as the machine admits
(`runsWithin_callerAt`).

The code that a program can reach is the code in the values of its machine.  `Machine.NeverRenders`
says that none of it renders, and every operation but rendering keeps it so.
-/

namespace ScriptHost

open World

/-! ## Code that renders nothing -/

mutual

/-- Nothing is rendered by the operation, or by a function it makes. -/
def Op.NeverRenders : Op → Prop
  | .display _ | .render _ => False
  | .pushFunction _ body => body.NeverRenders
  | .attempt op => op.NeverRenders
  | _ => True

def Program.NeverRenders : Program → Prop
  | .mk ops _ _ _ => Op.NoneRenders ops

def Op.NoneRenders : List Op → Prop
  | [] => True
  | op :: ops => op.NeverRenders ∧ Op.NoneRenders ops

end

/-- The code of the host counts as rendering, since it may run anything. -/
def NativeCode.NeverRenders : NativeCode → Prop
  | .program p => p.NeverRenders
  | .typeName | .label _ => True
  | _ => False

def Value.NeverRenders : Value → Prop
  | .function _ code => code.NeverRenders
  | _ => True

/-- No value of the machine is a function that renders. -/
structure Machine.NeverRenders (m : Machine) : Prop where
  stack : ∀ v ∈ m.stack, v.NeverRenders
  globals : ∀ key, (m.globals.get key).NeverRenders
  tables : ∀ address key, ((m.table address).get key).NeverRenders
  registry : ∀ {r v}, m.referenced? r = some v → v.NeverRenders
  chunks : ∀ {source body}, m.chunks.get? source = some body → body.NeverRenders

/-! ## Stacks -/

section Stacks

variable {stack : Array Value} (never : ∀ v ∈ stack, v.NeverRenders)

include never

theorem neverRenders_getD (i : Nat) : (stack[i]?.getD .nil).NeverRenders := by
  cases found : stack[i]? with
  | none => exact trivial
  | some v => exact never v (Array.mem_of_getElem? found)

theorem neverRenders_extract (first last : Nat) :
    ∀ v ∈ stack.extract first last, v.NeverRenders := by
  intro v member
  obtain ⟨i, _, rfl⟩ := Array.mem_extract_iff_getElem.1 member
  exact never _ (Array.getElem_mem _)

theorem neverRenders_shrink (n : Nat) : ∀ v ∈ stack.shrink n, v.NeverRenders := by
  rw [Array.shrink_eq_take, Array.take_eq_extract]
  exact neverRenders_extract never 0 n

theorem neverRenders_append {vs : Array Value} (others : ∀ v ∈ vs, v.NeverRenders) :
    ∀ v ∈ stack ++ vs, v.NeverRenders := by
  intro v member
  cases Array.mem_append.1 member with
  | inl low => exact never v low
  | inr high => exact others v high

theorem neverRenders_push {v : Value} (neverOnTop : v.NeverRenders) :
    ∀ u ∈ stack.push v, u.NeverRenders := by
  intro u member
  rcases Array.mem_push.1 member with low | rfl
  · exact never u low
  · exact neverOnTop

theorem neverRenders_resize (n : Nat) : ∀ v ∈ Machine.resize n stack, v.NeverRenders := by
  refine neverRenders_append (neverRenders_shrink never n) fun v member => ?_
  rw [(Array.mem_replicate.1 member).2]
  exact trivial

theorem neverRenders_adjust (resultCount : Int) :
    ∀ v ∈ Machine.adjust resultCount stack, v.NeverRenders := by
  rw [Machine.adjust]
  split
  · exact never
  · exact neverRenders_resize never _

end Stacks

/-! ## Operations of the machine -/

namespace Machine.NeverRenders

variable {m : Machine} (never : m.NeverRenders)

include never

theorem valueAt (i : Int) : (m.valueAt i).NeverRenders := by
  rw [Machine.valueAt]
  cases m.slotIndex? i with
  | none => exact trivial
  | some slot => exact neverRenders_getD never.stack slot

theorem metamethod (address : Nat) (event : String) : (m.metamethod address event).NeverRenders := by
  rw [Machine.metamethod, Table.metamethod]
  cases (m.table address).metatable with
  | none => exact trivial
  | some metatable => exact never.tables metatable (utf8Encode event)

theorem withStack {stack : Array Value} (others : ∀ v ∈ stack, v.NeverRenders) :
    NeverRenders { m with stack } :=
  ⟨others, never.globals, never.tables, never.registry, never.chunks⟩

theorem push {v : Value} (neverOnTop : v.NeverRenders) : (m.push v).NeverRenders :=
  never.withStack (neverRenders_push never.stack neverOnTop)

theorem setTop (i : Int) : (m.setTop i).NeverRenders :=
  never.withStack (neverRenders_resize never.stack _)

theorem popValue : m.popValue.1.NeverRenders ∧ m.popValue.2.NeverRenders := by
  rw [Machine.popValue]
  split
  · refine ⟨neverRenders_getD never.stack _, never.withStack ?_⟩
    rw [← Array.extract_eq_pop rfl]
    exact neverRenders_extract never.stack 0 _
  · exact ⟨trivial, never⟩

theorem newTable : m.newTable.NeverRenders := by
  have pushed := never.push (v := .table m.tables.size) trivial
  refine ⟨pushed.stack, never.globals, fun address key => ?_, never.registry, never.chunks⟩
  rw [Machine.isSteady_newTable.table m address]
  exact never.tables address key

theorem setTable {address : Nat} {t : Table} (fields : ∀ key, (t.get key).NeverRenders) :
    (m.setTable address t).NeverRenders := by
  refine ⟨never.stack, never.globals, fun other key => ?_, never.registry, never.chunks⟩
  -- An address that no table has keeps standing for an empty one.
  by_cases same : other = address
  · by_cases bound : address < m.tables.size
    · rw [table_setTable m bound, if_pos same]
      exact fields key
    · have outside : (m.setTable address t).tables.size ≤ other := by
        simp only [Machine.setTable, Array.size_setIfInBounds]
        omega
      rw [table_of_size_le outside]
      exact trivial
  · rw [table_setTable_ne m same]
    exact never.tables other key

theorem setTableField (address : Nat) (key : Bytes) {v : Value} (neverSet : v.NeverRenders) :
    (m.setTableField address key v).NeverRenders := by
  refine never.setTable fun other => ?_
  rw [Table.get_set]
  split
  · exact neverSet
  · exact never.tables address other

theorem rawField (i : Int) (name : String) : (m.rawField i name).NeverRenders := by
  rw [Machine.rawField]
  split
  · exact never.tables _ _
  · exact trivial

theorem rawSet (i : Int) (name : String) : (m.rawSet i name).NeverRenders := by
  obtain ⟨neverPopped, neverLeft⟩ := never.popValue
  simp only [Machine.rawSet]
  cases m.valueAt i with
  | table address => exact neverLeft.setTableField address _ neverPopped
  | _ => exact neverLeft

theorem setMetatable (i : Int) : (m.setMetatable i).2.NeverRenders := by
  obtain ⟨_, neverLeft⟩ := never.popValue
  simp only [Machine.setMetatable]
  cases m.valueAt i with
  | table address =>
    cases m.popValue.1 with
    | table metatable => exact neverLeft.setTable fun key => neverLeft.tables address key
    | nil => exact neverLeft.setTable fun key => neverLeft.tables address key
    | _ => exact neverLeft
  | _ => exact neverLeft

theorem getMetatable (i : Int) : (m.getMetatable i).2.NeverRenders := by
  rw [Machine.getMetatable]
  cases m.metatableAt? i with
  | some metatable => exact never.push trivial
  | none => exact never

theorem setGlobal (name : String) : (m.setGlobal name).NeverRenders := by
  obtain ⟨neverPopped, neverLeft⟩ := never.popValue
  refine ⟨neverLeft.stack, fun key => ?_, neverLeft.tables, neverLeft.registry, neverLeft.chunks⟩
  show ((m.popValue.2.globals.set (utf8Encode name) m.popValue.1).get key).NeverRenders
  rw [Table.get_set]
  split
  · exact neverPopped
  · exact neverLeft.globals key

theorem withRegistry {registry : Array (Option Value)} {freeReferences : List Nat}
    (kept : ∀ v, some v ∈ registry → v.NeverRenders) :
    NeverRenders { m with registry, freeReferences } :=
  ⟨never.stack, never.globals, never.tables,
    fun found => kept _ (Array.mem_of_getElem? (referenced?_eq_some.1 found)), never.chunks⟩

theorem kept (v : Value) (member : some v ∈ m.registry) : v.NeverRenders := by
  obtain ⟨r, found⟩ := Array.mem_iff_getElem?.1 member
  exact never.registry (referenced?_eq_some.2 found)

theorem reference (i : Int) : (m.reference i).2.NeverRenders := by
  have neverPinned := never.valueAt i
  simp only [Machine.reference]
  cases m.freeReferences with
  | cons r free =>
    refine never.withRegistry fun v member => ?_
    cases Array.mem_or_eq_of_mem_setIfInBounds member with
    | inl before => exact never.kept v before
    | inr same =>
      rw [Option.some.inj same]
      exact neverPinned
  | nil =>
    refine never.withRegistry fun v member => ?_
    cases Array.mem_push.1 member with
    | inl before => exact never.kept v before
    | inr same =>
      rw [Option.some.inj same]
      exact neverPinned

theorem pushReference (r : Nat) : (m.pushReference r).2.NeverRenders := by
  rw [Machine.pushReference]
  cases found : m.referenced? r with
  | some v => exact never.push (never.registry found)
  | none => exact never.push trivial

theorem releaseReference (r : Nat) : (m.releaseReference r).NeverRenders := by
  rw [Machine.releaseReference]
  cases m.referenced? r with
  | some _ =>
    refine never.withRegistry fun v member => ?_
    cases Array.mem_or_eq_of_mem_setIfInBounds member with
    | inl before => exact never.kept v before
    | inr same => cases same
  | none => exact never

theorem load (chunk : String) (source : Bytes) : (m.load chunk source).2.NeverRenders := by
  rw [Machine.load]
  cases m.checkOpen with
  | error e => exact never
  | ok _ =>
    cases found : m.chunks.get? source with
    | some body => exact never.push (v := .function chunk (.program body)) (never.chunks found)
    | none => exact never

theorem writeSlot (v : SlotValue) : (m.writeSlot v).NeverRenders := by
  cases v with
  | function f =>
    cases f with
    | slot i => exact never.push (never.valueAt i)
    | pinned r => exact never.pushReference r
  | _ => exact never.push trivial

theorem close : m.close.NeverRenders := by
  rw [Machine.close]
  split
  · exact never
  · refine ⟨fun v among => ?_, fun _ => trivial, never.tables, fun kept => ?_, fun found => ?_⟩
    · exact absurd among (Array.not_mem_empty v)
    · simp [referenced?] at kept
    · cases found

end Machine.NeverRenders

/-! ## Actions that end -/

/-- The machine renders nothing, and admits at most so many more levels of calls. -/
structure Machine.IsBounded (m : Machine) (limit levels : Nat) : Prop where
  values : m.NeverRenders
  maxDepth : m.maxDepth = limit
  room : m.isClosed = true ∨ limit ≤ m.depth + levels

theorem Machine.IsBounded.room_of_isOpen {m : Machine} {limit levels : Nat}
    (bounded : m.IsBounded limit levels) (isOpen : m.isClosed = false) : limit ≤ m.depth + levels := by
  cases bounded.room with
  | inl shut =>
    rw [isOpen] at shut
    cases shut
  | inr room => exact room

theorem Machine.IsBounded.entered {w : World} {limit left : Nat}
    (bounded : w.machine.IsBounded limit (left + 1)) (slot : Nat) :
    (Vm.entered w slot).machine.IsBounded limit left := by
  obtain ⟨⟨stack, globals, tables, registry, chunks⟩, maxDepth, room⟩ := bounded
  refine ⟨⟨stack, globals, tables, registry, chunks⟩, maxDepth, room.imp_right fun room => ?_⟩
  show limit ≤ (w.machine.frames.push (slot + 1)).size + left
  rw [Machine.depth] at room
  rw [Array.size_push]
  omega

/-- The run has ended, with a good answer if it has one. -/
def Outcome.Ended {ε α : Type} (good : α → Prop) : Outcome ε α → Prop
  | .value a => good a
  | .failure _ => True
  | .exhausted => False

/-- On a machine that is bounded, the action ends and leaves it bounded. -/
def Ends (limit levels : Nat) {ε α : Type} (good : α → Prop) (x : Action World ε α) : Prop :=
  ∀ w, w.machine.IsBounded limit levels →
    (x.run w).1.Ended good ∧ (x.run w).2.machine.IsBounded limit levels

/-- The caller runs code with as many levels as are left after the call. -/
structure RunsWithin (limit levels : Nat) (c : Caller) : Prop where
  run : ∀ {left}, levels = left + 1 → ∀ {code}, code.NeverRenders →
    Ends limit left (fun _ => True) (c.run code)
  before : c.before = Caller.unwatched

namespace Ends

variable {limit levels : Nat} {ε ε' α β : Type} {good : α → Prop} {goodNext : β → Prop}

theorem value {a : α} (isGood : good a) : Ends limit levels good (pure a : Action World ε α) :=
  fun _ bounded => ⟨isGood, bounded⟩

theorem done : Ends limit levels (fun _ => True) (pure a : Action World ε α) := value trivial

theorem failure (e : ε) : Ends limit levels good (Action.fail e : Action World ε α) :=
  fun _ bounded => ⟨trivial, bounded⟩

theorem ofExcept (r : Except ε α) :
    Ends limit levels (fun _ => True) (Action.ofExcept r : Action World ε α) := by
  cases r with
  | ok a => exact value trivial
  | error e => exact failure e

theorem seq {x : Action World ε α} {f : α → Action World ε β} (first : Ends limit levels good x)
    (second : ∀ a, good a → Ends limit levels goodNext (f a)) :
    Ends limit levels goodNext (x >>= f) := by
  intro w bounded
  obtain ⟨ended₁, bounded₁⟩ := first w bounded
  rw [Action.run_bind]
  rcases ran₁ : x.run w with ⟨a | e | _, w₁⟩ <;> rw [ran₁] at ended₁ bounded₁
  · exact second a ended₁ w₁ bounded₁
  · exact ⟨trivial, bounded₁⟩
  · exact ended₁.elim

theorem attempt {x : Action World ε α} (ends : Ends limit levels good x) :
    Ends limit levels (fun _ => True) (Action.attempt x : Action World ε' (Except ε α)) := by
  intro w bounded
  obtain ⟨ended₁, bounded₁⟩ := ends w bounded
  rw [Action.run_attempt_eq]
  refine ⟨?_, bounded₁⟩
  cases answer : (x.run w).1 with
  | exhausted =>
    rw [answer] at ended₁
    exact ended₁.elim
  | _ => exact trivial

theorem reword {x : Action World ε α} (f : ε → ε') (ends : Ends limit levels good x) :
    Ends limit levels good (Action.mapFailure f x) := by
  intro w bounded
  obtain ⟨ended₁, bounded₁⟩ := ends w bounded
  rw [Action.run_mapFailure_eq]
  refine ⟨?_, bounded₁⟩
  cases answer : (x.run w).1 <;> rw [answer] at ended₁ <;> exact ended₁

theorem look {f : Machine → α} {k : α → Action World ε β}
    (then_ : ∀ m, m.NeverRenders → Ends limit levels goodNext (k (f m))) :
    Ends limit levels goodNext (askMachine f >>= k) :=
  fun w bounded => then_ w.machine bounded.values w bounded

theorem onMachine {f : Machine → α × Machine} (isLocal : Machine.IsLocal f)
    (keeps : ∀ m, m.NeverRenders → good (f m).1 ∧ (f m).2.NeverRenders) :
    Ends limit levels good (World.onMachine f : Action World ε α) := by
  intro w bounded
  obtain ⟨isGood, values⟩ := keeps w.machine bounded.values
  refine ⟨isGood, values, (isLocal.maxDepth w.machine).trans bounded.maxDepth, ?_⟩
  show (f w.machine).2.isClosed = true ∨ limit ≤ (f w.machine).2.frames.size + levels
  rw [isLocal.isClosed, isLocal.frames]
  exact bounded.room

theorem step {f : Machine → α × Machine} (isLocal : Machine.IsLocal f)
    (keeps : ∀ m, m.NeverRenders → (f m).2.NeverRenders) :
    Ends limit levels (fun _ => True) (World.onMachine f : Action World ε α) :=
  onMachine isLocal fun m never => ⟨trivial, keeps m never⟩

theorem changeMachine {f : Machine → Machine} (isLocal : Machine.IsLocal fun m => ((), f m))
    (keeps : ∀ m, m.NeverRenders → (f m).NeverRenders) :
    Ends limit levels (fun _ => True) (World.changeMachine f : Action World ε Unit) :=
  step isLocal keeps

theorem push {value : Machine → Value} (values : Machine.IsQuery value)
    (nevers : ∀ m, m.NeverRenders → (value m).NeverRenders) :
    Ends limit levels (fun _ => True)
      (World.changeMachine fun m => m.push (value m) : Action World ε Unit) :=
  changeMachine (Machine.isSteady_push values).isLocal fun m never => never.push (nevers m never)

theorem emit (e : Event) : Ends limit levels (fun _ => True) (World.emit e : Action World ε Unit) :=
  fun _ bounded => ⟨trivial, bounded⟩

theorem close : Ends limit levels (fun _ => True)
    (World.changeMachine Machine.close : Action World ε Unit) := by
  intro w bounded
  refine ⟨trivial, bounded.values.close, ?_, .inl ?_⟩
  · show (Machine.close w.machine).maxDepth = limit
    rw [Machine.close]
    split <;> exact bounded.maxDepth
  · show (Machine.close w.machine).isClosed = true
    rw [Machine.close]
    split
    · assumption
    · rfl

/-! ### Calls -/

variable {c : Caller}

/-- What a call finds is ready to be called only if one more level is admitted. -/
theorem ready {m : Machine} (bounded : m.IsBounded limit levels) {argCount : Int} {slot : Nat}
    {code : NativeCode} (ready : m.callee argCount = .ready slot code) :
    code.NeverRenders ∧ m.isClosed = false ∧ ∃ left, levels = left + 1 := by
  obtain ⟨isOpen, shallow, name, found⟩ := Machine.callee_ready ready
  have never := neverRenders_getD bounded.values.stack slot
  rw [found] at never
  -- The call is admitted at a depth below the limit, so at least one level is left.
  have room := bounded.room_of_isOpen isOpen
  have limited := bounded.maxDepth
  exact ⟨never, isOpen, levels - 1, by omega⟩

theorem bounded_left {w w₁ : World} {left : Nat}
    (before : w.machine.IsBounded limit (left + 1)) (isOpen : w.machine.isClosed = false)
    (after : w₁.machine.IsBounded limit left) {outcome : Outcome String Nat}
    (ended : outcome ≠ .exhausted) (slot : Nat) (resultCount : Int) (isProtected : Bool) :
    (w₁.machine.left w.machine.depth slot resultCount isProtected outcome).IsBounded limit
      (left + 1) := by
  have leave : (w₁.machine.leave w.machine.depth).NeverRenders :=
    ⟨after.values.stack, after.values.globals, after.values.tables, after.values.registry,
      after.values.chunks⟩
  have truncated : ((w₁.machine.leave w.machine.depth).truncate slot).NeverRenders :=
    leave.withStack (neverRenders_shrink leave.stack slot)
  have values : (w₁.machine.left w.machine.depth slot resultCount isProtected outcome).NeverRenders := by
    cases outcome with
    | value claimed =>
      refine leave.withStack (neverRenders_append ?_ (neverRenders_adjust ?_ resultCount))
      · exact neverRenders_shrink (neverRenders_shrink leave.stack _) slot
      · exact neverRenders_extract leave.stack _ _
    | failure text =>
      cases isProtected with
      | true => exact truncated
      | false => exact leave
    | exhausted => exact absurd rfl ended
  -- A function that closed the machine may have left fewer frames than there were.
  have depth : (w₁.machine.left w.machine.depth slot resultCount isProtected outcome).depth =
      min w.machine.depth w₁.machine.depth := by
    have shrunk : (w₁.machine.frames.shrink w.machine.depth).size = _ := Array.size_shrink
    cases outcome with
    | value claimed => exact shrunk
    | failure text => cases isProtected <;> exact shrunk
    | exhausted => exact absurd rfl ended
  refine ⟨values, Machine.maxDepth_left.trans after.maxDepth, ?_⟩
  rw [Machine.isClosed_left, depth]
  cases after.room with
  | inl shut => exact .inl shut
  | inr room₁ =>
    have room := before.room_of_isOpen isOpen
    exact .inr (by omega)

theorem call (within : RunsWithin limit levels c) (argCount resultCount : Int) (isProtected : Bool) :
    Ends limit levels (fun _ => True) (Vm.call c argCount resultCount isProtected) := by
  intro w bounded
  rw [Vm.run_call]
  cases target : w.machine.callee argCount with
  | missing e => exact ⟨trivial, bounded⟩
  | refused slot e =>
    refine ⟨trivial, ?_⟩
    cases isProtected with
    | true =>
      have values := bounded.values.withStack (neverRenders_shrink bounded.values.stack slot)
      exact ⟨values, bounded.maxDepth, bounded.room⟩
    | false => exact bounded
  | ready slot code =>
    obtain ⟨never, isOpen, left, rfl⟩ := ready bounded target
    -- One level is spent on the frame that is opened, and is there again when it is closed.
    obtain ⟨ended₁, bounded₁⟩ := within.run rfl never _ (bounded.entered slot)
    simp only [Vm.run_runFrame]
    rcases ran₁ : (c.run code).run (Vm.entered w slot) with ⟨claimed | text | _, w₁⟩ <;>
      rw [ran₁] at ended₁ bounded₁
    · exact ⟨trivial, bounded_left bounded isOpen bounded₁ (by simp) slot resultCount isProtected⟩
    · exact ⟨trivial, bounded_left bounded isOpen bounded₁ (by simp) slot resultCount isProtected⟩
    · exact ended₁.elim

theorem callValue (within : RunsWithin limit levels c) {f : Value} (neverCalled : f.NeverRenders)
    {args : List Value} (neverPassed : ∀ v ∈ args, v.NeverRenders) (resultCount : Nat) :
    Ends limit levels (fun results => ∀ v ∈ results, v.NeverRenders)
      (Vm.callValue c f args resultCount) := by
  intro w bounded
  have prepared : (Vm.prepared w f args).machine.IsBounded limit levels := by
    refine ⟨bounded.values.withStack ?_, bounded.maxDepth, bounded.room⟩
    refine neverRenders_append (neverRenders_push bounded.values.stack neverCalled) fun v member => ?_
    exact neverPassed v (List.mem_toArray.1 member)
  have cut {w' : World} (bounded' : w'.machine.IsBounded limit levels) (height : Nat) :
      (Vm.cut w' height).machine.IsBounded limit levels :=
    ⟨bounded'.values.withStack (neverRenders_shrink bounded'.values.stack height),
      bounded'.maxDepth, bounded'.room⟩
  obtain ⟨ended₁, bounded₁⟩ := call within args.length resultCount false _ prepared
  rw [Vm.run_callValue]
  rcases ran₁ : (Vm.call c args.length resultCount false).run (Vm.prepared w f args) with
    ⟨_ | e | _, w₁⟩ <;> rw [ran₁] at ended₁ bounded₁
  · refine ⟨fun v member => ?_, cut bounded₁ _⟩
    exact neverRenders_extract bounded₁.values.stack _ _ v (Array.mem_toList_iff.1 member)
  · exact ⟨trivial, cut bounded₁ _⟩
  · exact ended₁.elim

theorem index (within : RunsWithin limit levels c) (key : String) (links : Nat) {target : Value}
    (neverIndexed : target.NeverRenders) :
    Ends limit levels Value.NeverRenders (Vm.index c key links target) := by
  induction links generalizing target with
  | zero => exact failure _
  | succ links ih =>
    simp only [Vm.index]
    cases target with
    | table address =>
      refine look fun m never => ?_
      have neverRead := never.tables address (utf8Encode key)
      split
      · exact value neverRead
      · refine look fun m never => ?_
        have neverHandles := never.metamethod address "__index"
        cases handler : m.metamethod address "__index" with
        | nil => exact value trivial
        | function name code =>
          rw [handler] at neverHandles
          refine (callValue within neverHandles ?_ 1).seq fun results neverReturned => value ?_
          · simp [Value.NeverRenders]
          · cases last : results.getLast? with
            | none => exact trivial
            | some v => exact neverReturned v (List.mem_of_getLast? last)
        -- To go on with another table is no call; it uses up a link, but no level.
        | table next => exact ih trivial
        | _ => exact failure _
    | _ => exact failure _

theorem newIndex (within : RunsWithin limit levels c) (key : String) {v : Value}
    (neverSet : v.NeverRenders) (links : Nat) (target : Value) :
    Ends limit levels (fun _ => True) (Vm.newIndex c key v links target) := by
  induction links generalizing target with
  | zero => exact failure _
  | succ links ih =>
    cases target with
    | table address =>
      refine look fun m never => ?_
      have neverHandles : (m.newIndexHandler address key).NeverRenders := by
        rw [Machine.newIndexHandler]
        split
        · exact trivial
        · exact never.metamethod address "__newindex"
      cases handler : m.newIndexHandler address key with
      | nil =>
        exact changeMachine (Machine.isRelative_setTableField address _ v).isLocal fun m never =>
          never.setTableField address _ neverSet
      | function name code =>
        rw [handler] at neverHandles
        refine (callValue within neverHandles ?_ 0).seq fun _ _ => value trivial
        simpa [Value.NeverRenders] using neverSet
      | table next => exact ih (.table next)
      | _ => exact failure _
    | _ => exact failure _

theorem getField (within : RunsWithin limit levels c) (i : Int) (key : String) :
    Ends limit levels (fun _ => True) (Vm.getField c i key) := by
  refine look fun m _ => (ofExcept _).seq fun _ _ => look fun m never => ?_
  refine (index within key Vm.maxChain (never.valueAt i)).seq fun v neverRead => ?_
  exact (push (Machine.isQuery_const v) fun _ _ => neverRead).seq fun _ _ => done

theorem setField (within : RunsWithin limit levels c) (i : Int) (key : String) :
    Ends limit levels (fun _ => True) (Vm.setField c i key) := by
  refine look fun m _ => (ofExcept _).seq fun _ _ => look fun m _ => ?_
  refine (onMachine Machine.isSteady_popValue.isLocal fun m never => never.popValue).seq ?_
  exact fun v neverSet => newIndex within key neverSet Vm.maxChain _

/-! ### Stack programs -/

theorem handleOf (i : Int) : Ends limit levels (fun _ => True) (Vm.handleOf i) := by
  refine look fun m _ => look fun m _ => ?_
  split
  · exact done
  · refine (step (Machine.isSteady_getMetatable _).isLocal fun _ never => never.getMetatable _).seq
      fun hasMetatable _ => ?_
    cases hasMetatable with
    | true =>
      refine (step (Machine.isSteady_rawGet (-1) "__handle").isLocal fun _ never =>
        never.push (never.rawField (-1) "__handle")).seq fun _ _ => look fun _ _ => ?_
      exact (changeMachine (Machine.isSteady_pop 2).isLocal fun _ never => never.setTop _).seq
        fun _ _ => done
    | false => exact done
  · exact done

theorem readSlot (i : Int) : Ends limit levels (fun _ => True) (Vm.readSlot i) := by
  refine look fun m _ => look fun m _ => ?_
  split <;> first | exact done | skip
  all_goals
    refine (handleOf _).seq fun token _ => ?_
    cases token <;> exact done

theorem perform (within : RunsWithin limit levels c) {op : Op} (never : op.NeverRenders)
    (direct : ∀ inner, op ≠ .attempt inner) : Ends limit levels (fun _ => True) (op.perform c) := by
  -- Most operations change the machine alone, so each ends by what it keeps of never rendering; only the
  -- reads, the writes and the two calls apply functions, and these end within the levels.
  cases op with
  | setTop i =>
    exact (changeMachine (Machine.isSteady_setTop i).isLocal fun _ never => never.setTop i).seq
      fun _ _ => done
  | pop n =>
    exact (changeMachine (Machine.isSteady_pop n).isLocal fun _ never => never.setTop _).seq
      fun _ _ => done
  | pushNil | pushBoolean | pushNumber | pushInteger | pushString | pushLight =>
    refine (push (Machine.isQuery_const _) fun _ _ => ?_).seq fun _ _ => done
    exact trivial
  | pushValue i =>
    exact (push (Machine.isQuery_valueAt i) fun _ never => never.valueAt i).seq fun _ _ => done
  | pushFunction name body =>
    refine (push (Machine.isQuery_const _) fun _ _ => ?_).seq fun _ _ => done
    exact never
  | newTable =>
    exact (changeMachine Machine.isSteady_newTable.isLocal fun _ never => never.newTable).seq
      fun _ _ => done
  | getField i name => exact (getField within i name).seq fun _ _ => done
  | setField i name => exact (setField within i name).seq fun _ _ => done
  | rawGet i name =>
    exact (step (Machine.isSteady_rawGet i name).isLocal fun _ never =>
      never.push (never.rawField i name)).seq fun _ _ => done
  | rawSet i name =>
    exact (changeMachine (Machine.isRelative_rawSet i name).isLocal fun _ never => never.rawSet i name).seq
      fun _ _ => done
  | setMeta i =>
    exact ((step (Machine.isRelative_setMetatable i).isLocal fun _ never => never.setMetatable i).seq
      fun result _ => ofExcept result).seq fun _ _ => done
  | getMeta i =>
    exact (step (Machine.isSteady_getMetatable i).isLocal fun _ never => never.getMetatable i).seq
      fun _ _ => done
  | getGlobal name =>
    exact (step (Machine.isSteady_getGlobal name).isLocal fun _ never =>
      never.push (never.globals _)).seq fun _ _ => done
  | setGlobal name =>
    exact (changeMachine (Machine.isSteady_setGlobal name).isLocal fun _ never =>
      never.setGlobal name).seq fun _ _ => done
  | call args results => exact (call within args results false).seq fun _ _ => done
  | protectedCall args results => exact (call within args results true).seq fun _ _ => done
  | reference i =>
    exact (step (Machine.isRelative_reference i).isLocal fun _ never => never.reference i).seq fun _ _ => done
  | pushReference r =>
    exact (step (Machine.isSteady_pushReference r).isLocal fun _ never =>
      never.pushReference r).seq fun _ _ => done
  | releaseReference r =>
    exact (changeMachine (Machine.isRelative_releaseReference r).isLocal fun _ never =>
      never.releaseReference r).seq fun _ _ => done
  | load chunk source =>
    exact ((step (Machine.isSteady_load chunk source).isLocal fun _ never =>
      never.load chunk source).seq fun result _ => ofExcept result).seq fun _ _ => done
  | close => exact close.seq fun _ _ => done
  | writeSlot v =>
    exact (changeMachine (Machine.isSteady_writeSlot v).isLocal fun _ never => never.writeSlot v).seq
      fun _ _ => done
  -- What renders is excluded here, and an attempt is left to `runOp`.
  | display | render => exact never.elim
  | attempt inner => exact absurd rfl (direct inner)
  | readSlot i => exact (readSlot i).seq fun _ _ => done
  | handleOf i => exact (handleOf i).seq fun _ _ => done
  | top | absIndex | typeOf | toBoolean | toNumber | toInteger | toBytes | toLight | isClosed
  | readInteger => exact look fun _ _ => done

theorem report (name : String) (result : Except VmError OpAnswer) :
    Ends limit levels (fun _ => True) (Op.report name result) :=
  look fun _ _ => look fun _ _ => emit _

theorem runOp (within : RunsWithin limit levels c) (isQuiet : Bool) {op : Op}
    (never : op.NeverRenders) : Ends limit levels (fun _ => True) (op.run c isQuiet) := by
  by_cases attempted : ∃ inner, op = .attempt inner
  · obtain ⟨inner, rfl⟩ := attempted
    rw [Op.NeverRenders] at never
    simp only [Op.run]
    exact (runOp within isQuiet never).attempt.seq fun _ _ => done
  · have direct (inner : Op) : op ≠ .attempt inner := fun same => attempted ⟨inner, same⟩
    have announced : Ends limit levels (fun _ => True) (c.before op) := by
      rw [within.before]
      exact done
    rw [Op.run_eq direct]
    refine (announced.seq fun _ _ => (perform within never direct).attempt).seq fun result _ => ?_
    cases isQuiet with
    | true => exact (ofExcept _).seq fun _ _ => done
    | false => exact (report _ _).seq fun _ _ => (ofExcept _).seq fun _ _ => done
termination_by sizeOf op

theorem runOps (within : RunsWithin limit levels c) (isQuiet : Bool) {ops : List Op}
    (never : Op.NoneRenders ops) : Ends limit levels (fun _ => True) (Op.runAll c isQuiet ops) := by
  induction ops with
  | nil => exact done
  | cons op ops ih => exact (runOp within isQuiet never.1).seq fun _ _ => ih never.2

theorem runProgram (within : RunsWithin limit levels c) {p : Program} (never : p.NeverRenders) :
    Ends limit levels (fun _ => True) (p.run c) := by
  obtain ⟨ops, resultCount, failure, isQuiet⟩ := p
  refine ((runOps within isQuiet never).reword _).seq fun _ _ => ?_
  cases failure with
  | some text => exact Ends.failure text
  | none => exact look fun _ _ => done

theorem runNative (within : RunsWithin limit levels c) {code : NativeCode} (never : code.NeverRenders) :
    Ends limit levels (fun _ => True) (code.run c) := by
  cases code with
  | program p => exact runProgram within never
  | typeName =>
    have query := (Machine.isQuery_valueAt 1).map fun v => Value.string (utf8Encode v.typeName)
    exact (push query fun _ _ => trivial).seq fun _ _ => done
  | label text =>
    refine (push (Machine.isQuery_const _) fun _ _ => ?_).seq fun _ _ => done
    exact trivial
  | _ => exact never.elim

end Ends

/-- A caller that is allowed as many levels as the machine admits is never exhausted. -/
theorem runsWithin_callerAt (limit levels : Nat) : RunsWithin limit levels (callerAt levels) := by
  induction levels with
  | zero => exact ⟨nofun, rfl⟩
  | succ levels ih =>
    refine ⟨fun {left} left_eq code never => ?_, rfl⟩
    cases left_eq
    exact Ends.runNative ih never

end ScriptHost
