import Mathlib.Order.WellFounded
import ScriptHost.Proofs.Discipline.Cuts
import ScriptHost.Proofs.Session.Crossing
/-!
# Renderings that end

A table whose metatable has a `__tostring` function is rendered by calling the function and rendering what
it returns.  So a rendering may ask for another one, and that for a third.

The limit on nested calls does not bound their number.  It counts the functions that are running, and each
`__tostring` has returned when its result is rendered; nor is there a limit like the one on a chain of
`__index` redirections.  A rendering ends exactly if the renderings asked for come to an end, which they
need not even if every `__tostring` returns at once.
-/

namespace ScriptHost

open World Machine

/-! ## Asking for another rendering -/

namespace Machine

/-- The value at an index from the base is a table that has a `__tostring` function. -/
def AsksForText (m : Machine) (i : Int) : Prop :=
  (m.getMetatable i).1 = true ∧ ((m.getMetatable i).2.rawGet (-1) "__tostring").1.isFunction = true

/-- The machine with the `__tostring` function about to be called on the table. -/
def asking (m : Machine) (i : Int) : Machine :=
  let fetched := ((m.getMetatable i).2.rawGet (-1) "__tostring").2
  fetched.push (fetched.valueAt i)

/-- Only tables have a metatable. -/
theorem AsksForText.isTable {m : Machine} {i : Int} (asks : m.AsksForText i) :
    ∃ address, m.valueAt i = .table address := by
  have found := asks.1
  simp only [getMetatable, metatableAt?] at found
  cases v : m.valueAt i with
  | table address => exact ⟨address, rfl⟩
  | _ => simp [v] at found

end Machine

/-- The rendering of the value at an index calls a `__tostring` function. -/
def World.AsksForText (w : World) (i : Int) : Prop :=
  w.machine.AsksForText (w.machine.absIndex i)

/-- The world in which that function is about to be called. -/
def World.asking (w : World) (i : Int) : World :=
  { w with machine := w.machine.asking (w.machine.absIndex i) }

namespace Action

variable {σ ε ε' α β : Type} {s : σ}

theorem exhausted_attempt {x : Action σ ε α} :
    ((Action.attempt x : Action σ ε' (Except ε α)).run s).1 = .exhausted ↔ (x.run s).1 = .exhausted := by
  rw [run_attempt]
  rcases x.run s with ⟨_ | _ | _, s'⟩ <;> simp

theorem ofExcept_ne_exhausted (r : Except ε α) : ((Action.ofExcept r).run s).1 ≠ .exhausted := by
  cases r <;> simp

theorem exhausted_seq {x : Action σ ε α} {f : α → Action σ ε β} :
    ((x >>= f).run s).1 = .exhausted ↔
      (x.run s).1 = .exhausted ∨ ∃ a s', x.run s = (.value a, s') ∧ ((f a).run s').1 = .exhausted := by
  rw [run_bind]
  rcases x.run s with ⟨_ | _ | _, s'⟩ <;> simp

/-- What comes after an action does not matter if it is never exhausted. -/
theorem exhausted_seq_of_ends {x : Action σ ε α} {f : α → Action σ ε β}
    (ends : ∀ a s', ((f a).run s').1 ≠ .exhausted) :
    ((x >>= f).run s).1 = .exhausted ↔ (x.run s).1 = .exhausted := by
  rw [exhausted_seq]
  exact or_iff_left fun ⟨a, s', _, exhausted⟩ => ends a s' exhausted

end Action

namespace Vm

/-- Calls a `__tostring` function and renders what it returns. -/
def answer (c : Caller) : Vm String := do
  call c 1 1 true
  c.render (-1)

/-- Takes the rendered value off the stack, however its rendering ended. -/
def dropping (text : Except VmError String) : Vm String := do
  changeMachine (·.pop 1)
  Action.ofExcept text

theorem dropping_ne_exhausted (text : Except VmError String) (w : World) :
    ((dropping text).run w).1 ≠ .exhausted := Action.ofExcept_ne_exhausted text

variable {c : Caller} {w : World} {i : Int}

theorem render_ne_exhausted (plain : ¬ w.AsksForText i) : ((render c i).run w).1 ≠ .exhausted := by
  simp only [World.AsksForText, Machine.AsksForText, not_and] at plain
  simp only [render, Action.run_bind, run_askMachine]
  cases v : w.machine.valueAt (w.machine.absIndex i) with
  | table address =>
    simp only [renderTable, Action.run_bind, run_onMachine]
    split
    · rename_i hasMetatable
      simp [plain hasMetatable]
    · simp
  | _ => simp

theorem run_render_of_asks (asks : w.AsksForText i) :
    (render c i).run w =
      (Action.attempt (call c 1 1 true >>= fun _ => Action.attempt (c.render (-1)) >>= dropping) >>=
        dropping).run (w.asking i) := by
  obtain ⟨address, isTable⟩ := AsksForText.isTable asks
  obtain ⟨hasMetatable, isFunction⟩ := asks
  simp only [render, renderTable, isTable, Action.run_bind, run_askMachine, run_onMachine,
    hasMetatable, isFunction, run_changeMachine, if_true, World.asking, Machine.asking]
  rfl

theorem render_exhausted_iff (asks : w.AsksForText i) :
    ((render c i).run w).1 = .exhausted ↔ ((answer c).run (w.asking i)).1 = .exhausted := by
  have finished : ∀ s, ((Action.attempt (c.render (-1)) >>= dropping).run s).1 = .exhausted ↔
      ((c.render (-1)).run s).1 = .exhausted := by
    intro s
    rw [Action.exhausted_seq_of_ends dropping_ne_exhausted, Action.exhausted_attempt]
  rw [run_render_of_asks asks, Action.exhausted_seq_of_ends dropping_ne_exhausted,
    Action.exhausted_attempt, answer, Action.exhausted_seq, Action.exhausted_seq]
  simp only [finished]

end Vm

/-! ## Ending with enough levels -/

/-- The code ends in the world if it may nest enough levels. -/
def EndsIn {ε α : Type} (w : World) (x : Caller → Action World ε α) : Prop :=
  ∃ depth, ((x (callerAt depth)).run w).1 ≠ .exhausted

theorem endsIn_congr {ε ε' α β : Type} {w : World} {x : Caller → Action World ε α}
    {y : Caller → Action World ε' β}
    (same : ∀ c, ((x c).run w).1 = .exhausted ↔ ((y c).run w).1 = .exhausted) :
    EndsIn w x ↔ EndsIn w y :=
  exists_congr fun depth => not_congr (same (callerAt depth))

theorem Vm.display_exhausted_iff {e : Type} (c : Caller) (i : Int) (w : World) :
    ((Vm.display c i : Action World e String).run w).1 = .exhausted ↔
      ((Vm.render c i).run w).1 = .exhausted := by
  refine (Action.exhausted_seq_of_ends fun text s => ?_).trans Action.exhausted_attempt
  cases text <;> simp

theorem NativeCode.toText_exhausted_iff (c : Caller) (w : World) :
    ((NativeCode.run c .toText).run w).1 = .exhausted ↔ ((Vm.render c 1).run w).1 = .exhausted := by
  refine (Action.exhausted_seq_of_ends fun text s => ?_).trans ?_
  · simp
  · rw [Vm.inNative, Action.run_mapFailure]
    rcases (Vm.render c 1).run w with ⟨_ | _ | _, w'⟩ <;> simp

/-- Of a frame with a single value. -/
theorem Native.print_exhausted_iff (c : Caller) {w : World} (single : w.machine.frameSize = 1) :
    ((Native.print c).run w).1 = .exhausted ↔ ((Vm.render c 1).run w).1 = .exhausted := by
  rw [Native.print, Action.run_bind, run_askMachine, single, ← Vm.display_exhausted_iff (e := String)]
  simp only [Vm.displayFrom, Action.run_bind]
  rcases (Vm.display c 1).run w with ⟨_ | _ | _, w'⟩ <;> simp

section Levels

variable {w w' : World}

/-- A call ends the same way at any number of levels at which it ends. -/
theorem Vm.run_call_eq {depth depth' : Nat} {argCount resultCount : Int} {isProtected : Bool}
    (ends : ((Vm.call (callerAt depth) argCount resultCount isProtected).run w).1 ≠ .exhausted)
    (ends' : ((Vm.call (callerAt depth') argCount resultCount isProtected).run w).1 ≠ .exhausted) :
    (Vm.call (callerAt depth) argCount resultCount isProtected).run w =
      (Vm.call (callerAt depth') argCount resultCount isProtected).run w := by
  have deeper := Action.IsCutOf.call (callerAt_isCutOf depth depth') argCount resultCount isProtected w ends
  have deeper' := Action.IsCutOf.call (callerAt_isCutOf depth' depth) argCount resultCount isProtected w ends'
  rw [Nat.add_comm] at deeper'
  rw [← deeper, ← deeper']

theorem Vm.render_isCutOf (depth more : Nat) (i : Int) :
    (Vm.render (callerAt depth) i).IsCutOf (Vm.render (callerAt (depth + more)) i) :=
  ((cutting fun _ => .refl _).covers_watchedCaller depth more fun _ _ _ y => .exhaust y).renderValue i

end Levels

/-! ## Chains of renderings -/

/-- The rendering of the value at an index, from a world on. -/
structure Rendering where
  world : World
  index : Int

namespace Rendering

/-- A rendering calls a `__tostring` function that returns, and goes on with what it returned, which is
    on top of the stack. -/
structure Next (r r' : Rendering) : Prop where
  asks : r.world.AsksForText r.index
  returned : ∃ depth, (Vm.call (callerAt depth) 1 1 true).run (r.world.asking r.index) = (.value (), r'.world)
  onTop : r'.index = -1

/-- The `__tostring` function that is called, if there is one, returns or fails. -/
def Returns (r : Rendering) : Prop :=
  r.world.AsksForText r.index → EndsIn (r.world.asking r.index) fun c => Vm.call c 1 1 true

def EndsAt (r : Rendering) (depth : Nat) : Prop :=
  ((Vm.render (callerAt depth) r.index).run r.world).1 ≠ .exhausted

/-- One rendering follows another for ever. -/
def IsEndless (r : Rendering) : Prop :=
  ∃ chain : Nat → Rendering, chain 0 = r ∧ ∀ n, (chain n).Next (chain (n + 1))

variable {r r' : Rendering} {depth : Nat}

theorem EndsAt.deeper (ends : r.EndsAt depth) (more : Nat) : r.EndsAt (depth + more) := by
  rw [EndsAt, Vm.render_isCutOf depth more r.index r.world ends]
  exact ends

/-- Every rendering uses up a level of those that are left for the ones after it. -/
theorem EndsAt.next (ends : r.EndsAt depth) (next : r.Next r') : ∃ less < depth, r'.EndsAt less := by
  obtain ⟨asks, ⟨depth', returned⟩, onTop⟩ := next
  have answered := (not_congr (Vm.render_exhausted_iff asks)).1 ends
  rw [Vm.answer, Action.exhausted_seq, not_or] at answered
  have called : (Vm.call (callerAt depth) 1 1 true).run (r.world.asking r.index) = (.value (), r'.world) := by
    rw [← returned]
    exact Vm.run_call_eq answered.1 (by simp [returned])
  have rendered : (((callerAt depth).render (-1)).run r'.world).1 ≠ .exhausted := fun exhausted =>
    answered.2 ⟨(), r'.world, called, exhausted⟩
  cases depth with
  | zero => exact absurd rfl rendered
  | succ less =>
    rw [← onTop] at rendered
    exact ⟨less, less.lt_succ_self, rendered⟩

/-- A rendering ends if each that it asks for does. -/
theorem ends_of_next (returns : r.Returns) (ends : ∀ r', r.Next r' → ∃ depth, r'.EndsAt depth) :
    ∃ depth, r.EndsAt depth := by
  by_cases asks : r.world.AsksForText r.index
  · obtain ⟨depth, called⟩ := returns asks
    rcases ran : (Vm.call (callerAt depth) 1 1 true).run (r.world.asking r.index) with ⟨_ | e | _, w⟩
    · obtain ⟨depth', rendered⟩ := ends ⟨w, -1⟩ ⟨asks, ⟨depth, ran⟩, rfl⟩
      -- Enough levels for the call, and one more than enough for what it returned.
      refine ⟨depth + (depth' + 1), fun exhausted => ?_⟩
      have calledDeeper := Action.IsCutOf.call (callerAt_isCutOf depth (depth' + 1)) 1 1 true _ called
      have renderedDeeper := rendered.deeper depth
      rw [Nat.add_comm] at renderedDeeper
      rw [Vm.render_exhausted_iff asks, Vm.answer, Action.exhausted_seq, calledDeeper, ran] at exhausted
      obtain same | ⟨_, w', same, exhausted⟩ := exhausted
      · cases same
      · cases same
        exact renderedDeeper exhausted
    · refine ⟨depth, fun exhausted => ?_⟩
      rw [Vm.render_exhausted_iff asks, Vm.answer, Action.run_bind, ran] at exhausted
      cases exhausted
    · exact absurd (by rw [ran]) called
  · exact ⟨0, Vm.render_ne_exhausted asks⟩

theorem not_isEndless_iff : ¬ r.IsEndless ↔ Acc (fun later earlier => Next earlier later) r := by
  exact (not_congr (not_acc_iff_exists_descending_chain
    (r := fun later earlier : Rendering => earlier.Next later)).symm).trans not_not

end Rendering

/-- If every `__tostring` function that is called on the way returns, a rendering ends exactly if it does
    not lead from one to the next for ever; and so do the display of the value, its conversion to text and
    its output. -/
theorem rendering_ends_iff (r : Rendering)
    (returning : ∀ r', Relation.ReflTransGen Rendering.Next r r' → r'.Returns) :
    (EndsIn r.world (fun c => Vm.render c r.index) ↔ ¬ r.IsEndless) ∧
      (EndsIn r.world (fun c => (Vm.display c r.index : Vm String)) ↔ ¬ r.IsEndless) ∧
      (r.index = 1 → (EndsIn r.world (fun c => NativeCode.run c .toText) ↔ ¬ r.IsEndless) ∧
        (r.world.machine.frameSize = 1 → (EndsIn r.world Native.print ↔ ¬ r.IsEndless))) := by
  have ends_iff : EndsIn r.world (fun c => Vm.render c r.index) ↔ ¬ r.IsEndless := by
    rw [Rendering.not_isEndless_iff]
    constructor
    · rintro ⟨depth, ends⟩
      replace ends : r.EndsAt depth := ends
      clear returning
      -- Each rendering that it asks for has a smaller depth to end in.
      induction depth using Nat.strong_induction_on generalizing r with
      | _ depth ih =>
        refine ⟨_, fun r' next => ?_⟩
        obtain ⟨less, lt, ends'⟩ := ends.next next
        exact ih less lt r' ends'
    · intro accessible
      -- No descending chain makes the renderings accessible, so the depths of the next ones are at hand.
      induction accessible with
      | intro r _ ih =>
        refine Rendering.ends_of_next (returning r .refl) fun r' next => ?_
        exact ih r' next fun r'' path => returning r'' (.head next path)
  refine ⟨ends_iff, ?_, fun first => ⟨?_, fun single => ?_⟩⟩
  · rw [← ends_iff]
    exact endsIn_congr fun c => Vm.display_exhausted_iff c r.index r.world
  · rw [← ends_iff, first]
    exact endsIn_congr fun c => NativeCode.toText_exhausted_iff c r.world
  · rw [← ends_iff, first]
    exact endsIn_congr fun c => Native.print_exhausted_iff c single

/-! ## A table that stands for itself -/

/-- The world with a value pushed. -/
def World.withTop (w : World) (v : Value) : World := { w with machine := w.machine.push v }

namespace Vm

/-- A function that does nothing, and so returns what it is called with. -/
def echo (isQuiet : Bool) : NativeCode := .program (.mk [] none none isQuiet)

variable {w w' : World} {name : String} {isQuiet : Bool} {v : Value}

theorem run_echo (c : Caller) : (NativeCode.run c (echo isQuiet)).run w = (.value w.machine.frameSize, w) := by
  simp [echo, NativeCode.run, Program.run, Op.runAll, Vm.inNative]

/-- A function that returns its argument leaves that in its place. -/
theorem deliver_eq_push {m m₀ : Machine} {f : Value} (cut : m.truncate m₀.height = m₀)
    (stack : m.stack = (m₀.stack.push f).push v) : m.deliver m₀.height 1 1 = m₀.push v := by
  have height : m.height = (m₀.stack.push f).size + 1 := by simp [Machine.height, stack]
  have height₀ : m₀.height + 1 = (m₀.stack.push f).size := by simp [Machine.height]
  have returned : m.returned m₀.height 1 = #[v] := by
    have first : m.height - min 1 (m.height - (m₀.height + 1)) = (m₀.stack.push f).size := by omega
    rw [Machine.returned, first, height, stack, Array.push_eq_append, Array.extract_append_right]
    rfl
  have below : m.stack.shrink m₀.height = m₀.stack := congrArg Machine.stack cut
  have delivered : (m.deliver m₀.height 1 1).stack = m₀.stack.push v := by
    rw [stack_deliver, returned, below]
    rfl
  -- Beside the stack it does what cutting the frame away does.
  have other : m.deliver m₀.height 1 1 =
      { m.truncate m₀.height with stack := (m.deliver m₀.height 1 1).stack } := rfl
  rw [other, delivered, cut]
  rfl

theorem run_call_echo (isOpen : w.machine.isClosed = false) (room : w.machine.depth < w.machine.maxDepth)
    (whole : w.machine.base ≤ w.machine.height) (depth : Nat) :
    (call (callerAt (depth + 1)) 1 1 true).run (prepared w (.function name (echo isQuiet)) [v]) =
      (.value (), w.withTop v) := by
  have ready : (prepared w (.function name (echo isQuiet)) [v]).machine.callee 1 =
      .ready w.machine.height (echo isQuiet) := callee_prepared whole isOpen room
  have single : (started w (.function name (echo isQuiet)) [v]).machine.frameSize = 1 := by
    have height_eq : (started w (.function name (echo isQuiet)) [v]).machine.height = w.machine.height + 1 + 1 :=
      height_prepared
    rw [frameSize, base_entered, height_eq]
    omega
  have ran : ((callerAt (depth + 1)).run (echo isQuiet)).run
      (started w (.function name (echo isQuiet)) [v]) = (.value 1, _) :=
    single ▸ run_echo (callerAt depth)
  have delivered : ((started w (.function name (echo isQuiet)) [v]).machine.leave w.machine.depth).deliver
      w.machine.height 1 1 = w.machine.push v :=
    deliver_eq_push (f := .function name (echo isQuiet)) cut_started
      (by simp [started, entered, prepared, Machine.enter, Machine.leave])
  have depth_eq : (prepared w (.function name (echo isQuiet)) [v]).machine.depth = w.machine.depth := rfl
  rw [run_call, ready]
  simp only [run_runFrame, ran, outcomeOf, left, depth_eq, delivered]
  rfl

end Vm

namespace Machine

variable {m : Machine} {i : Int} {a b : Nat} {f : Value}

/-- An index from the base denotes the same slot whatever is pushed. -/
theorem valueAt_push (positive : 0 < i) (found : m.valueAt i = .table a) (v : Value) :
    (m.push v).valueAt i = .table a := by
  have base : (m.push v).base = m.base := rfl
  have height : (m.push v).height = m.height + 1 := by simp [Machine.height, Machine.push]
  rw [valueAt, slotIndex?, if_pos positive] at found ⊢
  rw [base, height]
  by_cases inside : m.base + i.toNat - 1 < m.height
  · rw [if_pos inside] at found
    have room : m.base + i.toNat - 1 < m.stack.size := inside
    rw [if_pos (Nat.lt_succ_of_lt inside)]
    simpa [Machine.push, Array.getElem?_push, Nat.ne_of_lt room] using found
  · rw [if_neg inside] at found
    cases found

/-- What is called is the function that the metatable holds, on the table. -/
theorem asking_eq (whole : m.base ≤ m.height) (positive : 0 < i) (found : m.valueAt i = .table a)
    (metatable : (m.table a).metatable = some b)
    (held : (m.table b).get (utf8Encode "__tostring") = f) (isFunction : f.isFunction = true) :
    m.AsksForText i ∧ m.asking i = ((m.push (.table b)).push f).push (.table a) := by
  have pushed := getMetatable_of_table found metatable
  have field : (m.push (.table b)).rawField (-1) "__tostring" = f :=
    (rawField_push_table whole b "__tostring").trans held
  have same : ((m.push (.table b)).push f).valueAt i = .table a :=
    valueAt_push positive (valueAt_push positive found _) _
  simp only [AsksForText, asking, pushed, rawGet, field, same]
  exact ⟨⟨trivial, isFunction⟩, trivial⟩

end Machine

namespace Rendering

/-- The value is a table that stands for itself: its `__tostring` function returns its argument. -/
structure Echoes (r : Rendering) : Prop where
  isOpen : r.world.machine.isClosed = false
  room : r.world.machine.depth < r.world.machine.maxDepth
  whole : r.world.machine.base ≤ r.world.machine.height
  positive : 0 < r.world.machine.absIndex r.index
  echoed : ∃ a b name isQuiet,
    r.world.machine.valueAt (r.world.machine.absIndex r.index) = .table a ∧
      (r.world.machine.table a).metatable = some b ∧
      (r.world.machine.table b).get (utf8Encode "__tostring") = .function name (Vm.echo isQuiet)

variable {r r' : Rendering}

/-- Its rendering asks for its own rendering, and that is what any call comes to. -/
theorem Echoes.next (echoes : r.Echoes) :
    ∃ r' : Rendering, r'.Echoes ∧ r.Next r' ∧ ∀ w depth,
      (Vm.call (callerAt depth) 1 1 true).run (r.world.asking r.index) = (.value (), w) → w = r'.world := by
  obtain ⟨isOpen, room, whole, positive, a, b, name, isQuiet, found, metatable, held⟩ := echoes
  obtain ⟨asks, asking⟩ := asking_eq whole positive found metatable held rfl
  have wholePushed : (r.world.withTop (.table b)).machine.base ≤ (r.world.withTop (.table b)).machine.height :=
    (isTop_push whole (.table b)).whole
  have prepared : r.world.asking r.index =
      Vm.prepared (r.world.withTop (.table b)) (.function name (Vm.echo isQuiet)) [.table a] := by
    rw [World.asking, asking]
    simp [Vm.prepared, World.withTop, Machine.push]
  have ran : ∀ depth, (Vm.call (callerAt (depth + 1)) 1 1 true).run (r.world.asking r.index) =
      (.value (), (r.world.withTop (.table b)).withTop (.table a)) := by
    intro depth
    rw [prepared]
    exact Vm.run_call_echo (w := r.world.withTop (.table b)) isOpen room wholePushed depth
  have top : ((r.world.withTop (.table b)).withTop (.table a)).machine.IsTop (.table a) :=
    isTop_push wholePushed _
  have echoes' : Echoes ⟨(r.world.withTop (.table b)).withTop (.table a), -1⟩ :=
    ⟨isOpen, room, top.whole, top.absIndex_pos, a, b, name, isQuiet, top.valueAt_eq, metatable, held⟩
  refine ⟨_, echoes', ⟨asks, ⟨1, ran 0⟩, rfl⟩, fun w depth same => ?_⟩
  -- The call has one outcome at all depths at which it ends, so the world does not depend on the depth.
  have agree : (Vm.call (callerAt depth) 1 1 true).run (r.world.asking r.index) =
      (Vm.call (callerAt 1) 1 1 true).run (r.world.asking r.index) :=
    Vm.run_call_eq (by simp [same]) (by simp [ran])
  rw [same, ran] at agree
  exact congrArg Prod.snd agree

theorem Echoes.of_next (echoes : r.Echoes) (next : r.Next r') : r'.Echoes := by
  obtain ⟨r'', echoes', next', only⟩ := echoes.next
  obtain ⟨_, ⟨depth, returned⟩, onTop⟩ := next
  have same : r' = r'' := by
    cases r'
    cases r''
    rw [Rendering.mk.injEq]
    exact ⟨only _ depth returned, onTop.trans next'.onTop.symm⟩
  rwa [same]

theorem Echoes.returns (echoes : r.Echoes) : r.Returns := by
  obtain ⟨_, _, ⟨_, ⟨depth, returned⟩, _⟩, _⟩ := echoes.next
  exact fun _ => ⟨depth, by simp [returned]⟩

theorem Echoes.returning (echoes : r.Echoes) (path : Relation.ReflTransGen Next r r') : r'.Returns := by
  suffices r'.Echoes from this.returns
  induction path with
  | refl => exact echoes
  | tail _ next ih => exact ih.of_next next

theorem Echoes.isEndless (echoes : r.Echoes) : r.IsEndless := by
  by_contra finite
  rw [not_isEndless_iff] at finite
  induction finite with
  | intro r _ ih =>
    obtain ⟨r', echoes', next, _⟩ := echoes.next
    exact ih r' next echoes'

end Rendering

/-- The world with the value of a table that stands for itself on its stack. -/
def echoWorld : World :=
  let texts : Table := Table.empty.set (utf8Encode "__tostring") (.function "f" (Vm.echo true))
  { (default : World) with
    machine := { (default : Machine) with
      stack := #[.table 0], tables := #[⟨.empty, some 1⟩, texts] } }

/-- Every call of its `__tostring` function returns, and yet no number of levels is enough for its
    rendering. -/
theorem rendering_never_ends_of_echo :
    (∀ r, Relation.ReflTransGen Rendering.Next ⟨echoWorld, 1⟩ r → r.Returns) ∧
      ¬ EndsIn echoWorld (fun c => Vm.render c 1) := by
  have echoes : (⟨echoWorld, 1⟩ : Rendering).Echoes :=
    ⟨rfl, by decide, by decide, by decide, 0, 1, "f", true, rfl, rfl, rfl⟩
  have returning : ∀ r, Relation.ReflTransGen Rendering.Next ⟨echoWorld, 1⟩ r → r.Returns :=
    fun _ path => echoes.returning path
  have ends_iff := (rendering_ends_iff ⟨echoWorld, 1⟩ returning).1
  exact ⟨returning, fun ends => ends_iff.1 ends echoes.isEndless⟩

end ScriptHost
