import ScriptHost.Proofs.Machine.Positions
import ScriptHost.Proofs.Machine.Rendering
import ScriptHost.Proofs.Session.Calls
/-!
# What rendering leaves on the stack

A table is rendered by way of the stack.  Its metatable, the `__tostring` function and the table itself are
pushed, the function is called, and what it returns is rendered in turn, while the metatable is still below
it; then both are popped.  Every way to an end takes off what was put on: the protected call removes the
function and its argument, the one result is popped however its own rendering ended, and so is the
metatable (`Vm.renderAs_leaves`).

The value at an index is all that matters to its rendering, so that can be given without the index
(`Vm.renderAs`).
-/

namespace ScriptHost

open World Machine

/-! ## Rendering a value -/

/-- The metatable of a table and the `__tostring` function that it holds, if it holds one. -/
def Machine.textFunction? (m : Machine) (a : Nat) : Option (Nat × Value) :=
  (m.table a).metatable.bind fun b =>
    let f := (m.table b).get (utf8Encode "__tostring")
    if f.isFunction then some (b, f) else none

namespace Vm

/-- Calls a `__tostring` function on the table above it, and renders what it returns in its place. -/
def askText (c : Caller) : Vm String := do
  call c 1 1 true
  let text ← Action.attempt (c.render (-1))
  dropping text

/-- Renders a table by the function that its metatable holds. -/
def renderBy (c : Caller) (a b : Nat) (f : Value) : Vm String := do
  changeMachine fun m => ((m.push (.table b)).push f).push (.table a)
  let text ← Action.attempt (askText c)
  dropping text

/-- Renders a value, wherever it is. -/
def renderAs (c : Caller) : Value → Vm String
  | .nil => return "nil"
  | .boolean b => return if b then "true" else "false"
  | .number x => return x.format
  | .string bytes => return utf8DecodeLossy bytes
  | .function .. => return "function"
  | .light _ => return "userdata"
  | .table a => do
    match ← askMachine (·.textFunction? a) with
    | some (b, f) => renderBy c a b f
    | none => return "table"

end Vm

section Values

variable {c : Caller} {w : World} {i : Int} {a b : Nat} {f : Value}

theorem Machine.textFunction?_eq_some {m : Machine} : m.textFunction? a = some (b, f) ↔
    (m.table a).metatable = some b ∧ (m.table b).get (utf8Encode "__tostring") = f ∧ f.isFunction = true := by
  rw [textFunction?, Option.bind_eq_some_iff]
  constructor
  · rintro ⟨b', metatable, held⟩
    rw [Option.ite_none_right_eq_some, Option.some.injEq, Prod.mk.injEq] at held
    obtain ⟨isFunction, rfl, rfl⟩ := held
    exact ⟨metatable, rfl, isFunction⟩
  · rintro ⟨metatable, rfl, isFunction⟩
    exact ⟨b, metatable, if_pos isFunction⟩

theorem Machine.pop_push_push {m : Machine} (whole : m.base ≤ m.height) (u v : Value) :
    ((m.push u).push v).pop 2 = m := by
  have stack : ((m.push u).push v).stack = m.stack ++ #[u, v] := Array.ext' (by simp [push])
  have popped : ((m.push u).push v).pop 2 = { (m.push u).push v with stack := m.stack } :=
    pop_size whole stack rfl rfl
  exact popped

namespace Vm

/-- A table without such a function is shown as what it is. -/
theorem run_renderTable_of_none {slot : Nat} (denotes : w.machine.slotIndex? i = some slot)
    (found : w.machine.valueAt i = .table a) (silent : w.machine.textFunction? a = none) :
    (renderTable c i).run w = (.value "table", w) := by
  have whole : w.machine.base ≤ w.machine.height := Nat.le_of_lt (base_lt_of_slotIndex? denotes)
  cases metatable : (w.machine.table a).metatable with
  | none => simp [renderTable, getMetatable, metatableAt?, found, metatable]
  | some b =>
    have pushed := getMetatable_of_table found metatable
    have field : ((w.machine.push (.table b)).rawField (-1) "__tostring").isFunction = false := by
      rw [rawField_push_table whole]
      simpa [textFunction?, metatable] using silent
    simp [renderTable, pushed, rawGet, field, pop_push_push whole]

/-- What is rendered is the value that the index denotes. -/
theorem run_render (straight : ¬ w.machine.Strays i) :
    (render c i).run w = (renderAs c (w.machine.valueAt i)).run w := by
  have found := valueAt_absIndex straight
  cases v : w.machine.valueAt i with
  | table a =>
    rw [v] at found
    obtain ⟨slot, denotes⟩ := denotes_of_valueAt v (by simp)
    have denotes' := (slotIndex?_absIndex straight).trans denotes
    have positive := absIndex_pos_of_slotIndex? denotes
    simp only [renderAs, Action.run_bind, run_askMachine]
    cases asked : w.machine.textFunction? a with
    | none =>
      simp only [render, Action.run_bind, run_askMachine, found]
      exact run_renderTable_of_none denotes' found asked
    | some fetched =>
      obtain ⟨b, f⟩ := fetched
      obtain ⟨metatable, held, isFunction⟩ := textFunction?_eq_some.1 asked
      obtain ⟨asks, asking⟩ := asking_eq (Nat.le_of_lt (base_lt_of_slotIndex? denotes)) positive found
        metatable held isFunction
      rw [run_render_of_asks asks, World.asking, asking]
      rfl
  | _ => simp [render, renderAs, found, v]

end Vm

end Values

/-! ## Stacks that stay -/

namespace World.SameSlots

variable {w w₁ w₂ : World}

theorem refl (w : World) : w.SameSlots w := ⟨rfl, rfl⟩

theorem trans (first : w.SameSlots w₁) (second : w₁.SameSlots w₂) : w.SameSlots w₂ :=
  ⟨second.stack.trans first.stack, second.frames.trans first.frames⟩

theorem base_eq (same : w.SameSlots w₁) : w₁.machine.base = w.machine.base :=
  congrArg (·.back?.getD 0) same.frames

theorem height_eq (same : w.SameSlots w₁) : w₁.machine.height = w.machine.height :=
  congrArg Array.size same.stack

theorem whole (same : w.SameSlots w₁) (whole : w.machine.base ≤ w.machine.height) :
    w₁.machine.base ≤ w₁.machine.height := by
  rw [same.base_eq, same.height_eq]
  exact whole

theorem slotIndex?_eq (same : w.SameSlots w₁) (i : Int) : w₁.machine.slotIndex? i = w.machine.slotIndex? i := by
  have machine : w₁.machine =
      { w₁.machine with stack := w.machine.stack, frames := w.machine.frames } := by
    rw [← same.stack, ← same.frames]
  rw [machine]
  rfl

/-- What was put on top is popped. -/
theorem pop {v : Value} (whole : w.machine.base ≤ w.machine.height) (pushed : (w.withTop v).SameSlots w₁) :
    w.SameSlots { w₁ with machine := w₁.machine.pop 1 } := by
  have stack : w₁.machine.stack = w.machine.stack ++ #[v] := pushed.stack.trans Array.push_eq_append
  have frames : w₁.machine.frames = w.machine.frames := pushed.frames
  have popped : w₁.machine.pop 1 = { w₁.machine with stack := w.machine.stack } :=
    pop_size whole stack frames rfl
  rw [popped]
  exact ⟨rfl, frames⟩

end World.SameSlots

/-- The stack and the frames are afterwards as they were, if the action ends and leaves the machine open. -/
def Action.LeavesSlots {ε α : Type} (x : Action World ε α) (w : World) : Prop :=
  ∀ {outcome w'}, x.run w = (outcome, w') → outcome ≠ .exhausted → w'.machine.isClosed = false →
    w.SameSlots w'

namespace Vm

variable {w w₁ w' : World} {f v : Value} {depth : Nat} {outcome : Outcome VmError String}

theorem run_dropping (text : Except VmError String) (w : World) :
    (dropping text).run w = ((Action.ofExcept text : Vm String).run w |>.1,
      { w with machine := w.machine.pop 1 }) := by
  cases text <;> rfl

theorem isolated_dropping (text : Except VmError String) : Isolated (dropping text) :=
  (Isolated.changeMachine (isSteady_pop 1).toIsRelative).seq fun _ => .ofExcept text

/-- What is rendered on top of the stack is taken off, however that ends. -/
theorem leaves_of_dropping {x : Vm String} (whole : w.machine.base ≤ w.machine.height)
    (leaves : ∀ {outcome w'}, x.run w₁ = (outcome, w') → outcome ≠ .exhausted →
      w'.machine.isClosed = false → (w.withTop v).SameSlots w')
    (ran : (Action.attempt x >>= dropping).run w₁ = (outcome, w')) (ended : outcome ≠ .exhausted)
    (isOpen : w'.machine.isClosed = false) : w.SameSlots w' := by
  have isOpen_pop (m : Machine) : (m.pop 1).isClosed = m.isClosed := (isSteady_pop 1).isClosed m
  rw [Action.run_bind, Action.run_attempt] at ran
  -- Text or error, the same one value is popped after it.
  rcases rendered : x.run w₁ with ⟨text | e | _, w₂⟩ <;> simp only [rendered, run_dropping] at ran <;> cases ran
  · exact (leaves rendered (by simp) ((isOpen_pop _).symm.trans isOpen)).pop whole
  · exact (leaves rendered (by simp) ((isOpen_pop _).symm.trans isOpen)).pop whole
  · exact absurd rfl ended

/-- A function that returns leaves one result, and the rendering of that leaves nothing. -/
theorem leaves_of_askText (whole : w.machine.base ≤ w.machine.height)
    (inner : ∀ (u : World) (x : Value), u.machine.base ≤ u.machine.height →
      ((callerAt depth).render (-1)).LeavesSlots (u.withTop x))
    (ran : (askText (callerAt depth)).run ((w.withTop f).withTop v) = (outcome, w'))
    (ended : outcome ≠ .exhausted) (isOpen : w'.machine.isClosed = false) : w.SameSlots w' := by
  have stacked : (w.withTop f).Stacks 1 ((w.withTop f).withTop v) := .push v
  rw [askText, Action.run_bind] at ran
  rcases called : (call (callerAt depth) 1 1 true).run ((w.withTop f).withTop v) with ⟨_ | e | _, w₁⟩ <;>
    simp only [called] at ran
  · have isOpen₁ : w₁.machine.isClosed = false := by
      have rendering : Isolated ((callerAt depth).render (-1)) :=
        (isolation.covers_watchedCaller depth 0).render (-1)
      exact (rendering.attempt.seq isolated_dropping).isOpen ran isOpen
    obtain ⟨_, failed, _⟩ | ⟨_, _, _, w₂, -, -, -, rfl⟩ :=
      Stacks.call whole stacked called (by simp) isOpen₁
    · cases failed
    · -- The function may have changed all but the stack, so the inner rendering starts from a world of its own.
      let left : World :=
        { w₂ with machine := { w₂.machine with stack := w.machine.stack, frames := w.machine.frames } }
      have same : w.SameSlots left := ⟨rfl, rfl⟩
      exact same.trans (leaves_of_dropping (same.whole whole) (inner left _ (same.whole whole)) ran ended isOpen)
  · cases ran
    obtain ⟨_, -, stack, frames⟩ | ⟨_, _, _, _, returned, _⟩ := Stacks.call whole stacked called (by simp) isOpen
    · exact ⟨stack, frames⟩
    · cases returned
  · cases ran
    exact absurd rfl ended

/-- So a rendering leaves the stack as it was if the ones that it asks for do. -/
theorem leavesSlots_renderAs_of_inner (whole : w.machine.base ≤ w.machine.height)
    (inner : ∀ (u : World) (x : Value), u.machine.base ≤ u.machine.height →
      ((callerAt depth).render (-1)).LeavesSlots (u.withTop x)) (v : Value) :
    (renderAs (callerAt depth) v).LeavesSlots w := by
  intro outcome w' ran ended isOpen
  cases v with
  | table a =>
    simp only [renderAs, Action.run_bind, run_askMachine] at ran
    cases asked : w.machine.textFunction? a with
    | none =>
      rw [asked] at ran
      cases ran
      exact .refl w
    | some fetched =>
      obtain ⟨b, f⟩ := fetched
      rw [asked] at ran
      have wholeBelow : (w.withTop (.table b)).machine.base ≤ (w.withTop (.table b)).machine.height :=
        (Stacks.push (w := w) (.table b)).whole whole
      have ran : (Action.attempt (askText (callerAt depth)) >>= dropping).run
        (((w.withTop (.table b)).withTop f).withTop (.table a)) = (outcome, w') := ran
      exact leaves_of_dropping whole (leaves_of_askText wholeBelow inner) ran ended isOpen
  | _ =>
    cases ran
    exact .refl w

/-- A rendering that ends leaves the stack as it was, however often it asks for another one. -/
theorem leavesSlots_renderAs (whole : w.machine.base ≤ w.machine.height) (v : Value) :
    (renderAs (callerAt depth) v).LeavesSlots w := by
  -- What a function returns is rendered with one level of calls less, so the induction is on the levels.
  induction depth generalizing w v with
  | zero =>
    refine leavesSlots_renderAs_of_inner whole (fun u x _ outcome w' ran ended _ => ?_) v
    cases ran
    exact absurd rfl ended
  | succ depth ih =>
    refine leavesSlots_renderAs_of_inner whole (fun u x whole outcome w' ran => ?_) v
    have top : (u.withTop x).machine.valueAt (-1) = x := valueAt_top rfl whole
    have straight : ¬ (u.withTop x).machine.Strays (-1) := fun strays => by
      have low := strays.2
      simp only [Machine.top] at low
      omega
    have ran : (render (callerAt depth) (-1)).run (u.withTop x) = (outcome, w') := ran
    rw [run_render straight, top] at ran
    exact ih ((Stacks.push (w := u) x).whole whole) x ran

end Vm

/-! ## Output -/

/-- What an argument is shown as: the text that it is rendered as, and a plain table if that fails. -/
def Outcome.shown : Outcome VmError String → String
  | .value text => text
  | _ => "table"

/-- The values from an index up are rendered one after the other, each with the slots as in the first
    world. -/
inductive World.DisplaysAs (c : Caller) (start : World) : Int → World → List String → World → Prop where
  | nil {i : Int} {w : World} (same : start.SameSlots w) : DisplaysAs c start i w [] w
  | cons {i : Int} {w w₁ w' : World} {outcome : Outcome VmError String} {texts : List String}
    (same : start.SameSlots w) (ran : (Vm.render c i).run w = (outcome, w₁)) (ended : outcome ≠ .exhausted)
    (rest : DisplaysAs c start (i + 1) w₁ texts w') : DisplaysAs c start i w (outcome.shown :: texts) w'

section Output

variable {w w' start : World} {depth : Nat} {i : Int}

theorem World.DisplaysAs.sameSlots {c : Caller} {texts : List String} (shown : DisplaysAs c start i w texts w') :
    start.SameSlots w' := by
  induction shown with
  | nil same => exact same
  | cons _ _ _ _ ih => exact ih

/-- Rendering the value in a slot leaves the stack as it was. -/
theorem Vm.leavesSlots_render {slot : Nat} (denotes : w.machine.slotIndex? i = some slot) :
    (render (callerAt depth) i).LeavesSlots w := by
  intro outcome w' ran
  rw [run_render (not_strays_of_slotIndex? denotes)] at ran
  exact leavesSlots_renderAs (Nat.le_of_lt (base_lt_of_slotIndex? denotes)) _ ran

/-- A value is displayed as what it is rendered as. -/
theorem Vm.run_display {ε : Type} {c : Caller} {outcome : Outcome VmError String} (ended : outcome ≠ .exhausted)
    (ran : (render c i).run w = (outcome, w')) :
    (display c i : Action World ε String).run w = (.value outcome.shown, w') := by
  simp only [display, Action.run_bind, Action.run_attempt, ran]
  cases outcome with
  | exhausted => exact absurd rfl ended
  | _ => rfl

theorem Vm.displaysAs_of_displayFrom {ε : Type} {outcome : Outcome ε (List String)} {count : Nat}
    (same : start.SameSlots w) (positive : 0 < i) (inside : start.machine.base + i.toNat + count ≤ start.machine.height + 1)
    (ran : (displayFrom (callerAt depth) i count : Action World ε (List String)).run w = (outcome, w'))
    (ended : outcome ≠ .exhausted) (isOpen : w'.machine.isClosed = false) :
    ∃ texts, outcome = .value texts ∧ texts.length = count ∧ DisplaysAs (callerAt depth) start i w texts w' := by
  induction count generalizing i w w' outcome with
  | zero =>
    cases ran
    exact ⟨[], rfl, rfl, .nil same⟩
  | succ count ih =>
    have denotes : w.machine.slotIndex? i = some (start.machine.base + i.toNat - 1) := by
      rw [same.slotIndex?_eq, slotIndex?_of_pos positive]
      omega
    rcases rendered : (render (callerAt depth) i).run w with ⟨outcome₁, w₁⟩
    by_cases exhausted : outcome₁ = .exhausted
    · subst exhausted
      simp only [displayFrom, display, Action.run_bind, Action.run_attempt, rendered] at ran
      cases ran
      exact absurd rfl ended
    · simp only [displayFrom, Action.run_bind, run_display exhausted rendered] at ran
      rcases others : (displayFrom (callerAt depth) (i + 1) count : Action World ε (List String)).run w₁
        with ⟨outcome₂, w₂⟩
      -- Nothing opens a machine again, so it was open after the first rendering if it is after the others.
      have isOpen₁ : w₂.machine.isClosed = false → w₁.machine.isClosed = false :=
        ((isolation.covers_watchedCaller depth 0).displayFrom (i + 1) count).isOpen others
      have sameAfter (isOpen₂ : w₂.machine.isClosed = false) : start.SameSlots w₁ :=
        same.trans (leavesSlots_render denotes rendered exhausted (isOpen₁ isOpen₂))
      have next (ended₂ : outcome₂ ≠ .exhausted) (isOpen₂ : w₂.machine.isClosed = false) :=
        ih (sameAfter isOpen₂) (by omega) (by omega) others ended₂ isOpen₂
      rw [others] at ran
      cases outcome₂ with
      | value texts =>
        cases ran
        obtain ⟨texts', value, length, shown⟩ := next (by simp) isOpen
        cases value
        exact ⟨_, rfl, congrArg (· + 1) length, .cons same rendered exhausted shown⟩
      | failure e =>
        cases ran
        obtain ⟨_, value, _⟩ := next (by simp) isOpen
        cases value
      | exhausted =>
        cases ran
        exact absurd rfl ended

end Output

/-- However many renderings ask for another one, and whether they succeed or fail, a rendering of the value
    in a slot leaves the stack of every frame as it was, if it ends and does not close the machine.  So the
    output of a frame shows its values in order, each rendered where it was, with a plain table for those
    that cannot be rendered. -/
theorem rendering_leaves_stack (depth : Nat) {w : World} (whole : w.machine.base ≤ w.machine.height) :
    (∀ {i slot}, w.machine.slotIndex? i = some slot → ∀ {outcome w'},
      (Vm.render (callerAt depth) i).run w = (outcome, w') → outcome ≠ .exhausted →
        w'.machine.isClosed = false →
          w'.machine.stack = w.machine.stack ∧ w'.machine.frames = w.machine.frames) ∧
      ∀ {outcome w'}, (Native.print (callerAt depth)).run w = (outcome, w') → outcome ≠ .exhausted →
        w'.machine.isClosed = false →
          w'.machine.stack = w.machine.stack ∧ w'.machine.frames = w.machine.frames ∧ outcome = .value 0 ∧
            ∃ texts w₁, w.DisplaysAs (callerAt depth) 1 w texts w₁ ∧ texts.length = w.machine.frameSize ∧
              w' = { w₁ with events := w₁.events.push (.printed ("\t".intercalate texts)) } := by
  refine ⟨fun denotes _ _ ran ended isOpen => ?_, fun {outcome w'} ran ended isOpen => ?_⟩
  · obtain ⟨stack, frames⟩ := Vm.leavesSlots_render denotes ran ended isOpen
    exact ⟨stack, frames⟩
  · simp only [Native.print, Action.run_bind, run_askMachine] at ran
    -- All slots are displayed before the line is put out.
    rcases displayed : (Vm.displayFrom (callerAt depth) 1 w.machine.frameSize : Native (List String)).run w
      with ⟨outcome₁, w₁⟩
    have inside : w.machine.base + (1 : Int).toNat + w.machine.frameSize ≤ w.machine.height + 1 := by
      simp only [frameSize]
      omega
    have shown := Vm.displaysAs_of_displayFrom (.refl w) Int.one_pos inside displayed
    cases outcome₁ with
    | value texts =>
      simp only [displayed, run_emit] at ran
      cases ran
      obtain ⟨texts', value, length, shown⟩ := shown (by simp) isOpen
      cases value
      obtain ⟨stack, frames⟩ := shown.sameSlots
      exact ⟨stack, frames, rfl, texts, w₁, shown, length, rfl⟩
    | failure e =>
      simp only [displayed] at ran
      cases ran
      obtain ⟨_, value, _⟩ := shown (by simp) isOpen
      cases value
    | exhausted =>
      simp only [displayed] at ran
      cases ran
      exact absurd rfl ended

def Event.line? : Event → Option String
  | .printed line => some line
  | _ => none

/-- On the stack are a truth value, a table with a text, and one the text of which cannot be had. -/
def captionedWorld : World :=
  let texts (body : Program) : Table := Table.empty.set (utf8Encode "__tostring") (.function "f" (.program body))
  { (default : World) with
    machine := { (default : Machine) with
      stack := #[.boolean true, .table 0, .table 2]
      tables := #[⟨.empty, some 1⟩, texts (.mk [.pushString (utf8Encode "hi")] (some 1) none true),
        ⟨.empty, some 3⟩, texts (.mk [.pushNil] none (some "no") true)] } }

theorem rendering_leaves_stack_of_captions :
    captionedWorld.machine.base ≤ captionedWorld.machine.height ∧
      (∃ w, (Vm.render (callerAt 2) 2).run captionedWorld = (.value "hi", w) ∧
        w.machine.stack = captionedWorld.machine.stack) ∧
      (∃ w, (Vm.render (callerAt 2) (-1)).run captionedWorld = (.failure (.runtime "no"), w) ∧
        w.machine.stack = captionedWorld.machine.stack) ∧
      ∃ w, (Native.print (callerAt 2)).run captionedWorld = (.value 0, w) ∧
        w.machine.stack = captionedWorld.machine.stack ∧
        w.events.back?.bind Event.line? = some "true\thi\ttable" := by
  have whole : captionedWorld.machine.base ≤ captionedWorld.machine.height := by decide +kernel
  obtain ⟨renders, prints⟩ := rendering_leaves_stack 2 whole
  have second : captionedWorld.machine.slotIndex? 2 = some 1 := by decide +kernel
  have third : captionedWorld.machine.slotIndex? (-1) = some 2 := by decide +kernel
  have text : ((Vm.render (callerAt 2) 2).run captionedWorld).1.value? = some "hi" := by decide +kernel
  have isOpen : ((Vm.render (callerAt 2) 2).run captionedWorld).2.machine.isClosed = false := by
    decide +kernel
  have fails : ((Vm.render (callerAt 2) (-1)).run captionedWorld).1.failure? = some (.runtime "no") := by
    decide +kernel
  have isOpen' : ((Vm.render (callerAt 2) (-1)).run captionedWorld).2.machine.isClosed = false := by
    decide +kernel
  have printed : ((Native.print (callerAt 2)).run captionedWorld).1.value? = some 0 := by decide +kernel
  have isOpen'' : ((Native.print (callerAt 2)).run captionedWorld).2.machine.isClosed = false := by
    decide +kernel
  have line : ((Native.print (callerAt 2)).run captionedWorld).2.events.back?.bind Event.line? =
    some "true\thi\ttable" := by decide +kernel
  -- The world is made a variable here, for all that has to be computed in it is known.
  generalize captionedWorld = w at *
  have rendered := Action.run_of_value? text
  have failed := Action.run_of_failure? fails
  have ran := Action.run_of_value? printed
  exact ⟨whole, ⟨_, rendered, (renders second rendered (by simp) isOpen).1⟩,
    ⟨_, failed, (renders third failed (by simp) isOpen').1⟩, _, ran, (prints ran (by simp) isOpen'').1, line⟩

end ScriptHost
