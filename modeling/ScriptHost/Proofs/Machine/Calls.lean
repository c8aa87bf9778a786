import ScriptHost.Proofs.Machine.Frames
import ScriptHost.Script.Call
/-!
# What a call does

A call finds its function in the frame, runs it in a frame of its own and then puts the results in the
function's place, or a failure in theirs.  These lemmas say so of whole runs, in terms of the run of the
function alone: everything a call does beside that is `Machine.enter` before and `Machine.left` after.
-/

namespace ScriptHost

open World Machine

def Callee.slot? : Callee → Option Nat
  | missing _ => none
  | refused slot _ | ready slot _ => some slot

/-- The same callee in another slot. -/
def Callee.mapSlot (move : Nat → Nat) : Callee → Callee
  | missing e => missing e
  | refused slot e => refused (move slot) e
  | ready slot code => ready (move slot) code

namespace Machine

variable {bottom : Array Value} {frames : Array Nat} {m : Machine}

theorem calleeIndex?_bounds {argCount : Int} {slot : Nat}
    (found : m.calleeIndex? argCount = some slot) : m.base ≤ slot ∧ slot < m.height := by
  rw [calleeIndex?, Option.ite_none_right_eq_some, Option.some.injEq] at found
  omega

/-- A call finds its function where its frame has been moved to. -/
theorem callee_onto (fits : Fits bottom frames m) (argCount : Int) :
    (m.onto bottom frames).callee argCount =
      (m.callee argCount).mapSlot fun slot => bottom.size + (slot - m.base) := by
  have index : (m.onto bottom frames).calleeIndex? argCount =
      (m.calleeIndex? argCount).map fun slot => bottom.size + (slot - m.base) := by
    have whole := fits.whole
    simp only [calleeIndex?, height_onto, base_onto fits, frameSize]
    by_cases present : argCount.toNat + 1 ≤ m.height ∧ m.base ≤ m.height - (argCount.toNat + 1)
    · rw [if_pos present, if_pos (by omega), Option.map_some]
      exact congrArg some (by omega)
    · rw [if_neg present, if_neg (by omega), Option.map_none]
  have isClosed : (m.onto bottom frames).isClosed = m.isClosed := rfl
  rw [callee, isClosed, index, callee]
  by_cases closed : m.isClosed = true
  · rw [if_pos closed, if_pos closed, Callee.mapSlot]
  · rw [if_neg closed, if_neg closed]
    cases found : m.calleeIndex? argCount with
    | none => rfl
    | some slot =>
      -- The function is in the frame, so it is moved with it.
      have above := (calleeIndex?_bounds found).1
      have maxDepth : (m.onto bottom frames).maxDepth = m.maxDepth := rfl
      simp only [Option.map_some, calleeAt, stack_onto above, depth_onto fits, maxDepth]
      cases m.stack[slot]?.getD .nil with
      | function name code =>
        by_cases deep : m.maxDepth ≤ m.depth
        · simp only [if_pos deep, Callee.mapSlot]
        · simp only [if_neg deep, Callee.mapSlot]
      | _ => rfl

theorem slot?_calleeAt (m : Machine) (slot : Nat) : (m.calleeAt slot).slot? = some slot := by
  rw [calleeAt]
  split
  · split <;> rfl
  · rfl

/-- What there is to call lies in the frame. -/
theorem callee_bounds {argCount : Int} {slot : Nat}
    (present : (m.callee argCount).slot? = some slot) : m.base ≤ slot ∧ slot < m.height := by
  rw [callee] at present
  split at present
  · cases present
  · split at present
    · cases present
    · rename_i found
      rw [slot?_calleeAt, Option.some.injEq] at present
      rw [present] at found
      exact calleeIndex?_bounds found

/-- Only an open machine that may nest one call more calls anything, and then it calls the function that is
    in the slot. -/
theorem callee_ready {argCount : Int} {slot : Nat} {code : NativeCode}
    (ready : m.callee argCount = .ready slot code) :
    m.isClosed = false ∧ m.depth < m.maxDepth ∧ ∃ name, m.stack[slot]?.getD .nil = .function name code := by
  rw [callee] at ready
  split at ready
  · cases ready
  · rename_i isOpen
    split at ready
    · cases ready
    · rw [calleeAt] at ready
      split at ready
      · rename_i name _ found
        split at ready
        · cases ready
        · rename_i shallow
          rw [Callee.ready.injEq] at ready
          rw [← ready.1, ← ready.2]
          exact ⟨by simpa using isOpen, by omega, name, found⟩
      · cases ready

/-- The machine after a function in a slot has ended by itself, with a number of results or a failure. -/
def left (m : Machine) (depth slot : Nat) (resultCount : Int) (isProtected : Bool) :
    Outcome String Nat → Machine
  | .value claimed => (m.leave depth).deliver slot claimed resultCount
  | .failure _ => if isProtected then (m.leave depth).truncate slot else m.leave depth
  | .exhausted => m

theorem height_truncate (m : Machine) (slot : Nat) : (m.truncate slot).height = min slot m.height := by
  rw [truncate, height, Array.size_shrink, height]

theorem size_adjust {resultCount : Int} (fixed : resultCount ≠ -1) (results : Array Value) :
    (adjust resultCount results).size = resultCount.toNat := by
  rw [adjust, if_neg fixed, size_resize]

theorem shrink_shrink {n k : Nat} (shorter : n ≤ k) (stack : Array Value) :
    (stack.shrink k).shrink n = stack.shrink n := by
  apply Array.ext_getElem?
  intro i
  simp only [getElem?_shrink]
  by_cases kept : i < n
  · rw [if_pos kept, if_pos (by omega), if_pos kept]
  · rw [if_neg kept, if_neg kept]

/-- The topmost values of a function's frame, as many as it claims or has. -/
def returned (m : Machine) (slot claimed : Nat) : Array Value :=
  m.stack.extract (m.height - min claimed (m.height - (slot + 1))) m.height

/-- This is so even if the stack was cleared meanwhile and does not reach up to the function any more. -/
theorem stack_deliver (m : Machine) (slot claimed : Nat) (resultCount : Int) :
    (m.deliver slot claimed resultCount).stack =
      m.stack.shrink slot ++ adjust resultCount (m.returned slot claimed) := by
  have kept : (m.stack.shrink (m.height - min claimed (m.height - (slot + 1)))).shrink slot =
      m.stack.shrink slot := by
    by_cases room : slot < m.height
    · exact shrink_shrink (by omega) m.stack
    · have all : m.height - min claimed (m.height - (slot + 1)) = m.height := by omega
      rw [all]
      simp [height]
  simp only [deliver, kept, returned]

theorem height_deliver {slot : Nat} (room : slot < m.height) (claimed : Nat) {resultCount : Int}
    (fixed : resultCount ≠ -1) :
    (m.deliver slot claimed resultCount).height = slot + resultCount.toNat := by
  rw [height, stack_deliver, Array.size_append, size_adjust fixed, Array.size_shrink]
  rw [height] at room
  omega

section Left

variable {depth slot : Nat} {resultCount : Int} {isProtected : Bool} {outcome : Outcome String Nat}

/-- Nothing but the stack and the frames is changed. -/
theorem left_eq : m.left depth slot resultCount isProtected outcome =
    { m with
      stack := (m.left depth slot resultCount isProtected outcome).stack
      frames := (m.left depth slot resultCount isProtected outcome).frames } := by
  cases outcome <;> cases isProtected <;> rfl

theorem isClosed_left : (m.left depth slot resultCount isProtected outcome).isClosed = m.isClosed := by
  cases outcome <;> cases isProtected <;> rfl

theorem frames_left {frames : Array Nat} (entered : m.frames = frames.push (slot + 1))
    (ended : outcome ≠ .exhausted) :
    (m.left frames.size slot resultCount isProtected outcome).frames = frames := by
  have leave : (m.leave frames.size).frames = frames := by simp [Machine.leave, entered]
  cases outcome with
  | value claimed => exact leave
  | failure text => cases isProtected <;> exact leave
  | exhausted => exact absurd rfl ended

theorem frames_left_of_gone (gone : m.frames = #[]) :
    (m.left depth slot resultCount isProtected outcome).frames = #[] := by
  cases outcome with
  | value claimed => simp [left, deliver, leave, gone]
  | failure text => cases isProtected <;> simp [left, truncate, leave, gone]
  | exhausted => exact gone

theorem maxDepth_left :
    (m.left depth slot resultCount isProtected outcome).maxDepth = m.maxDepth := by
  rw [left_eq]

/-- The results are taken from the function's frame, which is above all that is replaced. -/
theorem stack_left_rebase {n depth' : Nat} {m' : Machine} (stack : m'.stack = rebase n bottom m.stack)
    (above : n ≤ slot) (room : slot < m.height) :
    (m'.left depth' (bottom.size + (slot - n)) resultCount isProtected outcome).stack =
      rebase n bottom (m.left depth slot resultCount isProtected outcome).stack := by
  have cut : m'.stack.shrink (bottom.size + (slot - n)) = rebase n bottom (m.stack.shrink slot) := by
    rw [stack, rebase_shrink above]
  have size : m'.height = bottom.size + (m.height - n) := by
    rw [height, stack, size_rebase, height]
  cases outcome with
  | value claimed =>
    have returned : m'.returned (bottom.size + (slot - n)) claimed = m.returned slot claimed := by
      -- The first result is as far above the new bottom as it was above the old one.
      have first : bottom.size + (m.height - n) -
          min claimed (bottom.size + (m.height - n) - (bottom.size + (slot - n) + 1)) =
            bottom.size + (m.height - min claimed (m.height - (slot + 1)) - n) := by omega
      rw [Machine.returned, size, stack, first, extract_rebase (by omega) (by omega), Machine.returned]
    have kept : n ≤ (m.stack.shrink slot).size := by
      rw [Array.size_shrink]
      rw [height] at room
      omega
    have delivered : (m'.left depth' (bottom.size + (slot - n)) resultCount isProtected
        (.value claimed)).stack = m'.stack.shrink (bottom.size + (slot - n)) ++
          adjust resultCount (m'.returned (bottom.size + (slot - n)) claimed) :=
      stack_deliver (m'.leave depth') _ claimed resultCount
    have delivered' : (m.left depth slot resultCount isProtected (.value claimed)).stack =
        m.stack.shrink slot ++ adjust resultCount (m.returned slot claimed) :=
      stack_deliver (m.leave depth) slot claimed resultCount
    rw [delivered, delivered', cut, returned, rebase_append kept]
  | failure text =>
    cases isProtected with
    | true => exact cut
    | false => exact stack
  | exhausted => exact stack

/-- Where the callee's frame has been moved with its caller's, the caller's frame is left moved. -/
theorem left_onto {bottom₁ : Array Value} {frames₁ own : Array Nat}
    (stack : (m.onto bottom₁ frames₁).stack = rebase (own.back?.getD 0) bottom m.stack)
    (entered : frames₁ = frames.push (bottom.size + (slot - own.back?.getD 0) + 1))
    (left_frames : (m.left depth slot resultCount isProtected outcome).frames = own)
    (above : own.back?.getD 0 ≤ slot) (room : slot < m.height) (ended : outcome ≠ .exhausted) :
    (m.onto bottom₁ frames₁).left frames.size (bottom.size + (slot - own.back?.getD 0)) resultCount
        isProtected outcome =
      (m.left depth slot resultCount isProtected outcome).onto bottom frames := by
  have stack' : ((m.onto bottom₁ frames₁).left frames.size (bottom.size + (slot - own.back?.getD 0))
      resultCount isProtected outcome).stack =
        rebase (own.back?.getD 0) bottom (m.left depth slot resultCount isProtected outcome).stack :=
    stack_left_rebase stack above room
  have frames' : ((m.onto bottom₁ frames₁).left frames.size (bottom.size + (slot - own.back?.getD 0))
      resultCount isProtected outcome).frames = frames := frames_left entered ended
  have base : (m.left depth slot resultCount isProtected outcome).base = own.back?.getD 0 :=
    congrArg (·.back?.getD 0) left_frames
  have moved : (m.left depth slot resultCount isProtected outcome).onto bottom frames =
      { m.left depth slot resultCount isProtected outcome with
        stack := rebase (own.back?.getD 0) bottom (m.left depth slot resultCount isProtected outcome).stack
        frames } := by rw [onto, base]
  rw [left_eq, stack', frames', moved]
  cases outcome <;> cases isProtected <;> rfl

theorem height_left (room : slot < m.height) :
    slot ≤ (m.left depth slot resultCount isProtected outcome).height := by
  cases outcome with
  | value claimed =>
    have stack := stack_deliver (m.leave depth) slot claimed resultCount
    have same : (m.leave depth).stack = m.stack := rfl
    rw [left, height, stack, Array.size_append, same, Array.size_shrink]
    rw [height] at room
    omega
  | failure text =>
    cases isProtected with
    | true =>
      have size := height_truncate (m.leave depth) slot
      have same : (m.leave depth).height = m.height := rfl
      rw [left, if_pos rfl]
      omega
    | false => exact Nat.le_of_lt room
  | exhausted => exact Nat.le_of_lt room

end Left

end Machine

namespace Vm

/-- The world in which the function in a slot begins to run. -/
def entered (w : World) (callee : Nat) : World := { w with machine := w.machine.enter callee }

/-- What a call makes of the way in which the function ended. -/
def outcomeOf : Outcome String Nat → Outcome VmError Unit
  | .value _ => .value ()
  | .failure text => .failure (.runtime text)
  | .exhausted => .exhausted

theorem run_runFrame (c : Caller) (code : NativeCode) (callee : Nat) (resultCount : Int)
    (isProtected : Bool) (w : World) :
    (runFrame c code callee resultCount isProtected).run w =
      (outcomeOf ((c.run code).run (entered w callee)).1,
        { ((c.run code).run (entered w callee)).2 with
          machine := left ((c.run code).run (entered w callee)).2.machine w.machine.depth callee
            resultCount isProtected ((c.run code).run (entered w callee)).1 }) := by
  simp only [runFrame, Action.run_bind, run_askMachine, run_changeMachine, Action.run_attempt, entered]
  rcases (c.run code).run { w with machine := w.machine.enter callee } with ⟨claimed | text | _, w'⟩
  · rfl
  · cases isProtected <;> rfl
  · rfl

theorem run_call (c : Caller) (argCount resultCount : Int) (isProtected : Bool) (w : World) :
    (call c argCount resultCount isProtected).run w =
      match w.machine.callee argCount with
      | .missing e => (.failure e, w)
      | .refused slot e =>
        (.failure e, if isProtected then { w with machine := w.machine.truncate slot } else w)
      | .ready slot code => (runFrame c code slot resultCount isProtected).run w := by
  simp only [call, Action.run_bind, run_askMachine]
  cases w.machine.callee argCount with
  | missing e => rfl
  | refused slot e => cases isProtected <;> rfl
  | ready slot code => rfl

/-- A call that succeeds has run a function of the frame that succeeded. -/
theorem call_value {c : Caller} {argCount resultCount : Int} {isProtected : Bool} {w w' : World}
    (ran : (call c argCount resultCount isProtected).run w = (.value (), w')) :
    ∃ slot code claimed w₁, w.machine.callee argCount = .ready slot code ∧
      w.machine.base ≤ slot ∧ slot < w.machine.height ∧
      (c.run code).run (entered w slot) = (.value claimed, w₁) ∧
      w' = { w₁ with machine := (w₁.machine.leave w.machine.depth).deliver slot claimed resultCount } := by
  rw [run_call] at ran
  cases target : w.machine.callee argCount with
  | missing e => rw [target] at ran; cases ran
  | refused slot e => rw [target] at ran; cases ran
  | ready slot code =>
    obtain ⟨inside, room⟩ := callee_bounds (m := w.machine) (by rw [target]; rfl)
    rw [target] at ran
    simp only [run_runFrame] at ran
    rcases ran₁ : (c.run code).run (entered w slot) with ⟨claimed | text | _, w₁⟩
    · rw [ran₁] at ran
      cases ran
      exact ⟨slot, code, claimed, w₁, rfl, inside, room, ran₁, rfl⟩
    · rw [ran₁] at ran
      cases ran
    · rw [ran₁] at ran
      cases ran

theorem base_entered (w : World) (slot : Nat) : (entered w slot).machine.base = slot + 1 := by
  simp [entered, Machine.enter, base]

/-- The world in which a metamethod is about to be called. -/
def prepared (w : World) (f : Value) (args : List Value) : World :=
  { w with machine := { w.machine with stack := w.machine.stack.push f ++ args.toArray } }

/-- The world with the slots above a height removed. -/
def cut (w : World) (height : Nat) : World := { w with machine := w.machine.truncate height }

section Prepared

variable {w : World} {f : Value} {args : List Value}

theorem height_prepared : (prepared w f args).machine.height = w.machine.height + 1 + args.length := by
  simp [prepared, height, Nat.add_right_comm, Nat.add_assoc]

/-- The function is called, unless too many functions are running. -/
theorem callee_prepared_eq (whole : w.machine.base ≤ w.machine.height)
    (isOpen : w.machine.isClosed = false) (name : String) (code : NativeCode) :
    (prepared w (.function name code) args).machine.callee args.length =
      if w.machine.maxDepth ≤ w.machine.depth then .refused w.machine.height .stackOverflow
      else .ready w.machine.height code := by
  have index : (prepared w (.function name code) args).machine.calleeIndex? args.length =
      some w.machine.height := by
    have base_eq : (prepared w (.function name code) args).machine.base = w.machine.base := rfl
    rw [calleeIndex?, height_prepared, base_eq, if_pos (by omega)]
    exact congrArg some (by omega)
  have found : (prepared w (.function name code) args).machine.stack[w.machine.height]? =
      some (.function name code) := by
    show (w.machine.stack.push _ ++ args.toArray)[w.machine.stack.size]? = _
    rw [Array.getElem?_append_left (by simp), Array.getElem?_push_size]
  have isOpen' : ¬ (prepared w (.function name code) args).machine.isClosed = true := by
    show ¬ w.machine.isClosed = true
    simp [isOpen]
  rw [callee, if_neg isOpen', index]
  show calleeAt _ _ = _
  rw [calleeAt, found]
  rfl

theorem callee_prepared {name : String} {code : NativeCode} (whole : w.machine.base ≤ w.machine.height)
    (isOpen : w.machine.isClosed = false) (room : w.machine.depth < w.machine.maxDepth) :
    (prepared w (.function name code) args).machine.callee args.length =
      .ready w.machine.height code :=
  (callee_prepared_eq whole isOpen name code).trans (if_neg (Nat.not_le.2 room))

/-- The world in which a metamethod begins to run. -/
abbrev started (w : World) (f : Value) (args : List Value) : World :=
  entered (prepared w f args) w.machine.height

/-- In its frame the arguments stand from the first slot on. -/
theorem valueAt_started {i : Nat} {v : Value} (found : args[i]? = some v) :
    (started w f args).machine.valueAt (i + 1 : Nat) = v := by
  obtain ⟨bound, _⟩ := List.getElem?_eq_some_iff.1 found
  have slot : (started w f args).machine.slotIndex? (i + 1 : Nat) = some (w.machine.height + 1 + i) := by
    have height_eq : (started w f args).machine.height = w.machine.height + 1 + args.length :=
      height_prepared
    simp only [slotIndex?, base_entered, height_eq]
    rw [if_pos (by omega), if_pos (by omega)]
    exact congrArg some (by omega)
  rw [valueAt, slot]
  show ((w.machine.stack.push f ++ args.toArray)[w.machine.stack.size + 1 + i]?).getD .nil = v
  rw [Array.getElem?_append_right (by simp)]
  simp [found]

theorem stack_cut_prepared (stack : Array Value) (f : Value) (args : List Value) :
    (stack.push f ++ args.toArray).shrink stack.size = stack := by
  rw [Array.push_eq_append, Array.append_assoc]
  simp

/-- A function and arguments that are cut away have not been there. -/
theorem cut_prepared : cut (prepared w f args) w.machine.height = w := by
  have stack : (prepared w f args).machine.stack.shrink w.machine.height = w.machine.stack :=
    stack_cut_prepared w.machine.stack f args
  rw [cut, truncate, stack]
  rfl

/-- A frame that is left and cut away has not been there. -/
theorem cut_started :
    ((started w f args).machine.leave w.machine.depth).truncate w.machine.height = w.machine := by
  have frames : (w.machine.frames.push (w.machine.height + 1)).shrink w.machine.frames.size =
      w.machine.frames := by
    simp
  have stack := stack_cut_prepared w.machine.stack f args
  simp only [started, entered, prepared, Machine.enter, Machine.leave, Machine.truncate, depth,
    height] at frames stack ⊢
  rw [frames, stack]

end Prepared

theorem run_callValue (c : Caller) (f : Value) (args : List Value) (resultCount : Nat) (w : World) :
    (callValue c f args resultCount).run w =
      match (call c args.length resultCount false).run (prepared w f args) with
      | (.value (), w') =>
        (.value (w'.machine.stack.extract (w'.machine.height - resultCount) w'.machine.height).toList,
          cut w' (w'.machine.height - resultCount))
      | (.failure e, w') => (.failure e, cut w' w.machine.height)
      | (.exhausted, w') => (.exhausted, w') := by
  simp only [callValue, Action.run_bind, run_askMachine, run_changeMachine, Action.run_attempt,
    prepared]
  rcases (call c args.length resultCount false).run _ with ⟨_ | e | _, w'⟩ <;> rfl

end Vm

end ScriptHost
