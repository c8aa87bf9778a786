import ScriptHost.Proofs.Machine.Isolation
import ScriptHost.Proofs.Session.Functions
import ScriptHost.Proofs.Session.RoundTrip
/-!
# Calls of the host

The host calls a script function that it holds, or a global by its name.  The value to call is pushed and
then its arguments; if one of these cannot be pushed, the frame is cut back to the size it had.  The call
itself is protected, so whatever is called, and however that ends, the value and all above it are gone or
have given way to one result.  That is read and taken off the stack as well.

So a call leaves the stack as it found it, unless the machine is closed meanwhile
(`host_call_leaves_stack`).
-/

namespace ScriptHost

open World Machine

/-! ## What is called -/

inductive HostCall where
  /-- Of a script function that the host holds. -/
  | held (number : Nat)
  /-- Of the global of a name. -/
  | global (name : String)

namespace HostCall

def run (c : Caller) (args : List HostValue) : HostCall → Bridge HostValue
  | held number => Bridge.callFunction c number args
  | global name => Session.callGlobal c name args

/-- The value that is called, unless the call is refused before. -/
def callee (w : World) : HostCall → Except Raised Value
  | held number =>
    match w.host.functionReference? number with
    | some r => .ok ((w.machine.referenced? r).getD .nil)
    | none => .error (.error .disposedFunction)
  | global name =>
    if w.session.isTornDown then .error (.error (.vm .closed)) else .ok (w.machine.global name)

variable {w : World} {call : HostCall} (c : Caller) (args : List HostValue)

theorem run_of_error {r : Raised} (refused : call.callee w = .error r) :
    (call.run c args).run w = (.failure r, w) := by
  cases call with
  | held number =>
    cases held : w.host.functionReference? number with
    | some reference => simp [callee, held] at refused
    | none =>
      simp only [callee, held, Except.error.injEq] at refused
      rw [run, (refuses_of_disposed held).call c args, refused]
  | global name =>
    cases torn : w.session.isTornDown with
    | false => simp [callee, torn] at refused
    | true =>
      simp only [callee, torn, if_true, Except.error.injEq] at refused
      rw [run, Session.callGlobal, Action.run_bind, Session.run_checkOpen_of_isTornDown torn, refused]

theorem run_of_ok {f : Value} (found : call.callee w = .ok f) :
    (call.run c args).run w =
      (Bridge.pushAll w.machine.top args >>= fun _ => Bridge.finishCall c w.machine.top args.length).run
        { w with machine := w.machine.push f } := by
  cases call with
  | held number =>
    cases held : w.host.functionReference? number with
    | none => simp [callee, held] at found
    | some reference =>
      simp only [callee, held, Except.ok.injEq] at found
      rw [run, Bridge.run_callFunction held, pushReference_eq, found]
  | global name =>
    cases torn : w.session.isTornDown with
    | true => simp [callee, torn] at found
    | false =>
      simp only [callee, torn, Bool.false_eq_true, if_false, Except.ok.injEq] at found
      simp only [run, Session.callGlobal, Action.run_bind, Session.run_checkOpen torn, run_askMachine,
        run_changeMachine, getGlobal, found]

end HostCall

/-! ## A protected call of what was pushed -/

theorem Machine.adjust_one (results : Array Value) : adjust 1 results = #[results[0]?.getD .nil] := by
  obtain ⟨results⟩ := results
  cases results with
  | nil => rfl
  | cons first rest => simp [adjust, resize]

namespace World

/-- The value was called, and returned: the arguments were pushed on top of it, and its code ran on them to
    its end, which leaves a number of results. -/
inductive Returns (c : Caller) (w : World) (args : List HostValue) : Value → Array Value → World → Prop where
  | intro {name : String} {code : NativeCode} {w₁ w₂ : World} {claimed : Nat}
    (pushed : (Bridge.pushAll w.machine.top args).run
      { w with machine := w.machine.push (.function name code) } = (.value (), w₁))
    (ran : (c.run code).run (Vm.entered w₁ w.machine.height) = (.value claimed, w₂)) :
    Returns c w args (.function name code) (w₂.machine.returned w.machine.height claimed) w₂

/-- The slots of one world, with a value put on them, and all else of another one. -/
def withResult (w w' : World) (v : Value) : World :=
  { w' with machine := { w'.machine with stack := w.machine.stack.push v, frames := w.machine.frames } }

variable {w w₁ w₂ : World} {f : Value} {args : List HostValue} {n : Nat}

theorem Stacks.frames (stacked : w.Stacks n w₁) : w₁.machine.frames = w.machine.frames := by
  obtain ⟨_, -, -, frames⟩ := stacked
  exact frames

/-- A value that cannot be called is taken off the stack with its arguments. -/
theorem Stacks.truncate (stacked : Stacks { w with machine := w.machine.push f } n w₁) :
    (w₁.machine.truncate w.machine.height).stack = w.machine.stack ∧
      (w₁.machine.truncate w.machine.height).frames = w.machine.frames := by
  obtain ⟨values, -, stack, frames⟩ := stacked
  refine ⟨?_, frames⟩
  show w₁.machine.stack.shrink w.machine.stack.size = w.machine.stack
  rw [stack]
  exact shrink_below w.machine.stack f values

/-- In an open machine that may nest a call the function is called. -/
theorem Stacks.aboutToCall {name : String} {code : NativeCode} (whole : w.machine.base ≤ w.machine.height)
    (stacked : Stacks { w with machine := w.machine.push (.function name code) } n w₁)
    (isOpen : w₁.machine.isClosed = false) (room : w₁.machine.depth < w₁.machine.maxDepth) :
    ∃ values, values.size = n ∧ AboutToCall w₁.machine w.machine.stack name code values := by
  obtain ⟨values, size, stack, frames⟩ := stacked
  have base : w₁.machine.base = w.machine.base := congrArg (·.back?.getD 0) frames
  exact ⟨values, size, stack, base ▸ whole, room, isOpen⟩

/-- What a function leaves that was called with its arguments and one result asked for. -/
theorem Stacks.left {name : String} {code : NativeCode} (whole : w.machine.base ≤ w.machine.height)
    (stacked : Stacks { w with machine := w.machine.push (.function name code) } n w₁)
    (isOpen₁ : w₁.machine.isClosed = false) (room : w₁.machine.depth < w₁.machine.maxDepth) {depth : Nat}
    {outcome : Outcome String Nat}
    (ran : ((callerAt depth).run code).run (Vm.entered w₁ w.machine.height) = (outcome, w₂))
    (ended : outcome ≠ .exhausted) (isOpen : w₂.machine.isClosed = false) :
    ∃ frame, w₂.machine.stack = w.machine.stack.push (.function name code) ++ frame ∧
      (w₂.machine.left w₁.machine.depth w.machine.height 1 true outcome).frames = w.machine.frames ∧
      (w₂.machine.left w₁.machine.depth w.machine.height 1 true outcome).stack =
        settled w.machine.stack (.function name code) frame 1 true outcome := by
  obtain ⟨values, -, about⟩ := stacked.aboutToCall whole isOpen₁ room
  obtain ⟨frames, frame, stack⟩ := about.stack_ran ran ended isOpen
  exact ⟨frame, stack, (frames_left frames ended).trans stacked.frames,
    stack_left stack w₁.machine.depth 1 true outcome⟩

/-- The protected call of a value below its arguments fails and leaves nothing of them, or a function is
    called, and its first result is left in their place. -/
theorem Stacks.call {depth : Nat} {outcome : Outcome VmError Unit} (whole : w.machine.base ≤ w.machine.height)
    (stacked : Stacks { w with machine := w.machine.push f } n w₁)
    (called : (Vm.call (callerAt depth) n 1 true).run w₁ = (outcome, w₂))
    (ended : outcome ≠ .exhausted) (isOpen : w₂.machine.isClosed = false) :
    (∃ e, outcome = .failure e ∧ w₂.machine.stack = w.machine.stack ∧
        w₂.machine.frames = w.machine.frames) ∨
      ∃ name code claimed w₃, outcome = .value () ∧ f = .function name code ∧
        ((callerAt depth).run code).run (Vm.entered w₁ w.machine.height) = (.value claimed, w₃) ∧
        w₂ = withResult w w₃ ((w₃.machine.returned w.machine.height claimed)[0]?.getD .nil) := by
  have isOpen₁ : w₁.machine.isClosed = false :=
    (Isolated.call n 1 true (isolated_callerAt depth)).isOpen called isOpen
  -- The call looks just below the arguments, where the value was pushed.
  obtain ⟨index, found⟩ := stacked.calleeIndex? whole
  have target : w₁.machine.callee n = w₁.machine.calleeAt w.machine.height := by
    simp only [Machine.callee, isOpen₁, index, Bool.false_eq_true, if_false]
  have slot_eq := slot?_calleeAt w₁.machine w.machine.height
  rw [Vm.run_call, target] at called
  cases calleeAt : w₁.machine.calleeAt w.machine.height with
  | missing e =>
    rw [calleeAt] at slot_eq
    cases slot_eq
  | refused slot e =>
    rw [calleeAt] at slot_eq called
    cases slot_eq
    cases called
    exact .inl ⟨e, rfl, stacked.truncate⟩
  | ready slot code =>
    rw [calleeAt] at slot_eq called
    cases slot_eq
    obtain ⟨-, room, name, inSlot⟩ := callee_ready (target.trans calleeAt)
    rw [found, Option.getD_some] at inSlot
    subst inSlot
    simp only [Vm.run_runFrame] at called
    rcases ran : ((callerAt depth).run code).run (Vm.entered w₁ w.machine.height) with ⟨outcome₃, w₃⟩
    rw [ran] at called
    cases called
    rw [isClosed_left] at isOpen
    have ended₃ : outcome₃ ≠ .exhausted := fun exhausted => ended (by rw [exhausted]; rfl)
    obtain ⟨frame, stack₃, frames, stack⟩ := stacked.left whole isOpen₁ room ran ended₃ isOpen
    cases outcome₃ with
    | value claimed =>
      refine .inr ⟨name, code, claimed, w₃, rfl, rfl, ran, ?_⟩
      rw [settled, ← returned_below stack₃ claimed, adjust_one, ← Array.push_eq_append] at stack
      simp only [withResult]
      rw [left_eq, stack, frames]
      rfl
    | failure text => exact .inl ⟨_, rfl, stack, frames⟩
    | exhausted => exact absurd rfl ended₃

/-- The same of a value that was pushed with its arguments by the host. -/
theorem call_pushed {depth : Nat} {outcome : Outcome VmError Unit} (whole : w.machine.base ≤ w.machine.height)
    (pushed : (Bridge.pushAll w.machine.top args).run { w with machine := w.machine.push f } =
      (.value (), w₁))
    (called : (Vm.call (callerAt depth) args.length 1 true).run w₁ = (outcome, w₂))
    (ended : outcome ≠ .exhausted) (isOpen : w₂.machine.isClosed = false) :
    (∃ e, outcome = .failure e ∧ w₂.machine.stack = w.machine.stack ∧
        w₂.machine.frames = w.machine.frames) ∨
      ∃ results w₃, outcome = .value () ∧ Returns (callerAt depth) w args f results w₃ ∧
        w₂ = withResult w w₃ (results[0]?.getD .nil) := by
  have stacked := Bridge.stacks_pushAll ((Stacks.push (w := w) f).whole whole) pushed
  obtain failed | ⟨name, code, claimed, w₃, value, rfl, ran, rest⟩ := stacked.call whole called ended isOpen
  · exact .inl failed
  · exact .inr ⟨_, w₃, value, .intro pushed ran, rest⟩

end World

/-! ## What is read -/

/-- The value of the host is what the value of the machine is read as. -/
inductive World.ReadsAs (w : World) (x : Value) : HostValue → Prop where
  | scalar {v : HostValue} (scalar : x.scalar? = some v) : ReadsAs w x v
  /-- A script function is held under the number. -/
  | function {number : Nat} (isFunction : x.isFunction = true) (holds : w.functionOf? number = some x) :
      ReadsAs w x (.function number)
  /-- A token is resolved. -/
  | thing {t : Token} {v : HostValue} (carries : w.machine.tokenOf? x = some t)
      (resolved : w.session.resolve t = .ok v) : ReadsAs w x v
  /-- A table without a token is read as nil. -/
  | blank {a : Nat} (table : x = .table a) (unmarked : w.machine.tokenOf? x = none) : ReadsAs w x .nil

section Reading

variable {w w' : World} {x : Value} {v : HostValue}

theorem World.ReadsAs.of_nil (read : w.ReadsAs .nil v) : v = .nil := by
  cases read with
  | scalar scalar => exact (Option.some.inj scalar).symm
  | function isFunction holds => cases isFunction
  | thing carries resolved => cases carries
  | blank table unmarked => rfl

theorem Bridge.stays_read {i : Int} {outcome : Outcome Raised HostValue}
    (ran : (read i).run w = (outcome, w')) : w'.machine.stack = w.machine.stack ∧
      w'.machine.frames = w.machine.frames ∧ w'.machine.isClosed = w.machine.isClosed := by
  have ended : ((read i).run w).2 = w' := by rw [ran]
  rcases read_cases w i with unchanged | ⟨j, slot⟩
  · rw [← ended, unchanged]
    exact ⟨rfl, rfl, rfl⟩
  · rw [run_read_function_at slot] at ended
    subst ended
    exact ⟨stack_reference w.machine j, (isRelative_reference j).frames _, (isRelative_reference j).isClosed _⟩

/-- What is on top of the stack is read, if reading it succeeds. -/
theorem Bridge.readsAs_of_top (tidy : w.machine.HasTidyRegistry) (top : w.machine.IsTop x)
    (ran : (read (-1)).run w = (.value v, w')) : w'.ReadsAs x v := by
  have slot := top.readSlot_eq
  -- A light value and a table that carry a token are read alike.
  have carried {t : Token} (carries : w.machine.tokenOf? x = some t)
      (slot : w.machine.readSlot (w.machine.absIndex (-1)) = .handle t) : w'.ReadsAs x v := by
    cases resolved : w.session.resolve t with
    | error e => simp [read, slot, resolve, ofExcept, resolved] at ran
    | ok live =>
      simp only [read, Action.run_bind, run_askMachine, slot, resolve, run_askSession, resolved] at ran
      cases ran
      exact .thing carries resolved
  cases x with
  | function name code =>
    obtain ⟨number, w₁, read, holds⟩ := run_read_function tidy top rfl
    cases read.symm.trans ran
    exact .function rfl holds
  | light t => exact carried rfl slot
  | table a =>
    cases carries : w.machine.tokenOf? (.table a) with
    | some t => exact carried carries (by simp [slot, decoded, carries])
    | none =>
      have blank : w.machine.readSlot (w.machine.absIndex (-1)) = .nil := by simp [slot, decoded, carries]
      simp only [read, Action.run_bind, run_askMachine, blank] at ran
      cases ran
      exact .blank rfl carries
  | _ =>
    cases (run_read_scalar top rfl).symm.trans ran
    exact .scalar rfl

/-- What was read stays what it is as the stack changes. -/
theorem World.ReadsAs.ofStack (read : w.ReadsAs x v) (stack : Array Value) :
    ReadsAs { w with machine := { w.machine with stack := stack } } x v := by
  cases read with
  | scalar scalar => exact .scalar scalar
  | function isFunction holds => exact .function isFunction holds
  | thing carries resolved => exact .thing carries resolved
  | blank table unmarked => exact .blank table unmarked

end Reading

/-! ## Whole calls -/

/-- The stack and the frames are as in another world. -/
structure World.SameSlots (w w' : World) : Prop where
  stack : w'.machine.stack = w.machine.stack
  frames : w'.machine.frames = w.machine.frames

/-- The value is what the first result is read as of a function that was called and returned, nil standing
    for a result if there is none. -/
def World.IsFirstResult (c : Caller) (w : World) (f : Value) (args : List HostValue) (w' : World)
    (v : HostValue) : Prop :=
  ∃ results w₁, Returns c w args f results w₁ ∧ w'.ReadsAs (results[0]?.getD .nil) v

section Whole

variable {w w₁ w' : World} {f : Value} {args : List HostValue} {depth : Nat}

namespace Bridge

/-- The call fails; or the top of the stack is read, and then the frame is cut, whether or not it could be
    read. -/
theorem finishCall_cases {c : Caller} {size : Int} {argCount : Nat} {outcome : Outcome Raised HostValue}
    (ran : (finishCall c size argCount).run w₁ = (outcome, w')) (ended : outcome ≠ .exhausted) :
    (∃ e, (Vm.call c argCount 1 true).run w₁ = (.failure e, w') ∧
        outcome = .failure (.error (.vm e))) ∨
      ∃ w₂ w₃, (Vm.call c argCount 1 true).run w₁ = (.value (), w₂) ∧
        (read (-1)).run w₂ = (outcome, w₃) ∧
          w' = { w₃ with machine := w₃.machine.setTop size } := by
  simp only [finishCall, Action.run_bind, Vm.inHost, Action.run_mapFailure] at ran
  rcases called : (Vm.call c argCount 1 true).run w₁ with ⟨_ | e | _, w₂⟩
  · rcases readTop : (read (-1)).run w₂ with ⟨_ | _ | _, w₃⟩ <;>
      simp only [called, Action.run_attempt, readTop, run_changeMachine] at ran <;> cases ran
    · exact .inr ⟨w₂, w₃, rfl, readTop, rfl⟩
    · exact .inr ⟨w₂, w₃, rfl, readTop, rfl⟩
    · exact absurd rfl ended
  · rw [called] at ran
    cases ran
    exact .inl ⟨e, rfl, rfl⟩
  · rw [called] at ran
    cases ran
    exact absurd rfl ended

/-- A call takes the one result off the stack again. -/
theorem finishCall_leaves {outcome : Outcome Raised HostValue}
    (whole : w.machine.base ≤ w.machine.height) (tidy : w₁.machine.HasTidyRegistry)
    (pushed : (pushAll w.machine.top args).run { w with machine := w.machine.push f } = (.value (), w₁))
    (ran : (finishCall (callerAt depth) w.machine.top args.length).run w₁ = (outcome, w'))
    (ended : outcome ≠ .exhausted) (isOpen : w'.machine.isClosed = false) : w.SameSlots w' ∧
      ∀ v, outcome = .value v → IsFirstResult (callerAt depth) w f args w' v := by
  obtain ⟨e, called, rfl⟩ | ⟨w₂, w₃, called, readTop, rfl⟩ := finishCall_cases ran ended
  · obtain ⟨_, -, stack, frames⟩ | ⟨_, _, returned, _⟩ := call_pushed whole pushed called (by simp) isOpen
    · exact ⟨⟨stack, frames⟩, fun v value => by cases value⟩
    · cases returned
  · obtain ⟨stack₃, frames₃, closed₃⟩ := stays_read readTop
    have isOpen₂ : w₂.machine.isClosed = false := by
      rw [← closed₃, ← (isSteady_setTop w.machine.top).isClosed w₃.machine]
      exact isOpen
    -- The registry is tidy still when the result is read, so a function can be pinned.
    have first := (Stacks.push (w := w) f).whole whole
    have tidy₂ := (evolves_call ((stacks_pushAll first pushed).whole first) depth args.length 1 true).tidy tidy
    rw [called] at tidy₂
    obtain ⟨_, returned, _⟩ | ⟨results, w₀, -, returned, rfl⟩ :=
      call_pushed whole pushed called (by simp) isOpen₂
    · cases returned
    · have stack : w₃.machine.stack = w.machine.stack ++ #[results[0]?.getD .nil] :=
        stack₃.trans Array.push_eq_append
      rw [setTop_top whole stack frames₃]
      refine ⟨⟨rfl, frames₃⟩, ?_⟩
      rintro v rfl
      have top : (withResult w w₀ (results[0]?.getD .nil)).machine.IsTop (results[0]?.getD .nil) :=
        ⟨w.machine.stack, rfl, whole⟩
      exact ⟨results, w₀, returned, (readsAs_of_top tidy₂ top readTop).ofStack _⟩

end Bridge

end Whole

namespace HostCall

/-- Of what is pushed for a call nothing is left. -/
theorem leaves {call : HostCall} {w w' : World} {f : Value} {args : List HostValue} {depth : Nat}
    {outcome : Outcome Raised HostValue} (whole : w.machine.base ≤ w.machine.height)
    (tidy : w.machine.HasTidyRegistry) (found : call.callee w = .ok f)
    (ran : (call.run (callerAt depth) args).run w = (outcome, w')) (ended : outcome ≠ .exhausted)
    (isOpen : w'.machine.isClosed = false) : w.SameSlots w' ∧
      ∀ v, outcome = .value v → IsFirstResult (callerAt depth) w f args w' v := by
  have first := Stacks.push (w := w) f
  rw [run_of_ok (callerAt depth) args found, Action.run_bind] at ran
  rcases Bridge.pushAll_cases (first.whole whole) w.machine.top args with
    ⟨w₁, pushed, stacked⟩ | ⟨r, n, w₁, failed, stacked⟩
  · have tidy₁ := Drift.pushAll (D := tidying) w.machine.top args
      { w with machine := w.machine.push f } (tidy.of_eq rfl rfl)
    rw [pushed] at ran tidy₁
    exact Bridge.finishCall_leaves whole tidy₁ pushed ran ended isOpen
  · rw [failed] at ran
    cases ran
    have stacked := first.trans stacked
    rw [stacked.setTop_top whole]
    exact ⟨⟨rfl, stacked.frames⟩, fun v value => by cases value⟩

end HostCall

/-- In every state that a session evolves to, whatever is on the stack and however deep the frames are
    nested, a call of the host that ends leaves the stack and the frames as they were, whether it succeeds
    or fails and wherever it fails, unless the machine is closed by it.  If it succeeds, its value is what
    the first result is read as of the function that was called, and nil if this had no result. -/
theorem host_call_leaves_stack {m : Machine} (whole : m.base ≤ m.height) (tidy : m.HasTidyRegistry)
    {host : HostStore} {options : SessionOptions} {w : World}
    (opened : Evolves (openSession options m host) w) (depth : Nat) (call : HostCall)
    (args : List HostValue) {outcome : Outcome Raised HostValue} {w' : World}
    (ran : (call.run (callerAt depth) args).run w = (outcome, w')) (ended : outcome ≠ .exhausted)
    (isOpen : w'.machine.isClosed = false) :
    w'.machine.stack = w.machine.stack ∧ w'.machine.frames = w.machine.frames ∧
      ∀ v, outcome = .value v → ∃ f results w₁, call.callee w = .ok f ∧
        Returns (callerAt depth) w args f results w₁ ∧ w'.ReadsAs (results[0]?.getD .nil) v ∧
        (results = #[] → v = .nil) := by
  have whole' : w.machine.base ≤ w.machine.height :=
    Path.whole opened (whole_openSession whole options host)
  have tidy' : w.machine.HasTidyRegistry := Path.tidy opened (tidy_openSession tidy options host)
  cases found : call.callee w with
  | error r =>
    rw [HostCall.run_of_error (callerAt depth) args found] at ran
    cases ran
    exact ⟨rfl, rfl, fun v value => by cases value⟩
  | ok f =>
    obtain ⟨⟨stack, frames⟩, first⟩ := HostCall.leaves whole' tidy' found ran ended isOpen
    refine ⟨stack, frames, fun v value => ?_⟩
    obtain ⟨results, w₁, returned, read⟩ := first v value
    refine ⟨f, results, w₁, rfl, returned, read, ?_⟩
    rintro rfl
    exact read.of_nil

/-- A session with something on the stack of its machine. -/
def litteredWorld : World :=
  let w := openSession {} (Machine.start 8).openBase .empty
  { w with machine := { w.machine with stack := #[.boolean true, .nil] } }

/-- A function is called, and something that is none; both times the stack is as it was. -/
theorem host_call_leaves_stack_of_littered :
    (∃ w, ((HostCall.global "type").run (callerAt 1) [.int 7]).run litteredWorld =
        (.value (.str "number"), w) ∧ w.machine.stack = #[.boolean true, .nil]) ∧
      ∃ w, ((HostCall.global "missing").run (callerAt 1) [.int 7]).run litteredWorld =
        (.failure (.error (.vm (.typeError "attempt to call a nil value"))), w) ∧
          w.machine.stack = #[.boolean true, .nil] := by
  have fresh : IsFresh (Machine.start 8).openBase .empty :=
    (IsFresh.start 8 fun _ => rfl).change isSteady_openBase
  have opened : Evolves (openSession {} (Machine.start 8).openBase .empty) litteredWorld :=
    .single (.stack rfl (by decide +kernel))
  have balanced (call : HostCall) (args : List HostValue) {outcome : Outcome Raised HostValue} {w' : World}
      (ran : (call.run (callerAt 1) args).run litteredWorld = (outcome, w')) :=
    host_call_leaves_stack fresh.whole fresh.tidy opened 1 call args ran
  have stack : litteredWorld.machine.stack = #[.boolean true, .nil] := rfl
  have isNumber : ((((HostCall.global "type").run (callerAt 1) [.int 7]).run litteredWorld).1.value?.bind
    HostValue.text?) = some "number" := by decide +kernel
  have isOpen : (((HostCall.global "type").run (callerAt 1) [.int 7]).run litteredWorld).2.machine.isClosed =
    false := by decide +kernel
  have isRefused : (((HostCall.global "missing").run (callerAt 1) [.int 7]).run litteredWorld).1.failure? =
    some (.error (.vm (.typeError "attempt to call a nil value"))) := by decide +kernel
  have isOpen' : (((HostCall.global "missing").run (callerAt 1) [.int 7]).run
    litteredWorld).2.machine.isClosed = false := by decide +kernel
  generalize litteredWorld = w at balanced stack isNumber isOpen isRefused isOpen'
  rw [← stack]
  obtain ⟨v, value, text⟩ := Option.bind_eq_some_iff.1 isNumber
  cases HostValue.eq_str text
  have ran := Action.run_of_value? value
  have failed := Action.run_of_failure? isRefused
  exact ⟨⟨_, ran, (balanced _ _ ran (by simp) isOpen).1⟩, _, failed,
    (balanced _ _ failed (by simp) isOpen').1⟩

end ScriptHost
