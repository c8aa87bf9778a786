import ScriptHost.Proofs.Members.Widening
/-!
# Host code that works from its arguments

The host code that a frame is opened for is handed the arguments as a list.  If it works from these alone,
and so do the host functions that it applies itself, then it does in a frame one slot wider what it does in
the narrow one.  It may put values on the stack, but all that it does with them counts from the top: it
calls what it has pushed there, reads the result and cuts the frame back to the size it had.

So `widening` is a discipline of hosts.  The caller that serves host code by it is `handedCaller`, which
stops a run where a host function is applied that does use the frame.
-/

namespace ScriptHost

open World Machine

/-! ## The top of the frame -/

namespace Action

variable {c : Caller} {w : World}

/-- What is on top of the frame is read in the wider one as well. -/
theorem WidensAt.readTop (filled : w.machine.IsFilled) :
    (Bridge.read (-1)).WidensAt (Bridge.read (-1)) w := by
  have from_base {w : World} (positive : 0 < w.machine.top) :
      (Bridge.read (-1)).run w = (Bridge.read w.machine.top).run w := by
    have index : w.machine.absIndex (-1) = w.machine.absIndex w.machine.top := by
      rw [absIndex, absIndex, if_neg (by decide), if_pos positive]
      omega
    simp only [Bridge.read, run_bind, run_askMachine, index]
  have positive : 0 < w.machine.top := by
    rw [IsFilled] at filled
    rw [top, frameSize]
    omega
  intro frames wide
  have top : (w.reframed frames).machine.top = w.machine.top + 1 := top_reframed wide
  rw [from_base positive, from_base (by omega), top]
  exact (WidensTo.read positive).widens w frames wide

/-- To read what is on top leaves it there. -/
theorem isFilled_read {i : Int} {result : Except Raised HostValue} {w₁ : World}
    (filled : w.machine.IsFilled)
    (ran : (Action.attempt (Bridge.read i) : Bridge _).run w = (.value result, w₁)) :
    w₁.machine.IsFilled := by
  obtain ⟨stack, frames, -⟩ := Bridge.stays_read (Prod.eta ((Bridge.read i).run w)).symm
  have same : ((Bridge.read i).run w).2 = w₁ := by
    rw [run_attempt_eq] at ran
    exact (Prod.mk.inj ran).2
  rw [same] at stack frames
  rw [IsFilled, Machine.base, Machine.height, stack, frames]
  exact filled

/-- A call that returns has left its result on top of the frame. -/
theorem isFilled_called (covers : isolation.Covers c c) {argCount : Int} {isProtected : Bool} {w₁ : World}
    (ran : (Vm.inHost (Vm.call c argCount 1 isProtected)).run w = (.value (), w₁))
    (isOpen : w₁.machine.isClosed = false) (base : w₁.machine.base = w.machine.base) :
    w₁.machine.IsFilled := by
  rw [Vm.inHost, run_mapFailure] at ran
  rcases called : (Vm.call c argCount 1 isProtected).run w with ⟨_ | e | _, w₂⟩ <;> rw [called] at ran <;>
    cases ran
  obtain ⟨slot, inside, height⟩ := Isolated.height_called covers.run (by decide) called isOpen
  rw [IsFilled, base, height]
  exact Nat.lt_succ_of_le inside

/-! ## Calls of the host -/

section Calls

variable (covers : isolation.Covers c c)

include covers

theorem WidensAt.finishCall {size : Int} (notNegative : 0 ≤ size) {argCount slot : Nat}
    (found : w.machine.calleeIndex? argCount = some slot) :
    (Bridge.finishCall c size argCount).WidensAt (Bridge.finishCall c (size + 1) argCount) w := by
  have call : Isolated (Vm.inHost (Vm.call c argCount 1 true)) :=
    (Isolated.call argCount 1 true covers.run).reword _
  have cutBack (size : Int) (result : Except Raised HostValue) :
      Isolated (World.changeMachine (·.setTop size) >>= fun _ => Action.ofExcept result : Bridge HostValue) :=
    (Isolated.changeMachine (isSteady_setTop size).toIsRelative).seq fun _ => .ofExcept result
  have later (size : Int) (_ : Unit) : Isolated (Action.attempt (Bridge.read (-1)) >>= fun result =>
      World.changeMachine (·.setTop size) >>= fun _ => Action.ofExcept result : Bridge HostValue) :=
    (Isolated.read (-1)).attempt.seq (cutBack size)
  refine ((WidensAt.call covers.run found).reword _).seq call (later size) (later (size + 1))
    fun _ w₁ ran₁ isOpen₁ keeps₁ => ?_
  have filled : w₁.machine.IsFilled := isFilled_called covers ran₁ isOpen₁ keeps₁.base
  exact (readTop filled).attempt.seq (Isolated.read (-1)).attempt (cutBack size) (cutBack (size + 1))
    fun result w₂ _ _ _ =>
      ((WidensTo.setTop notNegative).seq fun _ => .of_elsewhere (.ofExcept result)).widens w₂

namespace WidensTo

/-- The host calls a function that it holds. -/
theorem callFunction (number : Nat) (args : List HostValue) :
    (Bridge.callFunction c number args).WidensTo (Bridge.callFunction c number args) := by
  have finish (size : Int) (_ : Unit) : Isolated (Bridge.finishCall c size args.length) :=
    covers.finishCall size args.length
  have push (size : Int) (_ : Bool) :
      Isolated (Bridge.pushAll size args >>= fun _ => Bridge.finishCall c size args.length) :=
    Isolated.seq (Discipline.pushAll (D := isolation) size args) (finish size)
  refine (of_elsewhere (.functionReference number)).seq fun r => ?_
  have isolated : Isolated (World.askMachine (·.top) >>= fun size =>
      World.onMachine (·.pushReference r) >>= fun _ => Bridge.pushAll size args >>= fun _ =>
        Bridge.finishCall c size args.length) :=
    Isolated.look isQuery_top fun _ => (pushReference r).narrow.seq (push _)
  refine ⟨isolated, isolated, fun w =>
    .look (fun frames wide => top_reframed wide) (.of_whole fun whole => ?_)⟩
  have notNegative : 0 ≤ w.machine.top := Int.natCast_nonneg _
  refine ((pushReference r).widens w).seq (pushReference r).narrow (push _) (push _)
    fun _ w₁ ran₁ _ keeps₁ => ?_
  rw [run_onMachine, pushReference_eq] at ran₁
  cases ran₁
  -- The size that the frame is cut back to is one more in the wider one, and so is what it had before.
  refine ((pushAll notNegative args).widens _).seq (pushAll notNegative args).narrow (finish _) (finish _)
    fun _ w₂ ran₂ _ _ => ?_
  -- The function has been pushed below its arguments, so the call finds it.
  obtain ⟨found, -⟩ := (Bridge.stacks_pushAll keeps₁.staysWhole ran₂).calleeIndex? whole
  exact .finishCall covers notNegative found

theorem say (text : String) : (Bridge.say c text).WidensTo (Bridge.say c text) where
  narrow := covers.say text
  wide := covers.say text
  widens w := .of_whole fun whole => by
    have call (_ : Unit) : Isolated (Vm.inHost (Vm.call c 1 0 false)) :=
      (Isolated.call 1 0 false covers.run).reword _
    have pushed (_ : Unit) : Isolated (World.changeMachine (·.push (.string (utf8Encode text))) >>= fun _ =>
        Vm.inHost (Vm.call c 1 0 false)) :=
      (pushValue _).narrow.seq call
    have stacked : World.Stacks { w with machine := w.machine.push (w.machine.global "print") } 1
        { w with machine := (w.machine.push (w.machine.global "print")).push (.string (utf8Encode text)) } :=
      .push _
    obtain ⟨found, -⟩ := stacked.calleeIndex? whole
    refine (WidensAt.changeMachine fun frames wide => rfl).thenDo
      ((isSteady_getGlobal "print").mapAnswer fun _ => ()).toIsRelative pushed pushed ?_
    exact (WidensAt.changeMachine fun frames wide => rfl).thenDo
      (isSteady_push (isQuery_const _)).toIsRelative call call ((WidensAt.call covers.run found).reword _)

omit covers

theorem global (name : String) : (Bridge.global name).WidensTo (Bridge.global name) where
  narrow := Discipline.global (D := isolation) name
  wide := Discipline.global (D := isolation) name
  widens w := .of_whole fun whole => by
    have finish (result : Except Raised HostValue) :
        Isolated (World.changeMachine (·.pop 1) >>= fun _ => Action.ofExcept result : Bridge HostValue) :=
      (Isolated.changeMachine (isSteady_pop 1).toIsRelative).seq fun _ => .ofExcept result
    have later (_ : Unit) : Isolated (Action.attempt (Bridge.read (-1)) >>= fun result =>
        World.changeMachine (·.pop 1) >>= fun _ => Action.ofExcept result : Bridge HostValue) :=
      (Isolated.read (-1)).attempt.seq finish
    refine (WidensAt.changeMachine fun frames wide => rfl).thenDo
      ((isSteady_getGlobal name).mapAnswer fun _ => ()).toIsRelative later later ?_
    have filled := isFilled_push whole (w.machine.global name)
    refine (WidensAt.readTop filled).attempt.seq (Isolated.read (-1)).attempt finish finish
      fun result w₂ ran₂ _ _ => ?_
    have filled₂ : w₂.machine.IsFilled := isFilled_read filled ran₂
    refine (WidensAt.changeMachine fun frames wide => pop_reframed wide filled₂).seq
      (.changeMachine (isSteady_pop 1).toIsRelative) (fun _ => .ofExcept result) (fun _ => .ofExcept result)
      fun _ w₃ _ _ _ => (of_elsewhere (.ofExcept result)).widens w₃

end WidensTo

end Calls

end Action

/-! ## Host code that works from its arguments -/

open ScriptHost.Action

/-- To do the same in a wider frame is a discipline of hosts. -/
def widening : HostDiscipline where
  Relates x y := x.WidensTo y
  value a := .of_elsewhere (.value a)
  failure e := .of_elsewhere (.failure e)
  seq := .seq
  attempt := .attempt
  reword := .reword
  askSession f := .of_elsewhere (.askSession f)
  askHost f := .of_elsewhere (.askHost f)
  emit e := .of_elsewhere (.emit e)
  ordinary _ := .of_elsewhere (.onHost _)
  holding isExclusive o := .holding isExclusive o
  push := .push
  disposeFunction := .disposeFunction

/-- The caller that may nest so many levels of code, and applies a host function only if it works from the
    values that it is handed. -/
def handedCaller : Nat → Caller
  | 0 => .none Caller.unwatched
  | depth + 1 =>
    { callerAt (depth + 1) with
      apply := fun f args => if f.body.usesSlots then .exhaust else f.invoke (handedCaller depth) args }

section Handed

variable (depth : Nat)

/-- Without the restriction the same is done, where that is not exhausted. -/
theorem Discipline.covers_handedCaller (D : Discipline) (unwatched : D.before = Caller.unwatched)
    (unwatched' : D.before' = Caller.unwatched)
    (exhausted : ∀ {ε α : Type} (y : Action World ε α), D.Relates .exhaust y) :
    D.Covers (handedCaller depth) (callerAt depth) := by
  have covers (depth : Nat) : D.Covers (callerAt depth) (callerAt depth) := by
    have watched := D.covers_watchedCaller depth 0
    rwa [unwatched, unwatched'] at watched
  induction depth with
  | zero =>
    exact ⟨fun _ => exhausted _, fun _ => exhausted _, fun _ _ => exhausted _, unwatched.symm,
      unwatched'.symm⟩
  | succ depth ih =>
    have apply (f : HostFunction) (args : List HostValue) :
        D.Relates (if f.body.usesSlots then .exhaust else f.invoke (handedCaller depth) args)
          (f.invoke (callerAt depth) args) := by
      cases f.body.usesSlots with
      | true => exact exhausted _
      | false => exact ih.invokeFunction f args
    exact ⟨(covers (depth + 1)).run, (covers (depth + 1)).render, apply, unwatched.symm, unwatched'.symm⟩

theorem isolation_covers_handedCaller : isolation.Covers (handedCaller depth) (handedCaller depth) := by
  have covers := isolation.covers_handedCaller depth rfl rfl fun _ => Isolated.exhausted
  exact ⟨covers.run, covers.render, covers.apply, covers.before, covers.before⟩

/-- Host code that does not reach into its frame is served alike in a wider one. -/
theorem widening_serves_handedCaller :
    widening.Serves False (handedCaller depth) (handedCaller depth) := by
  have serves (depth : Nat) (apply : ∀ f args,
      ((handedCaller depth).apply f args).WidensTo ((handedCaller depth).apply f args)) :
      widening.Serves False (handedCaller depth) (handedCaller depth) :=
    ⟨WidensTo.callFunction (isolation_covers_handedCaller depth), apply, WidensTo.global,
      WidensTo.say (isolation_covers_handedCaller depth), False.elim, False.elim⟩
  have exhausted : (Action.exhaust : Bridge (Option HostValue)).WidensTo .exhaust :=
    .of_elsewhere fun _ _ => ⟨rfl, rfl⟩
  induction depth with
  | zero => exact serves 0 fun _ _ => exhausted
  | succ depth ih =>
    refine serves (depth + 1) fun f args => ?_
    show WidensTo (if f.body.usesSlots then .exhaust else f.invoke (handedCaller depth) args)
      (if f.body.usesSlots then .exhaust else f.invoke (handedCaller depth) args)
    cases handed : f.body.usesSlots with
    | true => exact exhausted
    | false => exact ih.invokeFunction f args fun used => by simp [handed] at used

end Handed

end ScriptHost
