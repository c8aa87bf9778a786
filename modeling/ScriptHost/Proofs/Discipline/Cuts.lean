import ScriptHost.Proofs.Discipline.Commands
import ScriptHost.Proofs.Machine.Calls
/-!
# Runs that are cut short

A run is exhausted if it needs more levels of nested code than it is allowed, or if what is done before
an operation stops it there.  That is all the difference that the allowance and the watching make: a
run that is not exhausted goes as it would with a greater allowance and with nobody watching.

`Action.IsCutOf` relates an action that may be cut short to the whole one.  It is a discipline, so the
runs of all code are so related, whatever their callers do.
-/

namespace ScriptHost

instance {ε α : Type} (outcome : Outcome ε α) : Decidable (outcome = .exhausted) := by
  cases outcome with
  | exhausted => exact isTrue rfl
  | value a => exact isFalse (by simp)
  | failure e => exact isFalse (by simp)

/-- Wherever the first action is not exhausted, the second one goes the same way. -/
def Action.IsCutOf {σ ε α : Type} (x y : Action σ ε α) : Prop :=
  ∀ s, (x.run s).1 ≠ .exhausted → y.run s = x.run s

open World Machine

namespace Action.IsCutOf

section Shapes

variable {σ ε ε' α β : Type}

theorem refl (x : Action σ ε α) : x.IsCutOf x := fun _ _ => rfl

theorem exhaust (y : Action σ ε α) : Action.exhaust.IsCutOf y := fun _ ended => absurd rfl ended

theorem seq {x y : Action σ ε α} {f g : α → Action σ ε β} (first : x.IsCutOf y)
    (second : ∀ a, (f a).IsCutOf (g a)) : (x >>= f).IsCutOf (y >>= g) := by
  intro s ended
  rw [run_bind] at ended
  rw [run_bind, run_bind]
  rcases ran : x.run s with ⟨a | e | _, s₁⟩ <;> rw [ran] at ended
  · rw [first s (by simp [ran]), ran]
    exact second a s₁ ended
  · rw [first s (by simp [ran]), ran]
  · exact absurd rfl ended

/-- Two actions that make the same of the outcomes of others. -/
theorem of_outcome {x y : Action σ ε α} {x' y' : Action σ ε' β} (cut : x.IsCutOf y)
    (make : Outcome ε α → Outcome ε' β) (exhausted : make .exhausted = .exhausted)
    (run_x : ∀ s, x'.run s = (make (x.run s).1, (x.run s).2))
    (run_y : ∀ s, y'.run s = (make (y.run s).1, (y.run s).2)) : x'.IsCutOf y' := by
  intro s ended
  rw [run_x] at ended
  have ended₁ : (x.run s).1 ≠ .exhausted := fun same => ended (by rw [same, exhausted])
  rw [run_x, run_y, cut s ended₁]

theorem attempt {x y : Action σ ε α} (cut : x.IsCutOf y) :
    (Action.attempt x : Action σ ε' (Except ε α)).IsCutOf (Action.attempt y) :=
  cut.of_outcome Outcome.attempted rfl (run_attempt_eq x) (run_attempt_eq y)

theorem reword {x y : Action σ ε α} (f : ε → ε') (cut : x.IsCutOf y) :
    (Action.mapFailure f x).IsCutOf (Action.mapFailure f y) :=
  cut.of_outcome (Outcome.reworded f) rfl (run_mapFailure_eq f x) (run_mapFailure_eq f y)

end Shapes

/-- Only the code that runs while a record is held can be cut short. -/
theorem holding {α : Type} (isExclusive : Bool) (o : HostObject) {x y : Bridge α} (cut : x.IsCutOf y) :
    (Bridge.holding isExclusive o x).IsCutOf (Bridge.holding isExclusive o y) := by
  refine (refl _).seq fun r => ?_
  cases r.borrow.admit? isExclusive with
  | none => exact refl _
  | some borrow => exact (refl _).seq fun _ => cut.attempt.seq fun result => refl _

/-! ## Calls -/

section Calls

variable {c c' : Caller} (bodies : ∀ code, (c.run code).IsCutOf (c'.run code))

include bodies

theorem call (argCount resultCount : Int) (isProtected : Bool) :
    (Vm.call c argCount resultCount isProtected).IsCutOf
      (Vm.call c' argCount resultCount isProtected) := by
  intro w ended
  rw [Vm.run_call] at ended
  rw [Vm.run_call, Vm.run_call]
  cases target : w.machine.callee argCount with
  | missing e => rfl
  | refused slot e => rfl
  | ready slot code =>
    rw [target] at ended
    simp only [Vm.run_runFrame] at ended ⊢
    -- The call is exhausted exactly if the function is.
    have ended₁ : ((c.run code).run (Vm.entered w slot)).1 ≠ .exhausted := fun same =>
      ended (by rw [same]; rfl)
    rw [bodies code _ ended₁]

theorem callValue (f : Value) (args : List Value) (resultCount : Nat) :
    (Vm.callValue c f args resultCount).IsCutOf (Vm.callValue c' f args resultCount) := by
  intro w ended
  have called := call bodies args.length resultCount false (Vm.prepared w f args)
  rw [Vm.run_callValue] at ended
  rw [Vm.run_callValue, Vm.run_callValue]
  rcases ran : (Vm.call c args.length resultCount false).run (Vm.prepared w f args) with
    ⟨_ | e | _, w₁⟩ <;> rw [ran] at ended called
  · rw [called (by simp)]
  · rw [called (by simp)]
  · exact absurd rfl ended

theorem newIndex (key : String) (v : Value) (links : Nat) (target : Value) :
    (Vm.newIndex c key v links target).IsCutOf (Vm.newIndex c' key v links target) := by
  induction links generalizing target with
  | zero => exact refl _
  | succ links ih =>
    cases target with
    | table address =>
      refine (refl _).seq fun handler => ?_
      cases handler with
      | function name code => exact (callValue bodies _ _ _).seq fun _ => refl _
      | table next => exact ih (.table next)
      | _ => exact refl _
    | _ => exact refl _

theorem setField (i : Int) (key : String) :
    (Vm.setField c i key).IsCutOf (Vm.setField c' i key) :=
  (refl _).seq fun _ => (refl _).seq fun _ => (refl _).seq fun _ => (refl _).seq fun v =>
    newIndex bodies key v _ _

/-- Of the edits only an assignment runs nested code. -/
theorem edit {op : Op} (isEdit : op.IsEdit) : (op.perform c).IsCutOf (op.perform c') := by
  cases op with
  | setField i name => exact (setField bodies i name).seq fun _ => refl _
  | reference | releaseReference | rawSet | setMeta | close => exact refl _
  | _ => exact isEdit.elim

end Calls

end Action.IsCutOf

/-! ## Whole runs -/

/-- To be cut short by what is done before an operation is a discipline. -/
def cutting {before before' : Op → Vm Unit} (watch : ∀ op, (before op).IsCutOf (before' op)) :
    SessionDiscipline where
  Relates := Action.IsCutOf
  before := before
  before' := before'
  value _ := .refl _
  failure _ := .refl _
  exhausted := .refl _
  seq := .seq
  attempt := .attempt
  reword := .reword
  look _ continued w := continued w.machine w
  askSession _ := .refl _
  askHost _ := .refl _
  emit _ := .refl _
  steady _ := .refl _
  ordinary _ := .refl _
  holding isExclusive o := .holding isExclusive o
  watch := watch
  call argCount resultCount isProtected bodies := .call bodies argCount resultCount isProtected
  callValue f args resultCount bodies := .callValue bodies f args resultCount
  -- An edit is watched like any other operation, so one watch is cut short by the other first.
  edit isEdit bodies := (watch _).seq fun _ => (Action.IsCutOf.edit bodies isEdit).attempt
  push _ := .refl _
  read _ := .refl _
  disposeFunction _ := .refl _
  registerType _ := .refl _
  forwardType _ := .refl _
  pinChunk := .refl _
  takeChunk := .refl _
  teardown := .refl _

/-- A run of commands that is not cut short goes as one that may nest deeper and is watched less. -/
theorem Command.runAll_isCutOf {before before' : Op → Vm Unit}
    (watch : ∀ op, (before op).IsCutOf (before' op)) (depth more : Nat) (commands : List Command) :
    (Command.runAll (watchedCaller before depth) commands).IsCutOf
      (Command.runAll (watchedCaller before' (depth + more)) commands) :=
  SessionDiscipline.runAll
    ((cutting watch).covers_watchedCaller depth more fun _ _ _ y => .exhaust y) commands

/-- What is called goes the same way however many levels it may nest, unless they are too few. -/
theorem callerAt_isCutOf (depth more : Nat) (code : NativeCode) :
    ((callerAt depth).run code).IsCutOf ((callerAt (depth + more)).run code) :=
  ((cutting fun _ => .refl _).covers_watchedCaller depth more fun _ _ _ y => .exhaust y).run code

end ScriptHost
