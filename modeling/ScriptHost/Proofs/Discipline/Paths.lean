import Mathlib.Logic.Relation
import ScriptHost.Proofs.Discipline.Cuts
import ScriptHost.Proofs.Machine.Drifts
import ScriptHost.Proofs.Machine.References
/-!
# Runs are paths

Whatever commands are run, and whatever code they run in turn, the world changes in steps of a few
kinds.  `World.Step` lists them: changes of the stack and tame changes of the machine, plain changes of
the host, the elementary operations of the bridge and the session, and the edits of stack programs.  A
run that is stopped before some of the edits has no steps for these.

That every run is a path of such steps is a discipline (`walking`).  So a property that each step keeps
holds in all states that a run passes through, in the midst of nested code as well as between commands;
these are the states in which the run can be stopped.  The discipline compares two runs, of which the
first is stopped earlier: where it stops is a state that the second one passes through.
-/

namespace ScriptHost

open World Machine

/-! ## Stopping -/

/-- Stops a run before an operation for which the test says so. -/
def stopWhen (stop : Op → World → Bool) (op : Op) : Vm Unit := fun w =>
  if stop op w then (.exhausted, w) else (.value (), w)

theorem run_stopWhen (stop : Op → World → Bool) (op : Op) (w : World) :
    (stopWhen stop op).run w = if stop op w then (.exhausted, w) else (.value (), w) := rfl

theorem stopWhen_isCutOf (stop : Op → World → Bool) (op : Op) :
    (stopWhen stop op).IsCutOf (Caller.unwatched op) := by
  intro w ended
  rw [run_stopWhen] at ended
  show (Outcome.value (), w) = _
  rw [run_stopWhen]
  by_cases stopped : stop op w
  · rw [if_pos stopped] at ended
    exact absurd rfl ended
  · rw [if_neg stopped]

/-! ## Steps -/

/-- The table that the assignment of a key of a value changes: the first one along the `__newindex`
    tables that has no handler for the key. -/
def Machine.assignee? (m : Machine) (key : String) : Nat → Value → Option Nat
  | links + 1, .table address =>
    match m.newIndexHandler address key with
    | .nil => some address
    | .table next => m.assignee? key links (.table next)
    | _ => none
  | _, _ => none

theorem Machine.newIndexHandler_of_table {m m' : Machine} (same : ∀ a, m'.table a = m.table a) (a : Nat)
    (key : String) : m'.newIndexHandler a key = m.newIndexHandler a key := by
  have metamethod (event : String) : m'.metamethod a event = m.metamethod a event := by
    simp only [Machine.metamethod, Table.metamethod, same a]
    cases (m.table a).metatable with
    | none => rfl
    | some b => exact congrArg (·.get (utf8Encode event)) (same b)
  simp only [newIndexHandler, same, metamethod]

theorem Machine.assignee?_of_table {m m' : Machine} (same : ∀ a, m'.table a = m.table a) (key : String)
    (links : Nat) (target : Value) : m'.assignee? key links target = m.assignee? key links target := by
  have handler (a : Nat) := newIndexHandler_of_table same a key
  induction links generalizing target with
  | zero => cases target <;> rfl
  | succ links ih =>
    cases target with
    | table a =>
      rw [assignee?, assignee?, handler]
      cases m.newIndexHandler a key <;> first | rfl | exact ih _
    | _ => rfl

/-- The world in which an assignment takes effect: the value to assign is off the stack. -/
def World.popped (w : World) : World := { w with machine := w.machine.popValue.2 }

/-- One change of the world in the course of a run that makes none of the barred edits. -/
inductive World.Step (bars : Op → World → Prop) (w : World) : World → Prop where
  | stack {m : Machine} (same : m = { w.machine with stack := m.stack, frames := m.frames })
      (whole : m.base ≤ m.height) : Step bars w { w with machine := m }
  | tame {α : Type} {f : Machine → α × Machine} (tame : IsTame f) :
      Step bars w { w with machine := (f w.machine).2 }
  | plain {α : Type} {f : HostStore → α × HostStore} (plain : HostStore.IsPlain f) :
      Step bars w { w with host := (f w.host).2 }
  | emit (e : Event) : Step bars w { w with events := w.events.push e }
  | push (v : HostValue) : Step bars w ((Bridge.push v).run w).2
  | read (i : Int) : Step bars w ((Bridge.read i).run w).2
  | disposeFunction (number : Nat) : Step bars w ((Bridge.disposeFunction number).run w).2
  | registerType (d : TypeDescriptor) : Step bars w ((Session.registerType d).run w).2
  | forwardType (d : TypeDescriptor) : Step bars w ((Session.forwardType d).run w).2
  | pinChunk : Step bars w (Session.pinChunk.run w).2
  | takeChunk : Step bars w (Session.takeChunk.run w).2
  | teardown : Step bars w (Session.teardown.run w).2
  | reference {i : Int} (allowed : ¬ bars (.reference i) w) :
      Step bars w { w with machine := (w.machine.reference i).2 }
  | releaseReference {r : Nat} (allowed : ¬ bars (.releaseReference r) w) :
      Step bars w { w with machine := w.machine.releaseReference r }
  | close (allowed : ¬ bars .close w) : Step bars w { w with machine := w.machine.close }
  | rawSet {i : Int} {name : String} (allowed : ¬ bars (.rawSet i name) w) :
      Step bars w { w with machine := w.machine.rawSet i name }
  | setMetatable {i : Int} (allowed : ¬ bars (.setMeta i) w) :
      Step bars w { w with machine := (w.machine.setMetatable i).2 }
  /-- The assignment by which a `setField` ends, unless it ends in a handler. -/
  | assign {w₀ : World} {i : Int} {name : String} {address : Nat}
      (allowed : ¬ bars (.setField i name) w₀) (popped : w = w₀.popped)
      (found : w₀.machine.assignee? name Vm.maxChain (w₀.machine.valueAt i) = some address) :
      Step bars w { w with
        machine := w.machine.setTableField address (utf8Encode name) w₀.machine.popValue.1 }

/-- A number of steps. -/
abbrev World.Path (bars : Op → World → Prop) : World → World → Prop :=
  Relation.ReflTransGen (World.Step bars)

/-! ## Steps of the machine -/

/-- A change of the machine that the bridge does not make: a call sets up the stack or clears it, or a
    stack program edits a table. -/
inductive Machine.Edits (m : Machine) : Machine → Prop where
  | stack {m' : Machine} (same : m' = { m with stack := m'.stack, frames := m'.frames })
      (whole : m'.base ≤ m'.height) : Edits m m'
  | rawSet (i : Int) (name : String) : Edits m (m.rawSet i name)
  | setMetatable (i : Int) : Edits m (m.setMetatable i).2
  | assign (address : Nat) (key : Bytes) (v : Value) : Edits m (m.setTableField address key v)

theorem Machine.Edits.whole {m m' : Machine} (edits : m.Edits m') (whole : m.base ≤ m.height) :
    m'.base ≤ m'.height := by
  cases edits with
  | stack same whole' => exact whole'
  | rawSet i name => exact (isRelative_rawSet i name).staysWhole whole
  | setMetatable i => exact (isRelative_setMetatable i).staysWhole whole
  | assign address key v => exact (isRelative_setTableField address key v).staysWhole whole

theorem Machine.Edits.isClosed {m m' : Machine} (edits : m.Edits m') : m'.isClosed = m.isClosed := by
  cases edits with
  | stack same whole => rw [same]
  | rawSet i name => exact (isRelative_rawSet i name).isClosed m
  | setMetatable i => exact (isRelative_setMetatable i).isClosed m
  | assign address key v => exact (isRelative_setTableField address key v).isClosed m

theorem Machine.Edits.sameRegistry {m m' : Machine} (edits : m.Edits m') : m.SameRegistry m' := by
  cases edits with
  | stack same whole => exact ⟨by rw [same], by rw [same]⟩
  | rawSet i name => exact .rawSet m i name
  | setMetatable i => exact .setMetatable m i
  | assign address key v => exact ⟨rfl, rfl⟩

/-- How a step goes: along a drift, or by an edit of the machine, a plain change of the host, or an
    event. -/
inductive World.Goes (D : Drift) (w : World) : World → Prop where
  | leads {w' : World} (leads : D.Leads w w') : Goes D w w'
  | edits {m : Machine} (edits : w.machine.Edits m) : Goes D w { w with machine := m }
  | plain {α : Type} {f : HostStore → α × HostStore} (plain : HostStore.IsPlain f) :
      Goes D w { w with host := (f w.host).2 }
  | emit (e : Event) : Goes D w { w with events := w.events.push e }

/-- Every step goes so, whatever the drift. -/
theorem World.Step.goes (D : Drift) {bars : Op → World → Prop} {w w' : World} (step : Step bars w w') :
    Goes D w w' := by
  cases step with
  | stack same whole => exact .edits (.stack same whole)
  | tame tame => exact .leads (D.tame tame w)
  | plain plain => exact .plain plain
  | emit e => exact .emit e
  | push v => exact .leads (Drift.push v w)
  | read i => exact .leads (Drift.read i w)
  | disposeFunction number => exact .leads (Drift.disposeFunction number w)
  | registerType d => exact .leads (Drift.registerType d w)
  | forwardType d => exact .leads (Drift.forwardType d w)
  | pinChunk => exact .leads (Drift.pinChunk w)
  | takeChunk => exact .leads (Drift.takeChunk w)
  | teardown => exact .leads (Drift.teardown w)
  | reference allowed => exact .leads (D.reference _ w)
  | releaseReference allowed => exact .leads (D.releaseReference _ w)
  | close allowed => exact .leads (D.close w)
  | rawSet allowed => exact .edits (.rawSet _ _)
  | setMetatable allowed => exact .edits (.setMetatable _)
  | assign allowed popped found => exact .edits (.assign _ _ _)

/-! ## Frames along a path -/

/-- The frames are those there were, or none because the machine was closed. -/
def Machine.GivesBack (m m' : Machine) : Prop := m'.frames = m.frames ∨ m'.frames = #[]

theorem Machine.GivesBack.trans {m₁ m₂ m₃ : Machine} (first : m₁.GivesBack m₂)
    (second : m₂.GivesBack m₃) : m₁.GivesBack m₃ := by
  rcases second with same | gone
  · rcases first with same' | gone'
    · exact .inl (same.trans same')
    · exact .inr (same.trans gone')
  · exact .inr gone

/-- The frames are given back, and the current one is whole if it was. -/
structure Machine.Settles (m m' : Machine) : Prop where
  givesBack : m.GivesBack m'
  whole : m.base ≤ m.height → m'.base ≤ m'.height

theorem Machine.Settles.refl (m : Machine) : m.Settles m := ⟨.inl rfl, fun whole => whole⟩

theorem Machine.IsLocal.settles {α : Type} {f : Machine → α × Machine} (isLocal : IsLocal f)
    (m : Machine) : m.Settles (f m).2 :=
  ⟨.inl (isLocal.frames m), isLocal.staysWhole⟩

theorem Machine.settles_close (m : Machine) : m.Settles m.close := by
  rw [Machine.close]
  split
  · exact ⟨.inl rfl, fun whole => whole⟩
  · exact ⟨.inr rfl, fun _ => Nat.le_refl 0⟩

/-- The operations of the bridge settle the machine. -/
def settling : Drift where
  Leads w w' := w.machine.Settles w'.machine
  refl w := .refl w.machine
  trans first second :=
    ⟨first.givesBack.trans second.givesBack, fun whole => second.whole (first.whole whole)⟩
  tame tame w := tame.toIsLocal.settles w.machine
  newProxy t typeName w := (isRelative_newProxy t typeName).isLocal.settles w.machine
  reference i w := (isRelative_reference i).isLocal.settles w.machine
  releaseReference r w := (isRelative_releaseReference r).isLocal.settles w.machine
  close w := settles_close w.machine
  alloc _ _ w := .refl w.machine
  release _ w := .refl w.machine
  releaseAll w := .refl w.machine
  session w _ _ _ := .refl w.machine
  host w _ _ := .refl w.machine

section Whole

variable {bars : Op → World → Prop} {w w' : World}

theorem World.Step.whole (step : Step bars w w') (whole : w.machine.base ≤ w.machine.height) :
    w'.machine.base ≤ w'.machine.height := by
  cases step.goes settling with
  | leads settles => exact Machine.Settles.whole settles whole
  | edits edits => exact edits.whole whole
  | plain | emit => exact whole

theorem World.Path.whole (path : Path bars w w') (whole : w.machine.base ≤ w.machine.height) :
    w'.machine.base ≤ w'.machine.height := by
  induction path with
  | refl => exact whole
  | tail _ step ih => exact step.whole ih

end Whole

/-! ## The registry along a path -/

/-- The operations of the bridge keep the registry tidy. -/
def tidying : Drift where
  Leads w w' := w.machine.HasTidyRegistry → w'.machine.HasTidyRegistry
  refl _ tidy := tidy
  trans first second tidy := second (first tidy)
  tame tame w := (SameRegistry.of_tame tame w.machine).tidy
  newProxy t typeName w tidy := by
    dsimp only
    exact (SameRegistry.newProxy w.machine t typeName).tidy tidy
  reference i _ tidy := (pins_reference tidy i).tidy
  releaseReference _ _ tidy := tidy.releaseReference
  close _ tidy := tidy.close
  alloc _ _ _ tidy := tidy
  release _ _ tidy := tidy
  releaseAll _ tidy := tidy
  session _ _ _ _ tidy := tidy
  host _ _ _ tidy := tidy

section Tidy

variable {bars : Op → World → Prop} {w w' : World}

theorem World.Step.tidy (step : Step bars w w') (tidy : w.machine.HasTidyRegistry) :
    w'.machine.HasTidyRegistry := by
  cases step.goes tidying with
  | leads keeps => exact keeps tidy
  | edits edits => exact edits.sameRegistry.tidy tidy
  | plain | emit => exact tidy

theorem World.Path.tidy (path : Path bars w w') (tidy : w.machine.HasTidyRegistry) :
    w'.machine.HasTidyRegistry := by
  induction path with
  | refl => exact tidy
  | tail _ step ih => exact step.tidy ih

end Tidy

/-! ## Walking -/

/-- How two actions go on from a world, of which the first is stopped earlier: to the state in which it
    stops, and from there to the one in which the second ends.  Unless it is stopped, they go the same
    way. -/
structure Walked (bars : Op → World → Prop) (w : World) {ε α : Type} (x y : Action World ε α) :
    Prop where
  path : Path bars w (x.run w).2
  later : Path bars (x.run w).2 (y.run w).2
  same : (x.run w).1 ≠ .exhausted → y.run w = x.run w
  givesBack : (y.run w).1 ≠ .exhausted → w.machine.GivesBack (y.run w).2.machine

/-- The actions go on as paths from a world in which the current frame is whole. -/
def WalksFrom (bars : Op → World → Prop) (w : World) {ε α : Type} (x y : Action World ε α) : Prop :=
  w.machine.base ≤ w.machine.height → Walked bars w x y

def Walks (bars : Op → World → Prop) {ε α : Type} (x y : Action World ε α) : Prop :=
  ∀ w, WalksFrom bars w x y

namespace Walked

variable {bars : Op → World → Prop} {w w₀ : World} {ε ε' α β : Type}

theorem whole {x y : Action World ε α} (walked : Walked bars w x y)
    (whole : w.machine.base ≤ w.machine.height) :
    (y.run w).2.machine.base ≤ (y.run w).2.machine.height :=
  Path.whole (walked.path.trans walked.later) whole

theorem of_unchanged {x : Action World ε α} (unchanged : (x.run w).2 = w) : Walked bars w x x where
  path := by rw [unchanged]
  later := .refl
  same _ := rfl
  givesBack _ := by rw [unchanged]; exact .inl rfl

theorem of_step {x : Action World ε α} (step : Step bars w (x.run w).2)
    (givesBack : w.machine.GivesBack (x.run w).2.machine) : Walked bars w x x where
  path := .single step
  later := .refl
  same _ := rfl
  givesBack _ := givesBack

theorem of_run_eq {x y x' y' : Action World ε α} (walked : Walked bars w x y)
    (run_x : x'.run w = x.run w) (run_y : y'.run w = y.run w) : Walked bars w x' y' :=
  ⟨by rw [run_x]; exact walked.path, by rw [run_x, run_y]; exact walked.later,
    by rw [run_x, run_y]; exact walked.same, by rw [run_y]; exact walked.givesBack⟩

theorem look {f : Machine → α} {k l : α → Action World ε β}
    (then_ : Walked bars w (k (f w.machine)) (l (f w.machine))) :
    Walked bars w (askMachine f >>= k) (askMachine f >>= l) :=
  then_.of_run_eq rfl rfl

/-- The first action may be stopped at once. -/
theorem stopped {x y : Action World ε α} (walked : Walked bars w x y) :
    Walked bars w Action.exhaust y where
  path := .refl
  later := walked.path.trans walked.later
  same ended := absurd rfl ended
  givesBack := walked.givesBack

/-- Actions that go to another world first, run others there, and then finish what these have left,
    unless they have been stopped. -/
theorem around {x y : Action World ε α} {x' y' : Action World ε' β} (walked : Walked bars w₀ x y)
    (enter : Path bars w w₀) (finish : Outcome ε α → World → Outcome ε' β × World)
    (unfinished : ∀ w₁, finish .exhausted w₁ = (.exhausted, w₁))
    (run_x : x'.run w = finish (x.run w₀).1 (x.run w₀).2)
    (run_y : y'.run w = finish (y.run w₀).1 (y.run w₀).2)
    (leave : (y.run w₀).1 ≠ .exhausted →
      Path bars (y.run w₀).2 (finish (y.run w₀).1 (y.run w₀).2).2 ∧
        w.machine.GivesBack (finish (y.run w₀).1 (y.run w₀).2).2.machine) : Walked bars w x' y' := by
  -- What comes last is a path either way: of no step if the second action was stopped.
  have finished : Path bars (y.run w₀).2 (finish (y.run w₀).1 (y.run w₀).2).2 := by
    by_cases ended : (y.run w₀).1 = .exhausted
    · rw [ended, unfinished]
    · exact (leave ended).1
  have givesBack (ended' : (finish (y.run w₀).1 (y.run w₀).2).1 ≠ .exhausted) :
      w.machine.GivesBack (finish (y.run w₀).1 (y.run w₀).2).2.machine :=
    (leave fun ended => ended' (by rw [ended, unfinished])).2
  -- If the first one was stopped, the second one may go on from where it was.
  by_cases ended : (x.run w₀).1 = .exhausted
  · rw [ended, unfinished] at run_x
    refine ⟨?_, ?_, fun ended' => absurd (by rw [run_x]) ended', by rw [run_y]; exact givesBack⟩
    · rw [run_x]
      exact enter.trans walked.path
    · rw [run_x, run_y]
      exact walked.later.trans finished
  · have same := walked.same ended
    rw [same] at run_y finished givesBack
    refine ⟨?_, ?_, fun _ => run_y.trans run_x.symm, by rw [run_y]; exact givesBack⟩
    · rw [run_x]
      exact (enter.trans walked.path).trans finished
    · rw [run_x, run_y]

/-- Actions that run others and make something else of the way in which these ended. -/
theorem of_outcome {x y : Action World ε α} {x' y' : Action World ε' β} (walked : Walked bars w x y)
    (make : Outcome ε α → Outcome ε' β) (exhausted : make .exhausted = .exhausted)
    (run_x : x'.run w = (make (x.run w).1, (x.run w).2))
    (run_y : y'.run w = (make (y.run w).1, (y.run w).2)) : Walked bars w x' y' :=
  walked.around .refl (fun outcome w₁ => (make outcome, w₁)) (fun _ => by rw [exhausted])
    run_x run_y fun ended => ⟨.refl, walked.givesBack ended⟩

theorem seq {x y : Action World ε α} {f g : α → Action World ε β} (first : Walked bars w x y)
    (whole : w.machine.base ≤ w.machine.height)
    (second : ∀ {a w₁}, y.run w = (.value a, w₁) → WalksFrom bars w₁ (f a) (g a)) :
    Walked bars w (x >>= f) (y >>= g) := by
  have run_x := Action.run_bind w x f
  have run_y := Action.run_bind w y g
  have whole₂ := first.whole whole
  rcases ran₁ : x.run w with ⟨outcome₁, w₁⟩
  rcases ran₂ : y.run w with ⟨outcome₂, w₂⟩
  obtain ⟨path, later, same, givesBack⟩ := first
  simp only [ran₁, ran₂] at path later same givesBack whole₂ run_x run_y
  by_cases stopped : outcome₁ = .exhausted
  · -- The first run was stopped in the first action; the second may have gone on to the next one.
    subst stopped
    cases outcome₂ with
    | value b =>
      have walked₂ := second ran₂ whole₂
      refine ⟨by rw [run_x]; exact path, ?_, fun ended => absurd (by rw [run_x]) ended, ?_⟩
      · rw [run_x, run_y]
        exact later.trans (walked₂.path.trans walked₂.later)
      · rw [run_y]
        exact fun ended => (givesBack (by simp)).trans (walked₂.givesBack ended)
    | failure e =>
      refine ⟨by rw [run_x]; exact path, by rw [run_x, run_y]; exact later,
        fun ended => absurd (by rw [run_x]) ended, ?_⟩
      rw [run_y]
      exact fun _ => givesBack (by simp)
    | exhausted =>
      refine ⟨by rw [run_x]; exact path, by rw [run_x, run_y]; exact later,
        fun ended => absurd (by rw [run_x]) ended, ?_⟩
      rw [run_y]
      exact fun ended => absurd rfl ended
  -- Otherwise the two runs are the same so far.
  · cases same stopped
    cases outcome₁ with
    | value a =>
      have walked₂ := second ran₂ whole₂
      refine ⟨by rw [run_x]; exact path.trans walked₂.path, by rw [run_x, run_y]; exact walked₂.later,
        by rw [run_x, run_y]; exact walked₂.same, ?_⟩
      rw [run_y]
      exact fun ended => (givesBack (by simp)).trans (walked₂.givesBack ended)
    | failure e =>
      refine ⟨by rw [run_x]; exact path, by rw [run_x, run_y], fun _ => by rw [run_x, run_y], ?_⟩
      rw [run_y]
      exact fun _ => givesBack (by simp)
    | exhausted => exact absurd rfl stopped

end Walked

namespace Walks

variable {bars : Op → World → Prop} {ε ε' α β : Type}

theorem of_unchanged {x : Action World ε α} (unchanged : ∀ w, (x.run w).2 = w) : Walks bars x x :=
  fun w _ => .of_unchanged (unchanged w)

theorem value (a : α) : Walks bars (pure a : Action World ε α) (pure a) := of_unchanged fun _ => rfl

theorem failure (e : ε) : Walks bars (Action.fail e : Action World ε α) (Action.fail e) :=
  of_unchanged fun _ => rfl

theorem exhausted : Walks bars (Action.exhaust : Action World ε α) Action.exhaust :=
  of_unchanged fun _ => rfl

theorem ofExcept (r : Except ε α) :
    Walks bars (Action.ofExcept r : Action World ε α) (Action.ofExcept r) := by
  cases r with
  | ok a => exact value a
  | error e => exact failure e

theorem seq {x y : Action World ε α} {f g : α → Action World ε β} (first : Walks bars x y)
    (second : ∀ a, Walks bars (f a) (g a)) : Walks bars (x >>= f) (y >>= g) := fun w whole =>
  (first w whole).seq whole fun {a w₁} _ => second a w₁

theorem attempt {x y : Action World ε α} (walks : Walks bars x y) :
    Walks bars (Action.attempt x : Action World ε' (Except ε α)) (Action.attempt y) := fun w whole =>
  (walks w whole).of_outcome Outcome.attempted rfl (Action.run_attempt_eq x w)
    (Action.run_attempt_eq y w)

theorem reword {x y : Action World ε α} (f : ε → ε') (walks : Walks bars x y) :
    Walks bars (Action.mapFailure f x) (Action.mapFailure f y) := fun w whole =>
  (walks w whole).of_outcome (Outcome.reworded f) rfl (Action.run_mapFailure_eq f x w)
    (Action.run_mapFailure_eq f y w)

theorem look {f : Machine → α} {k l : α → Action World ε β} (_ : IsQuery f)
    (then_ : ∀ m, Walks bars (k (f m)) (l (f m))) :
    Walks bars (askMachine f >>= k) (askMachine f >>= l) := fun w whole =>
  .look (then_ w.machine w whole)

/-- An action that is a step in every world. -/
theorem of_step {x : Action World ε α} (step : ∀ w, Step bars w (x.run w).2)
    (settles : settling.Keeps x) : Walks bars x x := fun w _ =>
  .of_step (step w) (settles w).givesBack

theorem onMachine {f : Machine → α × Machine} (tame : IsTame f) :
    Walks bars (World.onMachine f : Action World ε α) (World.onMachine f) :=
  of_step (fun _ => .tame tame) (Drift.onMachine (settling.tame tame))

theorem onHost {f : HostStore → α × HostStore} (plain : HostStore.IsPlain f) :
    Walks bars (World.onHost f : Action World ε α) (World.onHost f) :=
  of_step (fun _ => .plain plain) fun w => .refl w.machine

theorem changeHost {f : HostStore → HostStore} (plain : HostStore.IsPlain fun h => ((), f h)) :
    Walks bars (World.changeHost f : Action World ε Unit) (World.changeHost f) :=
  onHost plain

theorem holding {x y : Bridge α} (isExclusive : Bool) (o : HostObject) (walks : Walks bars x y) :
    Walks bars (Bridge.holding isExclusive o x) (Bridge.holding isExclusive o y) := by
  refine seq (of_unchanged fun _ => rfl) fun r => ?_
  cases r.borrow.admit? isExclusive with
  | none => exact failure _
  | some borrow =>
    exact seq (changeHost (HostStore.isPlain_setRecord o.record _)) fun _ => seq (attempt walks)
      fun result => seq (changeHost (HostStore.isPlain_setRecord o.record _)) fun _ => ofExcept result

/-! ### Calls -/

section Calls

variable {c c' : Caller} {w : World} {slot : Nat}

theorem enters (room : slot < w.machine.height) : Path bars w (Vm.entered w slot) :=
  .single (.stack rfl (Nat.le_trans (Nat.le_of_eq (Vm.base_entered w slot)) room))

theorem base_le_of_gone {m : Machine} (gone : m.frames = #[]) : m.base ≤ m.height := by
  simp [Machine.base, gone]

/-- Whatever the function in a slot has left, its caller gets its own frame back. -/
theorem settles_left {w₁ : World} (inside : w.machine.base ≤ slot)
    (whole₁ : w₁.machine.base ≤ w₁.machine.height) {outcome : Outcome String Nat}
    (ended : outcome ≠ .exhausted) (givesBack : (Vm.entered w slot).machine.GivesBack w₁.machine)
    (resultCount : Int) (isProtected : Bool) :
    let m := w₁.machine.left w.machine.depth slot resultCount isProtected outcome
    w.machine.GivesBack m ∧ m.base ≤ m.height := by
  intro m
  rcases givesBack with same | gone
  · have frames : m.frames = w.machine.frames := frames_left same ended
    have base : m.base = w.machine.base := congrArg (fun frames : Array Nat => frames.back?.getD 0) frames
    -- The function has left its own slot in place.
    have room : slot < w₁.machine.height := by
      rw [Machine.base, same] at whole₁
      exact Nat.le_trans (Nat.le_of_eq (Vm.base_entered w slot).symm) whole₁
    refine ⟨.inl frames, ?_⟩
    rw [base]
    exact Nat.le_trans inside (height_left room)
  · have frames : m.frames = #[] := frames_left_of_gone gone
    exact ⟨.inr frames, base_le_of_gone frames⟩

theorem runFrame {code : NativeCode} (body : Walks bars (c.run code) (c'.run code))
    (inside : w.machine.base ≤ slot) (room : slot < w.machine.height) (resultCount : Int)
    (isProtected : Bool) : Walked bars w (Vm.runFrame c code slot resultCount isProtected)
      (Vm.runFrame c' code slot resultCount isProtected) := by
  have entered : Path bars w (Vm.entered w slot) := enters room
  have whole₀ := Path.whole entered (Nat.le_trans inside (Nat.le_of_lt room))
  have walked := body (Vm.entered w slot) whole₀
  refine walked.around entered
    (fun outcome w₁ => (Vm.outcomeOf outcome, { w₁ with
      machine := w₁.machine.left w.machine.depth slot resultCount isProtected outcome }))
    (fun _ => rfl) (Vm.run_runFrame c code slot resultCount isProtected w)
    (Vm.run_runFrame c' code slot resultCount isProtected w) fun ended => ?_
  obtain ⟨givesBack, whole⟩ := settles_left inside (walked.whole whole₀) ended (walked.givesBack ended)
    resultCount isProtected
  exact ⟨.single (.stack left_eq whole), givesBack⟩

variable (bodies : ∀ code, Walks bars (c.run code) (c'.run code))

include bodies

theorem call (argCount resultCount : Int) (isProtected : Bool) :
    Walks bars (Vm.call c argCount resultCount isProtected)
      (Vm.call c' argCount resultCount isProtected) := fun w whole => by
  have run_x := Vm.run_call c argCount resultCount isProtected w
  have run_y := Vm.run_call c' argCount resultCount isProtected w
  cases target : w.machine.callee argCount with
  | missing e =>
    rw [target] at run_x run_y
    exact (failure e w whole).of_run_eq run_x run_y
  | refused slot e =>
    obtain ⟨inside, room⟩ := callee_bounds (m := w.machine) (by rw [target]; rfl)
    rw [target] at run_x run_y
    -- The frame is cut at the function, which lies in it.
    have truncated : Walked bars w (Vm.giveUp isProtected slot e : Vm Unit)
        (Vm.giveUp isProtected slot e) := by
      cases isProtected with
      | false => exact .of_unchanged rfl
      | true =>
        refine .of_step (.stack (m := w.machine.truncate slot) rfl ?_) (.inl rfl)
        rw [height_truncate]
        exact Nat.le_min.2 ⟨inside, whole⟩
    exact truncated.of_run_eq (run_x.trans (by cases isProtected <;> rfl))
      (run_y.trans (by cases isProtected <;> rfl))
  | ready slot code =>
    obtain ⟨inside, room⟩ := callee_bounds (m := w.machine) (by rw [target]; rfl)
    rw [target] at run_x run_y
    exact (runFrame (bodies code) inside room resultCount isProtected).of_run_eq run_x run_y

/-- A call that succeeds leaves a fixed number of results in the place of the function, unless the
    frames are gone. -/
theorem height_called {argCount resultCount : Int} (fixed : resultCount ≠ -1) {isProtected : Bool}
    {w w' : World} (whole : w.machine.base ≤ w.machine.height)
    (ran : (Vm.call c' argCount resultCount isProtected).run w = (.value (), w')) :
    w'.machine.frames = #[] ∨
      ∃ slot, w.machine.base ≤ slot ∧ w'.machine.height = slot + resultCount.toNat := by
  obtain ⟨slot, code, claimed, w₁, -, inside, room, ran₁, rfl⟩ := Vm.call_value ran
  have entered : Path bars w (Vm.entered w slot) := enters room
  have whole₀ := entered.whole whole
  have walked := bodies code (Vm.entered w slot) whole₀
  have whole₁ := walked.whole whole₀
  have givesBack := walked.givesBack (by rw [ran₁]; simp)
  rw [ran₁] at whole₁ givesBack
  rcases givesBack with same | gone
  · right
    rw [Machine.base, same] at whole₁
    have room₁ : slot < w₁.machine.height :=
      Nat.le_trans (Nat.le_of_eq (Vm.base_entered w slot).symm) whole₁
    exact ⟨slot, inside, height_deliver (m := w₁.machine.leave w.machine.depth) room₁ claimed fixed⟩
  · left
    have gone : w₁.machine.frames = #[] := gone
    simp [deliver, leave, gone]

/-- What the call of a metamethod makes of the call of the function that was prepared for it. -/
def valueCalled (w : World) (resultCount : Nat) :
    Outcome VmError Unit → World → Outcome VmError (List Value) × World
  | .value (), w₁ =>
    (.value (w₁.machine.stack.extract (w₁.machine.height - resultCount) w₁.machine.height).toList,
      Vm.cut w₁ (w₁.machine.height - resultCount))
  | .failure e, w₁ => (.failure e, Vm.cut w₁ w.machine.height)
  | .exhausted, w₁ => (.exhausted, w₁)

theorem callValue (f : Value) (args : List Value) (resultCount : Nat) :
    Walks bars (Vm.callValue c f args resultCount) (Vm.callValue c' f args resultCount) :=
  fun w whole => by
  have prepared : Path bars w (Vm.prepared w f args) := by
    refine .single (.stack rfl ?_)
    show w.machine.base ≤ (w.machine.stack.push f ++ args.toArray).size
    rw [Array.size_append, Array.size_push]
    rw [height] at whole
    omega
  have whole₀ := Path.whole prepared whole
  have walked := call bodies args.length resultCount false (Vm.prepared w f args) whole₀
  -- The slots above a height are removed, down to the frame at the most.
  have cut {w₁ : World} {height : Nat} (givesBack : w.machine.GivesBack w₁.machine)
      (above : w₁.machine.frames = #[] ∨ w₁.machine.base ≤ min height w₁.machine.height) :
      Path bars w₁ (Vm.cut w₁ height) ∧ w.machine.GivesBack (Vm.cut w₁ height).machine := by
    refine ⟨.single (.stack rfl ?_), givesBack⟩
    rcases above with gone | above
    · exact base_le_of_gone gone
    · rw [height_truncate]
      exact above
  refine walked.around prepared (valueCalled w resultCount) (fun _ => rfl) ?_ ?_ fun ended => ?_
  · rw [Vm.run_callValue]
    rcases (Vm.call c args.length resultCount false).run (Vm.prepared w f args) with ⟨_ | _ | _, _⟩ <;> rfl
  · rw [Vm.run_callValue]
    rcases (Vm.call c' args.length resultCount false).run (Vm.prepared w f args) with ⟨_ | _ | _, _⟩ <;> rfl
  · have whole₁ := walked.whole whole₀
    have givesBack := walked.givesBack ended
    rcases ran : (Vm.call c' args.length resultCount false).run (Vm.prepared w f args) with
      ⟨_ | e | _, w₁⟩ <;> simp only [ran] at whole₁ givesBack
    · show Path bars w₁ (Vm.cut w₁ (w₁.machine.height - resultCount)) ∧ w.machine.GivesBack w₁.machine
      refine cut givesBack ?_
      rcases height_called bodies (by omega) whole₀ ran with gone | ⟨slot, inside, height₁⟩
      · exact .inl gone
      · rcases givesBack with same | gone
        · have base₁ : w₁.machine.base = w.machine.base := by rw [Machine.base, same]; rfl
          have inside : w.machine.base ≤ slot := inside
          exact .inr (by omega)
        · exact .inl gone
    · show Path bars w₁ (Vm.cut w₁ w.machine.height) ∧ w.machine.GivesBack w₁.machine
      refine cut givesBack ?_
      rcases givesBack with same | gone
      · have base₁ : w₁.machine.base = w.machine.base := by rw [Machine.base, same]; rfl
        exact .inr (by omega)
      · exact .inl gone
    · rw [ran] at ended
      exact absurd rfl ended

end Calls

/-! ### Edits -/

section Edits

variable {c c' : Caller} {w : World}

theorem newIndex (bodies : ∀ code, Walks bars (c.run code) (c'.run code)) (key : String) (v : Value)
    (links : Nat) {target : Value} (whole : w.machine.base ≤ w.machine.height)
    (assigns : ∀ address, w.machine.assignee? key links target = some address →
      Step bars w { w with machine := w.machine.setTableField address (utf8Encode key) v }) :
    Walked bars w (Vm.newIndex c key v links target) (Vm.newIndex c' key v links target) := by
  induction links generalizing target with
  | zero => exact .of_unchanged rfl
  | succ links ih =>
    cases target with
    | table address =>
      refine .look ?_
      rw [assignee?] at assigns
      cases handler : w.machine.newIndexHandler address key with
      | nil =>
        rw [handler] at assigns
        exact .of_step (assigns address rfl) (.inl rfl)
      | function name code => exact ((callValue bodies _ _ _).seq fun _ => value _) w whole
      | table next =>
        rw [handler] at assigns
        exact ih assigns
      | _ => exact .of_unchanged rfl
    | _ => exact .of_unchanged rfl

theorem setField (bodies : ∀ code, Walks bars (c.run code) (c'.run code)) {i : Int} {name : String}
    (whole : w.machine.base ≤ w.machine.height) (allowed : ¬ bars (.setField i name) w) :
    Walked bars w (Vm.setField c i name) (Vm.setField c' i name) := by
  refine .look ?_
  cases w.machine.checkOpen with
  | error e => exact .of_unchanged rfl
  | ok _ =>
    refine (Walked.of_unchanged rfl).seq whole fun ran => ?_
    cases ran
    intro whole
    refine .look ((onMachine isSteady_popValue.isTame w whole).seq whole fun ran whole₁ => ?_)
    rw [run_onMachine] at ran
    cases ran
    refine newIndex bodies name _ _ whole₁ fun address found => .assign allowed rfl ?_
    rwa [assignee?_of_table (isSteady_popValue.table w.machine)] at found

/-- An edit that is allowed. -/
theorem edit {op : Op} (isEdit : op.IsEdit) (bodies : ∀ code, Walks bars (c.run code) (c'.run code))
    (whole : w.machine.base ≤ w.machine.height) (allowed : ¬ bars op w) :
    Walked bars w (op.perform c) (op.perform c') := by
  -- Each is one step, but for an assignment, and answers then.
  have answered {α : Type} {x : Vm α} {g : α → Vm OpAnswer} (walked : Walked bars w x x)
      (answers : ∀ a w, ((g a).run w).2 = w) : Walked bars w (x >>= g) (x >>= g) :=
    walked.seq whole fun {a w₁} _ => of_unchanged (answers a) w₁
  cases op with
  | reference i =>
    exact answered (.of_step (.reference allowed) (.inl ((isRelative_reference i).frames _))) fun _ _ => rfl
  | releaseReference r =>
    exact answered (.of_step (.releaseReference allowed) (.inl ((isRelative_releaseReference r).frames _)))
      fun _ _ => rfl
  | close => exact answered (.of_step (.close allowed) (settles_close _).givesBack) fun _ _ => rfl
  | rawSet i name =>
    exact answered (.of_step (.rawSet allowed) (.inl ((isRelative_rawSet i name).frames _))) fun _ _ => rfl
  | setMeta i =>
    have set : Walked bars w (World.onMachine (·.setMetatable i) : Vm _)
        (World.onMachine (·.setMetatable i)) :=
      .of_step (.setMetatable allowed) (.inl ((isRelative_setMetatable i).frames _))
    exact (set.seq whole fun {r w₁} _ => ofExcept r w₁).seq whole fun _ => value _ _
  | setField i name => exact (setField bodies whole allowed).seq whole fun _ => value _ _
  | _ => exact isEdit.elim

section Watched

variable {stop stop' : Op → World → Bool} (less : ∀ op w, stop' op w = true → stop op w = true)

include less

theorem watch (op : Op) : Walks bars (stopWhen stop op) (stopWhen stop' op) := fun w whole => by
  have run_x := run_stopWhen stop op w
  have run_y := run_stopWhen stop' op w
  by_cases stopped' : stop' op w = true
  · rw [if_pos (less op w stopped')] at run_x
    rw [if_pos stopped'] at run_y
    exact (exhausted w whole).of_run_eq run_x run_y
  · rw [if_neg stopped'] at run_y
    by_cases stopped : stop op w = true
    · rw [if_pos stopped] at run_x
      exact (value () w whole).stopped.of_run_eq run_x run_y
    · rw [if_neg stopped] at run_x
      exact (value () w whole).of_run_eq run_x run_y

/-- An operation before which the second run is stopped only where the first one is, and both where it is
    barred. -/
theorem watched (watchful : ∀ op w, bars op w → stop' op w = true) {op : Op} {x y : Vm OpAnswer}
    (performed : ∀ w : World, w.machine.base ≤ w.machine.height → ¬ bars op w → Walked bars w x y) :
    Walks bars (stopWhen stop op >>= fun _ => (Action.attempt x : Vm (Except VmError OpAnswer)))
      (stopWhen stop' op >>= fun _ => (Action.attempt y : Vm (Except VmError OpAnswer))) :=
  fun w whole => by
  have run_x := Action.run_bind w (stopWhen stop op) fun _ =>
    (Action.attempt x : Vm (Except VmError OpAnswer))
  have run_y := Action.run_bind w (stopWhen stop' op) fun _ =>
    (Action.attempt y : Vm (Except VmError OpAnswer))
  rw [run_stopWhen] at run_x run_y
  by_cases stopped' : stop' op w = true
  · rw [if_pos (less op w stopped')] at run_x
    rw [if_pos stopped'] at run_y
    exact (exhausted w whole).of_run_eq run_x run_y
  · have walked : Walked bars w (Action.attempt x : Vm (Except VmError OpAnswer)) (Action.attempt y) :=
      (performed w whole fun barred => stopped' (watchful op w barred)).of_outcome
        Outcome.attempted rfl (Action.run_attempt_eq x w) (Action.run_attempt_eq y w)
    rw [if_neg stopped'] at run_y
    by_cases stopped : stop op w = true
    · rw [if_pos stopped] at run_x
      exact walked.stopped.of_run_eq run_x run_y
    · rw [if_neg stopped] at run_x
      exact walked.of_run_eq run_x run_y

end Watched

end Edits

end Walks

/-- Walking is a discipline: of two runs that are both stopped before the barred edits, and of which
    the second is stopped less. -/
def walking {bars : Op → World → Prop} {stop stop' : Op → World → Bool}
    (watchful : ∀ op w, bars op w → stop' op w = true)
    (less : ∀ op w, stop' op w = true → stop op w = true) : SessionDiscipline where
  Relates := Walks bars
  before := stopWhen stop
  before' := stopWhen stop'
  value := Walks.value
  failure := Walks.failure
  exhausted := Walks.exhausted
  seq := Walks.seq
  attempt := Walks.attempt
  reword := Walks.reword
  look := Walks.look
  askSession _ := Walks.of_unchanged fun _ => rfl
  askHost _ := Walks.of_unchanged fun _ => rfl
  emit e := Walks.of_step (fun _ => .emit e) fun w => .refl w.machine
  steady steady := Walks.onMachine steady.isTame
  ordinary ordinary := Walks.onHost ordinary.plain
  holding := Walks.holding
  watch := Walks.watch less
  call := fun argCount resultCount isProtected bodies =>
    Walks.call bodies argCount resultCount isProtected
  callValue := fun f args resultCount bodies => Walks.callValue bodies f args resultCount
  edit isEdit bodies := Walks.watched less watchful fun _ whole allowed =>
    Walks.edit isEdit bodies whole allowed
  -- Each of the following is one step of the path.
  push v := Walks.of_step (fun _ => .push v) (Drift.push v)
  read i := Walks.of_step (fun _ => .read i) (Drift.read i)
  disposeFunction number := Walks.of_step (fun _ => .disposeFunction number) (Drift.disposeFunction number)
  registerType d := Walks.of_step (fun _ => .registerType d) (Drift.registerType d)
  forwardType d := Walks.of_step (fun _ => .forwardType d) (Drift.forwardType d)
  pinChunk := Walks.of_step (fun _ => .pinChunk) Drift.pinChunk
  takeChunk := Walks.of_step (fun _ => .takeChunk) Drift.takeChunk
  teardown := Walks.of_step (fun _ => .teardown) Drift.teardown

end ScriptHost
