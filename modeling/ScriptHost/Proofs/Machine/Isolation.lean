import ScriptHost.Proofs.Discipline.Natives
import ScriptHost.Proofs.Machine.Calls
import ScriptHost.Proofs.Machine.Nesting
import ScriptHost.Proofs.Machine.References
/-!
# Frames isolate the functions that run in them

Whatever a function does, the slots below its frame are neither read nor changed: the run is the same
with any other values in their place, and leaves them as they are.  `Isolated` says this of an action;
it is a discipline, so all code keeps it.  A nested call enters through `Vm.call`, where the frame of
the caller is the bottom part of what the callee's run keeps.

`call_isolates` is the contract of a call that follows from it.
-/

namespace ScriptHost

/-- The world with its current frame on top of another stack, and with other frames below. -/
def World.onto (bottom : Array Value) (frames : Array Nat) (w : World) : World :=
  { w with machine := w.machine.onto bottom frames }

/-- The world with the lowest slots of the stack replaced. -/
def World.onTopOf (below : Array Value) (w : World) : World :=
  { w with machine := w.machine.onTopOf below }

open World Machine

/-- Between two worlds an action neither read nor changed what lies below the frame of the first, and
    gave back the frames it found. -/
structure StaysInFrame {ε α : Type} (x : Action World ε α) (w : World) (outcome : Outcome ε α)
    (w' : World) : Prop where
  frames : w'.machine.frames = w.machine.frames
  whole : w.machine.base ≤ w'.machine.height
  commutes : ∀ below : Array Value, below.size ≤ w.machine.base →
    x.run (w.onTopOf below) = (outcome, w'.onTopOf below)

/-- Between two worlds an action goes the same wherever its frame lies, and gives back the frames it
    found. -/
structure KeepsToFrame {ε α : Type} (x : Action World ε α) (w : World) (outcome : Outcome ε α)
    (w' : World) : Prop where
  frames : w'.machine.frames = w.machine.frames
  whole : w.machine.base ≤ w'.machine.height
  moves : ∀ (bottom : Array Value) (frames : Array Nat), Fits bottom frames w.machine →
    x.run (w.onto bottom frames) = (outcome, w'.onto bottom frames)

/-- The action keeps to its frame whenever it ends and leaves the machine open; a machine that is closed
    it leaves closed. -/
structure Isolated {ε α : Type} (x : Action World ε α) : Prop where
  isClosed : ∀ {w outcome w'}, x.run w = (outcome, w') →
    w.machine.isClosed = true → w'.machine.isClosed = true
  keeps : ∀ {w outcome w'}, x.run w = (outcome, w') → w.machine.base ≤ w.machine.height →
    outcome ≠ .exhausted → w'.machine.isClosed = false → KeepsToFrame x w outcome w'

/-- What lies below the frame is what lay there before. -/
theorem StaysInFrame.stack_eq {ε α : Type} {x : Action World ε α} {w w' : World}
    {outcome : Outcome ε α} (stays : StaysInFrame x w outcome w') (ran : x.run w = (outcome, w')) :
    w'.machine.stack = splice (w.machine.stack.extract 0 w.machine.base) w'.machine.stack := by
  have fits : (w.machine.stack.extract 0 w.machine.base).size ≤ w.machine.base := by
    rw [Array.size_extract]
    omega
  -- The lowest slots put in their own place are a replacement that changes nothing.
  have same : w.onTopOf (w.machine.stack.extract 0 w.machine.base) = w := by
    rw [World.onTopOf, Machine.onTopOf, splice_extract]
  have commutes := stays.commutes _ fits
  rw [same, ran] at commutes
  exact congrArg (fun w => w.machine.stack) (Prod.mk.inj commutes).2

/-! ## Actions elsewhere -/

/-- The action neither looks at the machine nor changes it. -/
def Action.IsElsewhere {ε α : Type} (x : Action World ε α) : Prop :=
  ∀ w m, (x.run w).2.machine = w.machine ∧
    x.run { w with machine := m } = ((x.run w).1, { (x.run w).2 with machine := m })

namespace Action.IsElsewhere

variable {ε ε' α β : Type}

theorem value (a : α) : (pure a : Action World ε α).IsElsewhere := fun _ _ => ⟨rfl, rfl⟩

theorem failure (e : ε) : (Action.fail e : Action World ε α).IsElsewhere := fun _ _ => ⟨rfl, rfl⟩

theorem ofExcept (r : Except ε α) : (Action.ofExcept r : Action World ε α).IsElsewhere := by
  cases r with
  | ok a => exact value a
  | error e => exact failure e

theorem askSession (f : Session → α) : (World.askSession f : Action World ε α).IsElsewhere :=
  fun _ _ => ⟨rfl, rfl⟩

theorem askHost (f : HostStore → α) : (World.askHost f : Action World ε α).IsElsewhere :=
  fun _ _ => ⟨rfl, rfl⟩

theorem onSession (f : Session → α × Session) : (World.onSession f : Action World ε α).IsElsewhere :=
  fun _ _ => ⟨rfl, rfl⟩

theorem onHost (f : HostStore → α × HostStore) : (World.onHost f : Action World ε α).IsElsewhere :=
  fun _ _ => ⟨rfl, rfl⟩

theorem changeSession (f : Session → Session) :
    (World.changeSession f : Action World ε Unit).IsElsewhere :=
  fun _ _ => ⟨rfl, rfl⟩

theorem changeHost (f : HostStore → HostStore) :
    (World.changeHost f : Action World ε Unit).IsElsewhere :=
  fun _ _ => ⟨rfl, rfl⟩

theorem emit (e : Event) : (World.emit e : Action World ε Unit).IsElsewhere := fun _ _ => ⟨rfl, rfl⟩

theorem seq {x : Action World ε α} {f : α → Action World ε β} (first : x.IsElsewhere)
    (second : ∀ a, (f a).IsElsewhere) : (x >>= f).IsElsewhere := by
  intro w m
  obtain ⟨kept, moved⟩ := first w m
  rw [run_bind, run_bind, moved]
  rcases ran : x.run w with ⟨a | e | _, w₁⟩ <;> rw [ran] at kept
  · exact ⟨((second a w₁ m).1).trans kept, (second a w₁ m).2⟩
  · exact ⟨kept, rfl⟩
  · exact ⟨kept, rfl⟩

theorem reword {x : Action World ε α} (f : ε → ε') (elsewhere : x.IsElsewhere) :
    (Action.mapFailure f x).IsElsewhere := by
  intro w m
  obtain ⟨kept, moved⟩ := elsewhere w m
  rw [run_mapFailure_eq, run_mapFailure_eq, moved]
  exact ⟨kept, rfl⟩

theorem ofRules (r : Except BridgeError α) : (Bridge.ofExcept r).IsElsewhere := (ofExcept r).reword _

theorem alloc (entry : HandleEntry) (tag : UInt32) : (Bridge.alloc entry tag).IsElsewhere :=
  (onSession _).seq fun _ => ofRules _

theorem objectToken (o : HostObject) : (Bridge.objectToken o).IsElsewhere := by
  refine (askSession _).seq fun found => ?_
  cases found with
  | some t => exact value t
  | none => exact alloc _ _

theorem surfaceToken (s : Surface) : (Bridge.surfaceToken s).IsElsewhere := by
  refine (askSession _).seq fun handles => (askHost _).seq fun published => ?_
  cases published.filter fun t => (handles.get? t).isSome with
  | some t => exact value t
  | none => exact (alloc _ _).seq fun t => (changeHost _).seq fun _ => value t

theorem functionReference (number : Nat) : (Bridge.functionReference number).IsElsewhere := by
  refine (askHost _).seq fun r => ?_
  cases r with
  | some reference => exact value _
  | none => exact failure _

end Action.IsElsewhere

/-! ## Keeping to the frame -/

namespace KeepsToFrame

variable {ε α : Type} {x : Action World ε α} {w w' : World} {outcome : Outcome ε α}

theorem base (keeps : KeepsToFrame x w outcome w') : w'.machine.base = w.machine.base := by
  rw [Machine.base, Machine.base, keeps.frames]

theorem staysWhole (keeps : KeepsToFrame x w outcome w') : w'.machine.base ≤ w'.machine.height := by
  rw [keeps.base]
  exact keeps.whole

theorem fits (keeps : KeepsToFrame x w outcome w') {bottom : Array Value} {frames : Array Nat}
    (fits : Fits bottom frames w.machine) : Fits bottom frames w'.machine :=
  ⟨fits.base, by rw [keeps.frames]; exact fits.depth, keeps.staysWhole⟩

/-- The frame is not moved, so what lies below it stays. -/
theorem bottom (keeps : KeepsToFrame x w outcome w') (ran : x.run w = (outcome, w'))
    (whole : w.machine.base ≤ w.machine.height) :
    w'.machine.stack.extract 0 w.machine.base = w.machine.stack.extract 0 w.machine.base := by
  have moved := keeps.moves _ _ (fits_self whole)
  have same : w.onto (w.machine.stack.extract 0 w.machine.base) w.machine.frames = w :=
    congrArg (fun machine => ({ w with machine } : World)) (onto_self whole)
  rw [same, ran] at moved
  exact bottom_of_onto whole (congrArg World.machine (Prod.mk.inj moved).2).symm

/-- To put other values below the frame is to move it on top of them. -/
theorem staysInFrame (keeps : KeepsToFrame x w outcome w') (ran : x.run w = (outcome, w'))
    (whole : w.machine.base ≤ w.machine.height) : StaysInFrame x w outcome w' := by
  refine ⟨keeps.frames, keeps.whole, fun below fits => ?_⟩
  have under : Under below w.machine := ⟨fits, whole⟩
  have under' : Under below w'.machine := ⟨by rw [keeps.base]; exact fits, keeps.staysWhole⟩
  have moved := keeps.moves _ _ under.fits_onto
  rw [World.onTopOf, World.onTopOf, onTopOf_eq_onto under, onTopOf_eq_onto under', keeps.base,
    keeps.bottom ran whole, keeps.frames]
  exact moved

end KeepsToFrame

namespace Isolated

variable {ε ε' α β : Type}

theorem stays {x : Action World ε α} (isolated : Isolated x) {w w' : World} {outcome : Outcome ε α}
    (ran : x.run w = (outcome, w')) (whole : w.machine.base ≤ w.machine.height)
    (ended : outcome ≠ .exhausted) (isOpen' : w'.machine.isClosed = false) : StaysInFrame x w outcome w' :=
  (isolated.keeps ran whole ended isOpen').staysInFrame ran whole

theorem isOpen {x : Action World ε α} (isolated : Isolated x) {w w' : World} {outcome : Outcome ε α}
    (ran : x.run w = (outcome, w')) (isOpen' : w'.machine.isClosed = false) :
    w.machine.isClosed = false := by
  cases closed : w.machine.isClosed with
  | false => rfl
  | true =>
    rw [isolated.isClosed ran closed] at isOpen'
    cases isOpen'

/-! ## Sequencing -/

theorem seq {x : Action World ε α} {f : α → Action World ε β} (first : Isolated x)
    (second : ∀ a, Isolated (f a)) : Isolated (x >>= f) where
  isClosed {w outcome w'} ran closed := by
    rw [Action.run_bind] at ran
    rcases ran₁ : x.run w with ⟨a | e | _, w₁⟩ <;> rw [ran₁] at ran
    · exact (second a).isClosed ran (first.isClosed ran₁ closed)
    · cases ran
      exact first.isClosed ran₁ closed
    · cases ran
      exact first.isClosed ran₁ closed
  keeps {w outcome w'} ran whole ended isOpen' := by
    rw [Action.run_bind] at ran
    rcases ran₁ : x.run w with ⟨a | e | _, w₁⟩ <;> rw [ran₁] at ran
    · -- The frames are given back in between, so both actions run in the same frame.
      have keeps₁ := first.keeps ran₁ whole (by simp) ((second a).isOpen ran isOpen')
      have keeps₂ := (second a).keeps ran keeps₁.staysWhole ended isOpen'
      refine ⟨keeps₂.frames.trans keeps₁.frames, by rw [← keeps₁.base]; exact keeps₂.whole,
        fun bottom frames fits => ?_⟩
      rw [Action.run_bind, keeps₁.moves bottom frames fits]
      exact keeps₂.moves bottom frames (keeps₁.fits fits)
    · cases ran
      have keeps₁ := first.keeps ran₁ whole (by simp) isOpen'
      refine ⟨keeps₁.frames, keeps₁.whole, fun bottom frames fits => ?_⟩
      rw [Action.run_bind, keeps₁.moves bottom frames fits]
    · cases ran
      exact absurd rfl ended

/-- An action that runs another one and makes something else of the way in which it ended. -/
theorem of_outcome {x : Action World ε α} {y : Action World ε' β} (isolated : Isolated x)
    (make : Outcome ε α → Outcome ε' β) (exhausted : make .exhausted = .exhausted)
    (run_eq : ∀ w, y.run w = (make (x.run w).1, (x.run w).2)) : Isolated y where
  isClosed {w outcome w'} ran closed := by
    rw [run_eq] at ran
    cases ran
    exact isolated.isClosed (Prod.eta (x.run w)).symm closed
  keeps {w outcome w'} ran whole ended isOpen' := by
    rcases ran₁ : x.run w with ⟨outcome₁, w₁⟩
    rw [run_eq, ran₁] at ran
    cases ran
    have ended₁ : outcome₁ ≠ .exhausted := fun same => ended (by rw [same, exhausted])
    obtain ⟨frames₁, whole₁, moves₁⟩ := isolated.keeps ran₁ whole ended₁ isOpen'
    exact ⟨frames₁, whole₁, fun bottom frames fits => by rw [run_eq, moves₁ bottom frames fits]⟩

theorem attempt {x : Action World ε α} (isolated : Isolated x) :
    Isolated (Action.attempt x : Action World ε' (Except ε α)) :=
  isolated.of_outcome Outcome.attempted rfl (Action.run_attempt_eq x)

theorem reword {x : Action World ε α} (f : ε → ε') (isolated : Isolated x) :
    Isolated (Action.mapFailure f x) :=
  isolated.of_outcome (Outcome.reworded f) rfl (Action.run_mapFailure_eq f x)

/-! ## Elementary actions -/

theorem look {f : Machine → α} {k : α → Action World ε β} (query : IsQuery f)
    (then_ : ∀ m, Isolated (k (f m))) : Isolated (askMachine f >>= k) where
  isClosed {w outcome w'} ran closed := (then_ w.machine).isClosed ran closed
  keeps {w outcome w'} ran whole ended isOpen' := by
    have keeps₁ := (then_ w.machine).keeps ran whole ended isOpen'
    refine ⟨keeps₁.frames, keeps₁.whole, fun bottom frames fits => ?_⟩
    rw [Action.run_bind, run_askMachine, ← keeps₁.moves bottom frames fits]
    exact congrArg (fun a => (k a).run _) (query bottom frames fits)

theorem onMachine {f : Machine → α × Machine} (relative : IsRelative f) :
    Isolated (World.onMachine f : Action World ε α) where
  isClosed {w outcome w'} ran closed := by
    cases ran
    exact (relative.isClosed w.machine).trans closed
  keeps {w outcome w'} ran whole _ _ := by
    cases ran
    refine ⟨relative.frames w.machine, relative.whole w.machine whole, fun bottom frames fits => ?_⟩
    show (Outcome.value (f (w.machine.onto bottom frames)).1,
      ({ w with machine := (f (w.machine.onto bottom frames)).2 } : World)) = _
    rw [relative.moves bottom frames fits]
    rfl

theorem changeMachine {f : Machine → Machine} (relative : IsRelative fun m => ((), f m)) :
    Isolated (World.changeMachine f : Action World ε Unit) :=
  onMachine relative

theorem of_elsewhere {x : Action World ε α} (elsewhere : x.IsElsewhere) : Isolated x where
  isClosed {w outcome w'} ran closed := by
    have kept := (elsewhere w w.machine).1
    rw [ran] at kept
    rw [kept]
    exact closed
  keeps {w outcome w'} ran whole _ _ := by
    have kept := (elsewhere w w.machine).1
    rw [ran] at kept
    refine ⟨by rw [kept], by rw [kept]; exact whole, fun bottom frames fits => ?_⟩
    have moved := (elsewhere w (w.machine.onto bottom frames)).2
    rw [ran] at moved
    show x.run { w with machine := w.machine.onto bottom frames } =
      (outcome, { w' with machine := w'.machine.onto bottom frames })
    rw [kept]
    exact moved

theorem value (a : α) : Isolated (pure a : Action World ε α) := of_elsewhere (.value a)

theorem failure (e : ε) : Isolated (Action.fail e : Action World ε α) := of_elsewhere (.failure e)

theorem ofExcept (r : Except ε α) : Isolated (Action.ofExcept r : Action World ε α) :=
  of_elsewhere (.ofExcept r)

theorem exhausted : Isolated (Action.exhaust : Action World ε α) :=
  of_elsewhere fun _ _ => ⟨rfl, rfl⟩

end Isolated

/-! ## Calls -/

namespace Vm

variable {w : World} {bottom : Array Value} {frames : Array Nat}

theorem cut_onto {height : Nat} (above : w.machine.base ≤ height) :
    cut (w.onto bottom frames) (bottom.size + (height - w.machine.base)) =
      (cut w height).onto bottom frames := by
  have base : (w.machine.truncate height).base = w.machine.base := rfl
  simp only [cut, World.onto, Machine.onto, Machine.truncate] at base ⊢
  rw [base, rebase_shrink above]

theorem prepared_onto (whole : w.machine.base ≤ w.machine.height) (f : Value) (args : List Value) :
    prepared (w.onto bottom frames) f args = (prepared w f args).onto bottom frames := by
  have base : (prepared w f args).machine.base = w.machine.base := rfl
  have pushed : w.machine.base ≤ (w.machine.stack.push f).size := by
    rw [Array.size_push]
    exact Nat.le_succ_of_le whole
  simp only [prepared, World.onto, Machine.onto] at base ⊢
  rw [base, rebase_append pushed, rebase_push whole]

/-- The frame of a function lies on top of its caller's and is moved with it. -/
theorem entered_onto (fits : Fits bottom frames w.machine) {slot : Nat} (inside : w.machine.base ≤ slot)
    (room : slot < w.machine.height) :
    ∃ bottom₁ frames₁, Fits bottom₁ frames₁ (entered w slot).machine ∧
      entered (w.onto bottom frames) (bottom.size + (slot - w.machine.base)) =
        (entered w slot).onto bottom₁ frames₁ ∧
      frames₁ = frames.push (bottom.size + (slot - w.machine.base) + 1) ∧
      ∀ stack : Array Value, slot < stack.size →
        stack.extract 0 (slot + 1) = w.machine.stack.extract 0 (slot + 1) →
          rebase (slot + 1) bottom₁ stack = rebase w.machine.base bottom stack := by
  have base := base_entered w slot
  have above : w.machine.base ≤ slot + 1 := Nat.le_succ_of_le inside
  have moves (stack : Array Value) (room₁ : slot + 1 ≤ stack.size)
      (same : stack.extract 0 (slot + 1) = w.machine.stack.extract 0 (slot + 1)) :
      rebase (slot + 1) ((rebase w.machine.base bottom w.machine.stack).extract 0
        (bottom.size + (slot + 1 - w.machine.base))) stack = rebase w.machine.base bottom stack :=
    rebase_bottom above room₁ same
  have size : ((rebase w.machine.base bottom w.machine.stack).extract 0
      (bottom.size + (slot + 1 - w.machine.base))).size = bottom.size + (slot + 1 - w.machine.base) := by
    rw [height] at room
    simp only [Array.size_extract, size_rebase]
    omega
  generalize (rebase w.machine.base bottom w.machine.stack).extract 0
    (bottom.size + (slot + 1 - w.machine.base)) = bottom₁ at moves size
  -- The new bottom reaches up to the function, and all above it is the frame of the callee.
  refine ⟨bottom₁, _, ⟨?_, ?_, by rw [base]; exact room⟩, ?_, rfl, moves⟩
  · rw [Array.back?_push, Option.getD_some, size]
    omega
  · simp only [entered, Machine.enter, Array.size_push, fits.depth]
  · have stack : rebase (entered w slot).machine.base bottom₁ w.machine.stack =
        rebase w.machine.base bottom w.machine.stack := by
      rw [base]
      exact moves w.machine.stack room rfl
    exact congrArg (fun stack => ({ w with machine := { w.machine with
      stack, frames := frames.push (bottom.size + (slot - w.machine.base) + 1) } } : World)) stack.symm

end Vm

namespace Isolated

variable {c : Caller}

/-- The caller's part of a call: the function's frame lies on top of its own. -/
theorem runFrame {code : NativeCode} (body : Isolated (c.run code)) {w w' : World} {slot : Nat}
    {resultCount : Int} {isProtected : Bool} {outcome : Outcome VmError Unit}
    (ran : (Vm.runFrame c code slot resultCount isProtected).run w = (outcome, w'))
    (inside : w.machine.base ≤ slot) (room : slot < w.machine.height) (ended : outcome ≠ .exhausted)
    (isOpen' : w'.machine.isClosed = false) :
    w'.machine.frames = w.machine.frames ∧ w.machine.base ≤ w'.machine.height ∧
      ∀ bottom frames, Fits bottom frames w.machine →
        (Vm.runFrame c code (bottom.size + (slot - w.machine.base)) resultCount isProtected).run
          (w.onto bottom frames) = (outcome, w'.onto bottom frames) := by
  have base_entered := Vm.base_entered w slot
  rw [Vm.run_runFrame] at ran
  rcases ran₁ : (c.run code).run (Vm.entered w slot) with ⟨outcome₁, w₁⟩
  rw [ran₁] at ran
  cases ran
  have ended₁ : outcome₁ ≠ .exhausted := fun exhausted => ended (by rw [exhausted]; rfl)
  rw [isClosed_left] at isOpen'
  have whole₁ : (Vm.entered w slot).machine.base ≤ (Vm.entered w slot).machine.height := by
    rw [base_entered]
    exact room
  have keeps₁ := body.keeps ran₁ whole₁ ended₁ isOpen'
  have room₁ : slot < w₁.machine.height := by
    rw [← Nat.succ_le_iff, Nat.succ_eq_add_one, ← base_entered]
    exact keeps₁.whole
  have left_frames : (w₁.machine.left w.machine.depth slot resultCount isProtected outcome₁).frames =
      w.machine.frames := frames_left keeps₁.frames ended₁
  refine ⟨left_frames, Nat.le_trans inside (height_left room₁), fun bottom frames fits => ?_⟩
  obtain ⟨bottom₁, frames₁, fits₁, entered, pushed, moves⟩ := Vm.entered_onto fits inside room
  have moved := keeps₁.moves bottom₁ frames₁ fits₁
  have kept := keeps₁.bottom ran₁ whole₁
  rw [base_entered] at kept
  -- What lies below the function's frame is moved with its caller's frame.
  have stack₁ : (w₁.machine.onto bottom₁ frames₁).stack =
      rebase w.machine.base bottom w₁.machine.stack := by
    rw [Machine.onto, keeps₁.base, base_entered]
    exact moves _ room₁ kept
  have left : (w₁.machine.onto bottom₁ frames₁).left frames.size
      (bottom.size + (slot - w.machine.base)) resultCount isProtected outcome₁ =
        (w₁.machine.left w.machine.depth slot resultCount isProtected outcome₁).onto bottom frames :=
    left_onto stack₁ pushed left_frames inside room₁ ended₁
  rw [Vm.run_runFrame, entered, moved]
  exact congrArg (fun machine => (Vm.outcomeOf outcome₁, { w₁ with machine })) left

theorem call (argCount resultCount : Int) (isProtected : Bool)
    (bodies : ∀ code, Isolated (c.run code)) : Isolated (Vm.call c argCount resultCount isProtected) where
  isClosed {w outcome w'} ran closed := by
    have missing : w.machine.callee argCount = .missing .closed := by rw [callee, closed]; rfl
    rw [Vm.run_call, missing] at ran
    cases ran
    exact closed
  keeps {w outcome w'} ran whole ended isOpen' := by
    have same (bottom : Array Value) (frames : Array Nat) (fits : Fits bottom frames w.machine) :
        (w.onto bottom frames).machine.callee argCount =
          (w.machine.callee argCount).mapSlot fun slot => bottom.size + (slot - w.machine.base) :=
      callee_onto fits argCount
    rw [Vm.run_call] at ran
    cases target : w.machine.callee argCount with
    | missing e =>
      rw [target] at ran
      cases ran
      refine ⟨rfl, whole, fun bottom frames fits => ?_⟩
      rw [Vm.run_call, same bottom frames fits, target]
      rfl
    -- Nothing is run; the function and its arguments are taken off if the call is protected.
    | refused slot e =>
      obtain ⟨inside, room⟩ := callee_bounds (m := w.machine) (by rw [target]; rfl)
      rw [target] at ran
      cases isProtected with
      | true =>
        cases ran
        have height := height_truncate w.machine slot
        refine ⟨rfl, ?_, fun bottom frames fits => ?_⟩
        · show w.machine.base ≤ (w.machine.truncate slot).height
          omega
        · rw [Vm.run_call, same bottom frames fits, target]
          exact congrArg (Prod.mk _) (Vm.cut_onto inside)
      | false =>
        cases ran
        refine ⟨rfl, whole, fun bottom frames fits => ?_⟩
        rw [Vm.run_call, same bottom frames fits, target]
        rfl
    | ready slot code =>
      obtain ⟨inside, room⟩ := callee_bounds (m := w.machine) (by rw [target]; rfl)
      rw [target] at ran
      obtain ⟨kept, whole', moves⟩ := runFrame (bodies code) ran inside room ended isOpen'
      refine ⟨kept, whole', fun bottom frames fits => ?_⟩
      rw [Vm.run_call, same bottom frames fits, target]
      exact moves bottom frames fits

/-- A call that succeeds leaves a fixed number of results in the place of the function. -/
theorem height_called (bodies : ∀ code, Isolated (c.run code)) {argCount resultCount : Int}
    (fixed : resultCount ≠ -1) {isProtected : Bool} {w w' : World}
    (ran : (Vm.call c argCount resultCount isProtected).run w = (.value (), w'))
    (isOpen' : w'.machine.isClosed = false) :
    ∃ slot, w.machine.base ≤ slot ∧ w'.machine.height = slot + resultCount.toNat := by
  obtain ⟨slot, code, claimed, w₁, -, inside, room, ran₁, rfl⟩ := Vm.call_value ran
  have base_entered := Vm.base_entered w slot
  have keeps₁ := (bodies code).keeps ran₁ (by rw [base_entered]; exact room) (by simp) isOpen'
  have room₁ : slot < w₁.machine.height := by
    have whole := keeps₁.whole
    rw [base_entered] at whole
    exact whole
  have height₁ := height_deliver (m := w₁.machine.leave w.machine.depth) room₁ claimed fixed
  exact ⟨slot, inside, height₁⟩

theorem callValue (f : Value) (args : List Value) (resultCount : Nat)
    (bodies : ∀ code, Isolated (c.run code)) : Isolated (Vm.callValue c f args resultCount) where
  isClosed {w outcome w'} ran closed := by
    have called := call args.length resultCount false bodies
    rw [Vm.run_callValue] at ran
    rcases ran₁ : (Vm.call c args.length resultCount false).run (Vm.prepared w f args) with
      ⟨_ | e | _, w₁⟩
    all_goals
      have closed₁ : w₁.machine.isClosed = true := called.isClosed ran₁ closed
      rw [ran₁] at ran
      cases ran
      exact closed₁
  keeps {w outcome w'} ran whole ended isOpen' := by
    have called := call args.length resultCount false bodies
    have whole₁ : (Vm.prepared w f args).machine.base ≤ (Vm.prepared w f args).machine.height := by
      rw [Vm.height_prepared]
      exact Nat.le_trans whole (by omega)
    have fits₁ {bottom : Array Value} {frames : Array Nat} (fits : Fits bottom frames w.machine) :
        Fits bottom frames (Vm.prepared w f args).machine := ⟨fits.base, fits.depth, whole₁⟩
    have base₁ : (Vm.prepared w f args).machine.base = w.machine.base := rfl
    rw [Vm.run_callValue] at ran
    rcases ran₁ : (Vm.call c args.length resultCount false).run (Vm.prepared w f args) with
      ⟨_ | e | _, w₁⟩
    · rw [ran₁] at ran
      cases ran
      have keeps₁ := called.keeps ran₁ whole₁ (by simp) isOpen'
      obtain ⟨slot, inside, height₁⟩ := height_called bodies (by omega) ran₁ isOpen'
      rw [Int.toNat_natCast] at height₁
      -- The results stand where the function stood, which is in the frame.
      have first : w₁.machine.height - resultCount = slot := by omega
      rw [base₁] at inside
      have kept : (Vm.cut w₁ slot).machine.height = slot := by
        rw [Vm.cut, height_truncate]
        omega
      rw [first]
      refine ⟨keeps₁.frames, by rw [kept]; exact inside, fun bottom frames fits => ?_⟩
      have base₂ : w₁.machine.base = w.machine.base := keeps₁.base
      have height₂ : (w₁.onto bottom frames).machine.height =
          bottom.size + (w₁.machine.height - w₁.machine.base) := height_onto w₁.machine
      have first₂ : bottom.size + (w₁.machine.height - w₁.machine.base) - resultCount =
          bottom.size + (slot - w₁.machine.base) := by omega
      have results : (w₁.onto bottom frames).machine.stack.extract (bottom.size + (slot - w₁.machine.base))
          (bottom.size + (w₁.machine.height - w₁.machine.base)) =
            w₁.machine.stack.extract slot w₁.machine.height :=
        extract_rebase (base₂ ▸ inside) (by omega)
      rw [Vm.run_callValue, Vm.prepared_onto whole, keeps₁.moves bottom frames (fits₁ fits)]
      simp only [height₂, first₂, results, Vm.cut_onto (base₂ ▸ inside)]
    · rw [ran₁] at ran
      cases ran
      have keeps₁ := called.keeps ran₁ whole₁ (by simp) isOpen'
      -- What was there before the call is there after it fails, and all above that is cut off.
      have whole₂ := keeps₁.whole
      rw [base₁] at whole₂
      refine ⟨keeps₁.frames, ?_, fun bottom frames fits => ?_⟩
      · show w.machine.base ≤ (w₁.machine.truncate w.machine.height).height
        rw [height_truncate]
        exact Nat.le_min.2 ⟨whole, whole₂⟩
      · have base₂ : w₁.machine.base = w.machine.base := keeps₁.base
        have height₁ : (w.onto bottom frames).machine.height =
            bottom.size + (w.machine.height - w₁.machine.base) := base₂ ▸ height_onto w.machine
        rw [Vm.run_callValue, Vm.prepared_onto whole, keeps₁.moves bottom frames (fits₁ fits)]
        simp only [height₁, Vm.cut_onto (base₂ ▸ whole)]
    · rw [ran₁] at ran
      cases ran
      exact absurd rfl ended

theorem newIndex (bodies : ∀ code, Isolated (c.run code)) (key : String) (v : Value) (links : Nat)
    (target : Value) : Isolated (Vm.newIndex c key v links target) := by
  induction links generalizing target with
  | zero => exact failure _
  | succ links ih =>
    cases target with
    | table address =>
      refine look (fun _ _ _ _ => rfl) fun m => ?_
      cases m.newIndexHandler address key with
      | nil => exact changeMachine (isRelative_setTableField address _ v)
      | function name code => exact (callValue _ _ _ bodies).seq fun _ => value _
      | table next => exact ih (.table next)
      | _ => exact failure _
    | _ => exact failure _

theorem close : Isolated (World.changeMachine Machine.close : Action World VmError Unit) where
  isClosed {w outcome w'} ran closed := by
    cases ran
    exact isClosed_close w.machine
  keeps {w outcome w'} ran _ _ isOpen' := by
    cases ran
    -- Nothing is claimed of a run that leaves the machine closed.
    rw [isClosed_close] at isOpen'
    cases isOpen'

/-- An edit stays in its frame as much as any other operation does. -/
theorem edit {op : Op} (isEdit : op.IsEdit) (bodies : ∀ code, Isolated (c.run code)) :
    Isolated (op.perform c) := by
  cases op with
  | reference i => exact (onMachine (isRelative_reference i)).seq fun _ => value _
  | releaseReference r => exact (changeMachine (isRelative_releaseReference r)).seq fun _ => value _
  | rawSet i name => exact (changeMachine (isRelative_rawSet i name)).seq fun _ => value _
  | setMeta i =>
    exact ((onMachine (isRelative_setMetatable i)).seq fun result => ofExcept result).seq fun _ => value _
  | setField i name =>
    have set : Isolated (Vm.setField c i name) :=
      look (fun _ _ _ _ => rfl) fun m => (ofExcept _).seq fun _ => look (isQuery_valueAt i) fun m =>
        (onMachine isSteady_popValue.toIsRelative).seq fun v => newIndex bodies name v _ _
    exact set.seq fun _ => value _
  | close => exact close.seq fun _ => value _
  | _ => exact isEdit.elim

/-! ## The bridge -/

theorem holding {α : Type} {x : Bridge α} (isExclusive : Bool) (o : HostObject) (isolated : Isolated x) :
    Isolated (Bridge.holding isExclusive o x) := by
  refine (of_elsewhere (.askHost _)).seq fun r => ?_
  cases r.borrow.admit? isExclusive with
  | none => exact failure _
  | some borrow =>
    exact (of_elsewhere (.changeHost _)).seq fun _ => isolated.attempt.seq fun result =>
      (of_elsewhere (.changeHost _)).seq fun _ => ofExcept result

theorem pushPinned (t : Token) : Isolated (Bridge.pushPinned t) := by
  refine (of_elsewhere (.askSession _)).seq fun pinned => ?_
  cases pinned with
  | none => exact value _
  | some reference =>
    refine (onMachine (isSteady_pushReference reference).toIsRelative).seq fun isThere => ?_
    cases isThere with
    | true => exact value _
    | false => exact (changeMachine (isSteady_pop 1).toIsRelative).seq fun _ => value _

theorem pinProxy (t : Token) (typeName : String) : Isolated (Bridge.pinProxy t typeName) :=
  (changeMachine (isRelative_newProxy t typeName)).seq fun _ =>
    (onMachine (isRelative_reference (-1))).seq fun _ => of_elsewhere (.changeSession _)

theorem pushProxy (t : Token) (typeName : String) : Isolated (Bridge.pushProxy t typeName) := by
  refine (pushPinned t).seq fun isPushed => ?_
  cases isPushed with
  | true => exact value _
  | false => exact pinProxy t typeName

theorem push (v : HostValue) : Isolated (Bridge.push v) := by
  cases v with
  | object o => exact (of_elsewhere (.objectToken o)).seq fun t => pushProxy t _
  | surface s => exact (of_elsewhere (.surfaceToken s)).seq fun t => pushProxy t _
  | function number =>
    exact (of_elsewhere (.functionReference number)).seq fun r =>
      (onMachine (isSteady_pushReference r).toIsRelative).seq fun _ => value _
  | str s => exact changeMachine (isSteady_push (isQuery_const _)).toIsRelative
  | callable f => exact changeMachine (isSteady_push (isQuery_const _)).toIsRelative
  | _ => exact changeMachine (isSteady_writeSlot _).toIsRelative

theorem pinFunction (i : Int) : Isolated (Bridge.pinFunction i) :=
  (onMachine (isRelative_reference i)).seq fun _ => (of_elsewhere (.changeSession _)).seq fun _ =>
    (of_elsewhere (.onHost _)).seq fun _ => value _

theorem read (i : Int) : Isolated (Bridge.read i) := by
  have query : IsQuery fun m => m.readSlot (m.absIndex i) := fun bottom frames m fits => by
    simp only [absIndex_onto fits, readSlot_onto fits]
  refine look query fun m => ?_
  cases slot : m.readSlot (m.absIndex i) with
  | function f =>
    cases f with
    | slot i => exact pinFunction i
    | pinned r => exact absurd slot (readSlot_ne_pinned _ _ _)
  | handle t => exact of_elsewhere ((Action.IsElsewhere.askSession _).seq fun _ => .ofRules _)
  | _ => exact value _

theorem disposeFunction (number : Nat) : Isolated (Bridge.disposeFunction number) :=
  (of_elsewhere (.functionReference number)).seq fun r => (of_elsewhere (.changeHost _)).seq fun _ =>
    (changeMachine (isRelative_releaseReference r)).seq fun _ => of_elsewhere (.changeSession _)

end Isolated

/-- Staying in one's frame is a discipline. -/
def isolation : Discipline where
  Relates x _ := Isolated x
  before := Caller.unwatched
  before' := Caller.unwatched
  value := Isolated.value
  failure := Isolated.failure
  exhausted := Isolated.exhausted
  seq := Isolated.seq
  attempt := Isolated.attempt
  reword := Isolated.reword
  look := Isolated.look
  askSession f := Isolated.of_elsewhere (.askSession f)
  askHost f := Isolated.of_elsewhere (.askHost f)
  emit e := Isolated.of_elsewhere (.emit e)
  steady steady := Isolated.onMachine steady.toIsRelative
  ordinary _ := Isolated.of_elsewhere (.onHost _)
  holding isExclusive o isolated := Isolated.holding isExclusive o isolated
  watch _ := Isolated.value ()
  call argCount resultCount isProtected bodies := Isolated.call argCount resultCount isProtected bodies
  callValue f args resultCount bodies := Isolated.callValue f args resultCount bodies
  edit isEdit bodies := (Isolated.value ()).seq fun _ => (Isolated.edit isEdit bodies).attempt
  push := Isolated.push
  read := Isolated.read
  disposeFunction := Isolated.disposeFunction

/-- Everything that a run calls is isolated. -/
theorem isolated_callerAt (depth : Nat) (code : NativeCode) : Isolated ((callerAt depth).run code) :=
  (isolation.covers_watchedCaller depth 0).run code

/-! ## The contract of a call -/

/-- An open machine that is about to call a function, which lies between the slots `below` it and its
    arguments, and that may nest one more call. -/
structure AboutToCall (m : Machine) (below : Array Value) (name : String) (code : NativeCode)
    (args : Array Value) : Prop where
  stack : m.stack = below.push (.function name code) ++ args
  base : m.base ≤ below.size
  room : m.depth < m.maxDepth
  isOpen : m.isClosed = false

namespace AboutToCall

variable {m : Machine} {below args : Array Value} {name : String} {code : NativeCode}

theorem height (about : AboutToCall m below name code args) :
    m.height = below.size + 1 + args.size := by
  rw [Machine.height, about.stack, Array.size_append, Array.size_push]

theorem callee (about : AboutToCall m below name code args) :
    m.callee args.size = .ready below.size code := by
  have height := about.height
  have base := about.base
  have index : m.calleeIndex? args.size = some below.size := by
    rw [calleeIndex?, Int.toNat_natCast, if_pos (by omega)]
    congr 1
    omega
  have slot : m.stack[below.size]? = some (.function name code) := by
    rw [about.stack, Array.getElem?_append_left (by simp), Array.getElem?_push_size]
  rw [Machine.callee, about.isOpen, index]
  simp only [calleeAt, slot, Option.getD_some, Nat.not_le_of_lt about.room, if_false]
  rfl

/-- The call ends if no code in the machine renders, whatever else it does. -/
theorem ends {w w₁ : World} (about : AboutToCall w.machine below name code args)
    (never : w.machine.NeverRenders) {depth : Nat} (allowed : w.machine.maxDepth ≤ w.machine.depth + depth)
    {outcome : Outcome String Nat}
    (ran : ((callerAt depth).run code).run (Vm.entered w below.size) = (outcome, w₁)) :
    outcome ≠ .exhausted := by
  have room := about.room
  obtain ⟨left, rfl⟩ : ∃ left, depth = left + 1 := ⟨depth - 1, by omega⟩
  have bounded : w.machine.IsBounded w.machine.maxDepth (left + 1) := ⟨never, rfl, .inr allowed⟩
  have neverCalled : (Value.function name code).NeverRenders := by
    refine never.stack _ ?_
    rw [about.stack]
    simp
  have within := runsWithin_callerAt w.machine.maxDepth (left + 1)
  obtain ⟨ended, _⟩ := within.run rfl neverCalled _ (bounded.entered below.size)
  rintro rfl
  rw [ran] at ended
  exact ended

/-- The function sees exactly its arguments, from slot 1 up. -/
theorem sees_args (about : AboutToCall m below name code args) :
    (m.enter below.size).frameSize = args.size ∧
      ∀ i : Nat, i < args.size → (m.enter below.size).valueAt (i + 1) = args[i]?.getD .nil := by
  have base : (m.enter below.size).base = below.size + 1 := by simp [enter, Machine.base]
  have height : (m.enter below.size).height = below.size + 1 + args.size := about.height
  refine ⟨by rw [frameSize, base, height]; omega, fun i inside => ?_⟩
  have index : (m.enter below.size).slotIndex? (i + 1) = some (below.size + 1 + i) := by
    have slot : below.size + 1 + ((i : Int) + 1).toNat - 1 = below.size + 1 + i := by omega
    simp only [slotIndex?, base, height, slot]
    rw [if_pos (by omega), if_pos (by omega)]
  have stack : (m.enter below.size).stack = below.push (.function name code) ++ args := about.stack
  rw [valueAt, index, Option.bind_some, stack, Array.getElem?_append_right (by simp)]
  congr 2
  simp

end AboutToCall

/-- The stack after a call of a function that left values in its frame: what lay below the function,
    and on it the topmost values that it claimed, cut or filled up to the number asked for.  A failed
    call leaves the function and its frame in place unless it is protected. -/
def settled (below : Array Value) (f : Value) (frame : Array Value) (resultCount : Int)
    (isProtected : Bool) : Outcome String Nat → Array Value
  | .value claimed =>
    below ++ adjust resultCount (frame.extract (frame.size - min claimed frame.size) frame.size)
  | .failure _ => if isProtected then below else below.push f ++ frame
  | .exhausted => below.push f ++ frame

theorem shrink_below (below : Array Value) (f : Value) (frame : Array Value) :
    (below.push f ++ frame).shrink below.size = below := by
  apply Array.ext_getElem?
  intro i
  rw [getElem?_shrink]
  by_cases inside : i < below.size
  · rw [if_pos inside, Array.getElem?_append_left (by rw [Array.size_push]; omega),
      Array.getElem?_push, if_neg (by omega)]
  · rw [if_neg inside, Array.getElem?_eq_none (by omega)]

theorem returned_below {m : Machine} {below frame : Array Value} {f : Value}
    (stack : m.stack = below.push f ++ frame) (claimed : Nat) :
    m.returned below.size claimed =
      frame.extract (frame.size - min claimed frame.size) frame.size := by
  have size : (below.push f).size = below.size + 1 := Array.size_push f
  have height : m.height = (below.push f).size + frame.size := by
    rw [Machine.height, stack, Array.size_append]
  have available : m.height - (below.size + 1) = frame.size := by omega
  have first : m.height - min claimed frame.size =
      (below.push f).size + (frame.size - min claimed frame.size) := by omega
  have low : (below.push f).extract ((below.push f).size + (frame.size - min claimed frame.size))
      ((below.push f).size + frame.size) = #[] := by
    rw [Array.extract_eq_empty_iff]
    omega
  rw [returned, available, first, height, stack, Array.extract_append, low, Array.empty_append,
    Nat.add_sub_cancel_left, Nat.add_sub_cancel_left]

/-- The stack after a function has ended, in terms of what it left in its frame. -/
theorem stack_left {m : Machine} {below frame : Array Value} {f : Value}
    (stack : m.stack = below.push f ++ frame) (depth : Nat) (resultCount : Int) (isProtected : Bool)
    (outcome : Outcome String Nat) :
    (m.left depth below.size resultCount isProtected outcome).stack =
      settled below f frame resultCount isProtected outcome := by
  cases outcome with
  | value claimed =>
    have room : below.size < (m.leave depth).height := by
      show below.size < m.stack.size
      rw [stack, Array.size_append, Array.size_push]
      omega
    have returned : (m.leave depth).returned below.size claimed = _ := returned_below stack claimed
    have kept : (m.leave depth).stack.shrink below.size = below := by
      show m.stack.shrink below.size = below
      rw [stack, shrink_below]
    rw [left, stack_deliver, returned, kept, settled]
  | failure text =>
    cases isProtected with
    | true =>
      show m.stack.shrink below.size = below
      rw [stack, shrink_below]
    | false => exact stack
  | exhausted => exact stack

/-- A function that has run kept to its frame. -/
theorem AboutToCall.stays_ran {w w₁ : World} {below args : Array Value} {name : String} {code : NativeCode}
    (about : AboutToCall w.machine below name code args) {depth : Nat} {outcome : Outcome String Nat}
    (ran : ((callerAt depth).run code).run (Vm.entered w below.size) = (outcome, w₁))
    (ended : outcome ≠ .exhausted) (isOpen : w₁.machine.isClosed = false) :
    StaysInFrame ((callerAt depth).run code) (Vm.entered w below.size) outcome w₁ := by
  have whole : (Vm.entered w below.size).machine.base ≤ (Vm.entered w below.size).machine.height := by
    have height := about.height
    rw [Vm.base_entered]
    show below.size + 1 ≤ w.machine.height
    omega
  exact (isolated_callerAt depth code).stays ran whole ended isOpen

/-- It leaves what it found below its frame, and the frame. -/
theorem AboutToCall.stack_ran {w w₁ : World} {below args : Array Value} {name : String} {code : NativeCode}
    (about : AboutToCall w.machine below name code args) {depth : Nat} {outcome : Outcome String Nat}
    (ran : ((callerAt depth).run code).run (Vm.entered w below.size) = (outcome, w₁))
    (ended : outcome ≠ .exhausted) (isOpen : w₁.machine.isClosed = false) :
    w₁.machine.frames = w.machine.frames.push (below.size + 1) ∧
      ∃ frame, w₁.machine.stack = below.push (.function name code) ++ frame := by
  have stays := about.stays_ran ran ended isOpen
  -- The function lies in the topmost slot below its own frame.
  have bottom : (Vm.entered w below.size).machine.stack.extract 0 (below.size + 1) =
      below.push (.function name code) := by
    show w.machine.stack.extract 0 (below.size + 1) = below.push (.function name code)
    rw [about.stack, ← Array.size_push (v := Value.function name code), Array.extract_append_left,
      Array.extract_size]
  have stack := stays.stack_eq ran
  rw [Vm.base_entered, bottom, splice] at stack
  exact ⟨stays.frames, _, stack⟩

/-- A call runs the function on its arguments alone, whatever they and the function are: while it runs
    it neither reads nor changes a slot below its frame, and the frames are given back.  Afterwards the
    slots below the function are as before, and on them lies what `settled` says.  A call in a machine
    whose code renders nothing is bound to end. -/
theorem call_isolates (depth : Nat) {w w₁ : World} {below args : Array Value} {name : String}
    {code : NativeCode} (about : AboutToCall w.machine below name code args)
    {outcome : Outcome String Nat}
    (ran : ((callerAt depth).run code).run (Vm.entered w below.size) = (outcome, w₁))
    (isOpen : w₁.machine.isClosed = false) (resultCount : Int) (isProtected : Bool) :
    ((Vm.entered w below.size).machine.frameSize = args.size ∧
      ∀ i : Nat, i < args.size →
        (Vm.entered w below.size).machine.valueAt (i + 1) = args[i]?.getD .nil) ∧
    (outcome ≠ .exhausted →
      StaysInFrame ((callerAt depth).run code) (Vm.entered w below.size) outcome w₁ ∧
      ∃ frame w', w₁.machine.stack = below.push (.function name code) ++ frame ∧
        (Vm.call (callerAt depth) args.size resultCount isProtected).run w =
          (Vm.outcomeOf outcome, w') ∧
        w'.machine.frames = w.machine.frames ∧
        w'.machine.stack =
          settled below (.function name code) frame resultCount isProtected outcome) ∧
    (w.machine.NeverRenders → w.machine.maxDepth ≤ w.machine.depth + depth →
      outcome ≠ .exhausted) := by
  refine ⟨about.sees_args, fun ended => ?_, fun never allowed => about.ends never allowed ran⟩
  obtain ⟨frames, frame, stack⟩ := about.stack_ran ran ended isOpen
  have called : (Vm.call (callerAt depth) args.size resultCount isProtected).run w =
      (Vm.outcomeOf outcome, { w₁ with
        machine := w₁.machine.left w.machine.depth below.size resultCount isProtected outcome }) := by
    simp only [Vm.run_call, about.callee, Vm.run_runFrame, ran]
  exact ⟨about.stays_ran ran ended isOpen, frame, _, stack, called, frames_left frames ended,
    stack_left stack w.machine.depth resultCount isProtected outcome⟩

/-- A body that pops more than its frame holds, makes a call that fails, empties its frame and claims
    more results than it leaves. -/
def greedyBody : NativeCode :=
  .program (.mk [.pop 9, .pushBoolean false, .attempt (.protectedCall 0 0), .pushNil, .setTop (-9),
    .pushBoolean true] (some 3) none true)

/-- A world in which the greedy body is about to be called with two arguments. -/
def greedyWorld : World :=
  { machine := { Machine.start 2 with
      stack := #[.boolean true, .function "greedy" greedyBody, .nil, .boolean false] }
    session := .start {}, host := .empty, events := #[] }

theorem call_isolates_greedy_body :
    AboutToCall greedyWorld.machine #[.boolean true] "greedy" greedyBody #[.nil, .boolean false] ∧
      ∃ w₁, ((callerAt 2).run greedyBody).run (Vm.entered greedyWorld 1) = (.value 3, w₁) ∧
        w₁.machine.isClosed = false ∧
        ∃ w', (Vm.call (callerAt 2) 2 2 true).run greedyWorld = (.value (), w') ∧
          w'.machine.stack = #[.boolean true, .boolean true, .nil] := by
  have about : AboutToCall greedyWorld.machine #[.boolean true] "greedy" greedyBody
      #[.nil, .boolean false] := ⟨rfl, Nat.zero_le _, by decide, rfl⟩
  obtain ⟨w₁, ran, isOpen, stack₁⟩ : ∃ w₁,
      ((callerAt 2).run greedyBody).run (Vm.entered greedyWorld 1) = (.value 3, w₁) ∧
      w₁.machine.isClosed = false ∧
      w₁.machine.stack = #[.boolean true].push (.function "greedy" greedyBody) ++ #[.boolean true] :=
    ⟨_, rfl, rfl, rfl⟩
  have never : greedyWorld.machine.NeverRenders := by
    refine ⟨?_, fun _ => trivial, fun address key => ?_, nofun, nofun⟩
    · simp [greedyWorld, greedyBody, Value.NeverRenders, NativeCode.NeverRenders, Program.NeverRenders,
        Op.NoneRenders, Op.NeverRenders]
    · rw [table_of_size_le (Nat.zero_le address)]
      exact trivial
  obtain ⟨_, isolates, ends⟩ := call_isolates 2 about ran isOpen 2 true
  obtain ⟨_, frame, w', left, called, _, stack⟩ := isolates (ends never (Nat.le_refl 2))
  rw [stack₁] at left
  rw [← (Array.append_right_inj _).1 left] at stack
  exact ⟨about, w₁, ran, isOpen, w', called, stack⟩

end ScriptHost
