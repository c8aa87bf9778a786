import ScriptHost.Proofs.Discipline.Paths
/-!
# Bases of frames

The bases of the running functions' frames are stacked up like the frames themselves: none lies below
one that was opened before it, and all lie in the stack (`Machine.HasSoundFrames`).  That is what the
machine's arithmetic rests on, for it subtracts bases from heights.

Code may close the machine in the midst of its calls and go on.  Then the stack is gone from under the
functions that wait for it, and so are their frames; no more are opened after that.

Every run keeps the frames sound, where it ends and where it is stopped, and gives them back unless the
machine was closed (`FramesKept`, a discipline).
-/

namespace ScriptHost

open World Machine

/-! ## Sound frames -/

/-- The bases of the frames do not decrease, they lie in the stack, and there are no more of them than
    functions may be running. -/
structure Machine.HasSoundFrames (m : Machine) : Prop where
  ordered : m.frames.toList.Pairwise (· ≤ ·)
  inside : ∀ base ∈ m.frames, base ≤ m.height
  admitted : m.depth ≤ m.maxDepth
  /-- A machine that is closed has no frames. -/
  gone : m.isClosed = true → m.frames = #[]

namespace Machine.HasSoundFrames

variable {m m' : Machine}

/-- Nothing is running. -/
theorem of_idle (idle : m.frames = #[]) : m.HasSoundFrames where
  ordered := by simp [idle]
  inside := by simp [idle]
  admitted := by simp [depth, idle]
  gone _ := idle

/-- The current frame lies on top of the others. -/
theorem le_base (sound : m.HasSoundFrames) : ∀ base ∈ m.frames, base ≤ m.base := by
  intro base among
  have filled : m.frames.size ≠ 0 := by
    intro empty
    rw [Array.size_eq_zero_iff] at empty
    simp [empty] at among
  obtain ⟨bases, last, frames⟩ := Array.eq_push_of_size_ne_zero filled
  have ordered := sound.ordered
  have base_eq : m.base = last := by simp [Machine.base, frames]
  rw [frames, Array.toList_push, List.pairwise_append] at ordered
  rw [frames, Array.mem_push] at among
  rw [base_eq]
  rcases among with below | rfl
  · exact ordered.2.2 base (Array.mem_toList_iff.2 below) last (List.mem_singleton.2 rfl)
  · exact Nat.le_refl base

theorem whole (sound : m.HasSoundFrames) : m.base ≤ m.height := by
  rw [base]
  cases last : m.frames.back? with
  | none => exact Nat.zero_le _
  | some base => exact sound.inside base (Array.mem_of_back? last)

/-- With the same frames it is enough that the current one lies in the stack. -/
theorem of_same (sound : m.HasSoundFrames) (frames : m'.frames = m.frames)
    (maxDepth : m'.maxDepth = m.maxDepth) (isClosed : m'.isClosed = m.isClosed)
    (whole : m.base ≤ m'.height) : m'.HasSoundFrames where
  ordered := by rw [frames]; exact sound.ordered
  inside base among := by
    rw [frames] at among
    exact Nat.le_trans (sound.le_base base among) whole
  admitted := by rw [depth, frames, maxDepth]; exact sound.admitted
  gone closed := by rw [frames]; exact sound.gone (isClosed ▸ closed)

/-- A frame is opened above the current one, if one more is admitted. -/
theorem enter (sound : m.HasSoundFrames) {slot : Nat} (inside : m.base ≤ slot) (room : slot < m.height)
    (isOpen : m.isClosed = false) (shallow : m.depth < m.maxDepth) :
    (m.enter slot).HasSoundFrames where
  ordered := by
    have above (base : Nat) (among : base ∈ m.frames) : base ≤ slot + 1 :=
      Nat.le_succ_of_le (Nat.le_trans (sound.le_base base among) inside)
    simp only [Machine.enter, Array.toList_push]
    rw [List.pairwise_append]
    refine ⟨sound.ordered, List.pairwise_singleton _ _, fun base among last is => ?_⟩
    rw [List.mem_singleton.1 is]
    exact above base (Array.mem_toList_iff.1 among)
  inside base among := by
    rcases Array.mem_push.1 among with among | rfl
    · exact sound.inside base among
    · exact room
  admitted := by
    show (m.frames.push (slot + 1)).size ≤ m.maxDepth
    rw [Array.size_push]
    exact shallow
  gone closed := by
    have closed : m.isClosed = true := closed
    rw [isOpen] at closed
    cases closed

/-- A function and its arguments are pushed on the current frame. -/
theorem prepared {w : World} (sound : w.machine.HasSoundFrames) (f : Value) (args : List Value) :
    (Vm.prepared w f args).machine.HasSoundFrames := by
  refine sound.of_same rfl rfl rfl ?_
  have whole := sound.whole
  rw [Vm.height_prepared]
  omega

end Machine.HasSoundFrames

/-! ## Keeping them -/

/-- The frames are sound after a run.  If it has ended, and the machine is open, they are those that it
    found. -/
structure Machine.KeepsFrames (ended : Prop) (m m' : Machine) : Prop where
  sound : m'.HasSoundFrames
  maxDepth : m'.maxDepth = m.maxDepth
  isClosed : m.isClosed = true → m'.isClosed = true
  frames : ended → m'.isClosed = false → m'.frames = m.frames

namespace Machine.KeepsFrames

variable {ended : Prop} {m m₁ m₂ m' : Machine}

theorem of_same (sound : m'.HasSoundFrames) (maxDepth : m'.maxDepth = m.maxDepth)
    (isClosed : m'.isClosed = m.isClosed) (frames : m'.frames = m.frames) : m.KeepsFrames ended m' :=
  ⟨sound, maxDepth, fun closed => isClosed.trans closed, fun _ _ => frames⟩

theorem refl (sound : m.HasSoundFrames) : m.KeepsFrames ended m := of_same sound rfl rfl rfl

theorem isOpen (keeps : m.KeepsFrames ended m') (isOpen' : m'.isClosed = false) : m.isClosed = false := by
  cases closed : m.isClosed with
  | false => rfl
  | true =>
    rw [keeps.isClosed closed] at isOpen'
    cases isOpen'

theorem trans {before : Prop} (first : m.KeepsFrames before m₁) (done : before)
    (second : m₁.KeepsFrames ended m₂) : m.KeepsFrames ended m₂ where
  sound := second.sound
  maxDepth := second.maxDepth.trans first.maxDepth
  isClosed closed := second.isClosed (first.isClosed closed)
  frames ended isOpen' :=
    (second.frames ended isOpen').trans (first.frames done (second.isOpen isOpen'))

theorem close (sound : m.HasSoundFrames) : m.KeepsFrames ended m.close := by
  rw [Machine.close]
  split
  · exact refl sound
  · exact ⟨.of_idle rfl, rfl, fun _ => rfl, fun _ isOpen' => by cases isOpen'⟩

end Machine.KeepsFrames

theorem Machine.IsLocal.keepsFrames {α : Type} {f : Machine → α × Machine} (isLocal : IsLocal f)
    {ended : Prop} (m : Machine) (sound : m.HasSoundFrames) : m.KeepsFrames ended (f m).2 :=
  .of_same (sound.of_same (isLocal.frames m) (isLocal.maxDepth m) (isLocal.isClosed m)
    (isLocal.whole m sound.whole)) (isLocal.maxDepth m) (isLocal.isClosed m) (isLocal.frames m)

/-- The operations of the bridge keep the frames. -/
def framing : Drift where
  Leads w w' := w.machine.HasSoundFrames → w.machine.KeepsFrames True w'.machine
  refl _ sound := .refl sound
  trans first second sound := (first sound).trans trivial (second (first sound).sound)
  tame tame w := tame.toIsLocal.keepsFrames w.machine
  newProxy t typeName w := (isRelative_newProxy t typeName).isLocal.keepsFrames w.machine
  reference i w := (isRelative_reference i).isLocal.keepsFrames w.machine
  releaseReference r w := (isRelative_releaseReference r).isLocal.keepsFrames w.machine
  close _ sound := .close sound
  alloc _ _ _ sound := .refl sound
  release _ _ sound := .refl sound
  releaseAll _ sound := .refl sound
  session _ _ _ _ sound := .refl sound
  host _ _ _ sound := .refl sound

/-- From any machine with sound frames the action goes to another one, and gives the frames back. -/
def FramesKept {ε α : Type} (x : Action World ε α) : Prop :=
  ∀ w : World, w.machine.HasSoundFrames →
    w.machine.KeepsFrames ((x.run w).1 ≠ .exhausted) (x.run w).2.machine

namespace FramesKept

variable {ε ε' α β : Type}

theorem of_drift {x : Action World ε α} (keeps : framing.Keeps x) : FramesKept x := fun w sound => by
  have kept : w.machine.KeepsFrames True (x.run w).2.machine := keeps w sound
  exact { kept with frames := fun _ => kept.frames trivial }

theorem of_unchanged {x : Action World ε α} (unchanged : ∀ w, (x.run w).2.machine = w.machine) :
    FramesKept x := fun w sound => by
  rw [unchanged]
  exact .refl sound

theorem value (a : α) : FramesKept (pure a : Action World ε α) := of_unchanged fun _ => rfl

theorem failure (e : ε) : FramesKept (Action.fail e : Action World ε α) := of_unchanged fun _ => rfl

theorem ofExcept (r : Except ε α) : FramesKept (Action.ofExcept r : Action World ε α) := by
  cases r with
  | ok a => exact value a
  | error e => exact failure e

theorem seq {x : Action World ε α} {f : α → Action World ε β} (first : FramesKept x)
    (second : ∀ a, FramesKept (f a)) : FramesKept (x >>= f) := fun w sound => by
  have kept := first w sound
  rw [Action.run_bind]
  rcases ran : x.run w with ⟨a | e | _, w₁⟩ <;> rw [ran] at kept
  · exact kept.trans (by simp) (second a w₁ kept.sound)
  · exact { kept with frames := fun _ => kept.frames (by simp) }
  · exact { kept with frames := fun ended => absurd rfl ended }

/-- An action that runs another one and makes something else of the way in which it ended. -/
theorem of_outcome {x : Action World ε α} {y : Action World ε' β} (kept : FramesKept x)
    (make : Outcome ε α → Outcome ε' β) (exhausted : make .exhausted = .exhausted)
    (run_eq : ∀ w, y.run w = (make (x.run w).1, (x.run w).2)) : FramesKept y := fun w sound => by
  rw [run_eq]
  have kept := kept w sound
  refine { kept with frames := fun ended => kept.frames fun stopped => ended ?_ }
  show make (x.run w).1 = .exhausted
  rw [stopped, exhausted]

theorem attempt {x : Action World ε α} (kept : FramesKept x) :
    FramesKept (Action.attempt x : Action World ε' (Except ε α)) :=
  kept.of_outcome Outcome.attempted rfl (Action.run_attempt_eq x)

theorem reword {x : Action World ε α} (f : ε → ε') (kept : FramesKept x) :
    FramesKept (Action.mapFailure f x) :=
  kept.of_outcome (Outcome.reworded f) rfl (Action.run_mapFailure_eq f x)

theorem onMachine {f : Machine → α × Machine} (isLocal : IsLocal f) :
    FramesKept (World.onMachine f : Action World ε α) := fun w => isLocal.keepsFrames w.machine

theorem changeMachine {f : Machine → Machine} (isLocal : IsLocal fun m => ((), f m)) :
    FramesKept (World.changeMachine f : Action World ε Unit) :=
  onMachine isLocal

theorem onHost (f : HostStore → α × HostStore) : FramesKept (World.onHost f : Action World ε α) :=
  of_unchanged fun _ => rfl

theorem changeHost (f : HostStore → HostStore) :
    FramesKept (World.changeHost f : Action World ε Unit) :=
  of_unchanged fun _ => rfl

theorem look {f : Machine → α} {k : α → Action World ε β} (then_ : ∀ m, FramesKept (k (f m))) :
    FramesKept (askMachine f >>= k) := fun w sound => then_ w.machine w sound

theorem holding {x : Bridge α} (isExclusive : Bool) (o : HostObject) (kept : FramesKept x) :
    FramesKept (Bridge.holding isExclusive o x) := by
  refine seq (of_unchanged fun _ => rfl) fun r => ?_
  cases r.borrow.admit? isExclusive with
  | none => exact failure _
  | some borrow =>
    exact (changeHost _).seq fun _ => kept.attempt.seq fun result => (changeHost _).seq fun _ =>
      ofExcept result

/-! ### Calls -/

section Calls

variable {c : Caller}

/-- A function that ends leaves its own slot in place, below its frame, unless it closes the machine. -/
theorem slot_lt {w w₁ : World} {slot : Nat} {ended : Prop}
    (kept : (Vm.entered w slot).machine.KeepsFrames ended w₁.machine) (done : ended)
    (isOpen₁ : w₁.machine.isClosed = false) : slot < w₁.machine.height := by
  have top : slot + 1 ∈ w₁.machine.frames := by
    rw [kept.frames done isOpen₁]
    exact Array.mem_push_self
  exact kept.sound.inside _ top

/-- A function is called with sound frames, and its run keeps them. -/
theorem body (bodies : ∀ code, FramesKept (c.run code)) {w : World} (sound : w.machine.HasSoundFrames)
    {argCount : Int} {slot : Nat} {code : NativeCode} (target : w.machine.callee argCount = .ready slot code) :
    (Vm.entered w slot).machine.KeepsFrames (((c.run code).run (Vm.entered w slot)).1 ≠ .exhausted)
      ((c.run code).run (Vm.entered w slot)).2.machine := by
  obtain ⟨inside, room⟩ := callee_bounds (m := w.machine) (by rw [target]; rfl)
  obtain ⟨isOpen, shallow, -⟩ := callee_ready target
  exact bodies code _ (sound.enter inside room isOpen shallow)

/-- What is left when a function has ended, of which the run has kept the frames. -/
theorem left {w w₁ : World} {slot : Nat} (sound : w.machine.HasSoundFrames)
    (inside : w.machine.base ≤ slot) {outcome : Outcome String Nat} (ended : outcome ≠ .exhausted)
    (kept : (Vm.entered w slot).machine.KeepsFrames (outcome ≠ .exhausted) w₁.machine)
    (resultCount : Int) (isProtected : Bool) {done : Prop} :
    w.machine.KeepsFrames done
      (w₁.machine.left w.machine.depth slot resultCount isProtected outcome) := by
  let m := w₁.machine.left w.machine.depth slot resultCount isProtected outcome
  have maxDepth : m.maxDepth = w.machine.maxDepth := maxDepth_left.trans kept.maxDepth
  have closed_eq : m.isClosed = w₁.machine.isClosed := isClosed_left
  cases closed : w₁.machine.isClosed with
  | true =>
    -- The function has closed the machine under its callers.
    have gone : m.frames = #[] := frames_left_of_gone (kept.sound.gone closed)
    refine ⟨.of_idle gone, maxDepth, fun _ => closed_eq.trans closed, fun _ isOpen' => ?_⟩
    rw [closed_eq, closed] at isOpen'
    cases isOpen'
  | false =>
    have same := kept.frames ended closed
    have frames : m.frames = w.machine.frames := frames_left same ended
    have room := slot_lt kept ended closed
    have isOpen : w.machine.isClosed = false := kept.isOpen closed
    have isClosed := (closed_eq.trans closed).trans isOpen.symm
    exact .of_same (sound.of_same frames maxDepth isClosed (Nat.le_trans inside (height_left room)))
      maxDepth isClosed frames

theorem call (bodies : ∀ code, FramesKept (c.run code)) (argCount resultCount : Int)
    (isProtected : Bool) : FramesKept (Vm.call c argCount resultCount isProtected) := fun w sound => by
  rw [Vm.run_call]
  cases target : w.machine.callee argCount with
  | missing e => exact .refl sound
  | refused slot e =>
    obtain ⟨inside, room⟩ := callee_bounds (m := w.machine) (by rw [target]; rfl)
    cases isProtected with
    | false => exact .refl sound
    | true =>
      have above : w.machine.base ≤ (w.machine.truncate slot).height := by
        rw [height_truncate]
        exact Nat.le_min.2 ⟨inside, sound.whole⟩
      exact .of_same (sound.of_same rfl rfl rfl above) rfl rfl rfl
  | ready slot code =>
    obtain ⟨inside, -⟩ := callee_bounds (m := w.machine) (by rw [target]; rfl)
    have kept := body bodies sound target
    simp only [Vm.run_runFrame]
    cases ran : ((c.run code).run (Vm.entered w slot)).1 with
    | exhausted =>
      -- A run that was stopped gives nothing back.
      exact { kept with frames := fun ended => absurd rfl ended }
    | value claimed =>
      rw [ran] at kept
      exact left sound inside (by simp) kept resultCount isProtected
    | failure text =>
      rw [ran] at kept
      exact left sound inside (by simp) kept resultCount isProtected

variable (bodies : ∀ code, FramesKept (c.run code))

include bodies

/-- A call that succeeds leaves a fixed number of results in the place of the function, if the machine is
    open still. -/
theorem height_called {argCount resultCount : Int} (fixed : resultCount ≠ -1) {isProtected : Bool}
    {w w' : World} (sound : w.machine.HasSoundFrames)
    (ran : (Vm.call c argCount resultCount isProtected).run w = (.value (), w'))
    (isOpen' : w'.machine.isClosed = false) :
    ∃ slot, w.machine.base ≤ slot ∧ w'.machine.height = slot + resultCount.toNat := by
  obtain ⟨slot, code, claimed, w₁, target, inside, -, ran₁, rfl⟩ := Vm.call_value ran
  have kept := body bodies sound target
  rw [ran₁] at kept
  have room₁ : slot < w₁.machine.height := slot_lt kept (by simp) isOpen'
  exact ⟨slot, inside, height_deliver (m := w₁.machine.leave w.machine.depth) room₁ claimed fixed⟩

theorem callValue (f : Value) (args : List Value) (resultCount : Nat) :
    FramesKept (Vm.callValue c f args resultCount) := fun w sound => by
  have sound₀ := sound.prepared f args
  have kept := call bodies args.length resultCount false (Vm.prepared w f args) sound₀
  -- The slots above a height are removed, down to the frame at the most.
  have cut {w₁ : World} (height : Nat) (kept : w.machine.KeepsFrames True w₁.machine)
      (above : w₁.machine.isClosed = false → w.machine.base ≤ min height w₁.machine.height) :
      w.machine.KeepsFrames True (Vm.cut w₁ height).machine := by
    refine { kept with sound := ?_ }
    cases closed : w₁.machine.isClosed with
    | true => exact .of_idle (kept.sound.gone closed)
    | false =>
      have base : w₁.machine.base = w.machine.base := by
        rw [Machine.base, Machine.base, kept.frames trivial closed]
      refine kept.sound.of_same rfl rfl rfl ?_
      show w₁.machine.base ≤ (w₁.machine.truncate height).height
      rw [height_truncate, base]
      exact above closed
  rw [Vm.run_callValue]
  rcases ran : (Vm.call c args.length resultCount false).run (Vm.prepared w f args) with
    ⟨_ | e | _, w₁⟩ <;> rw [ran] at kept
  · have kept₁ : w.machine.KeepsFrames True w₁.machine :=
      ⟨kept.sound, kept.maxDepth, kept.isClosed, fun _ => kept.frames (by simp)⟩
    have cut₁ := cut (w₁.machine.height - resultCount) kept₁ fun isOpen' => by
      obtain ⟨slot, inside, height₁⟩ := height_called bodies (by omega) sound₀ ran isOpen'
      have inside : w.machine.base ≤ slot := inside
      omega
    exact { cut₁ with frames := fun _ => cut₁.frames trivial }
  · have kept₁ : w.machine.KeepsFrames True w₁.machine :=
      ⟨kept.sound, kept.maxDepth, kept.isClosed, fun _ => kept.frames (by simp)⟩
    have cut₁ := cut w.machine.height kept₁ fun isOpen' => by
      have whole : w₁.machine.base ≤ w₁.machine.height := kept₁.sound.whole
      rw [Machine.base, kept₁.frames trivial isOpen', ← Machine.base] at whole
      exact Nat.le_min.2 ⟨sound.whole, whole⟩
    exact { cut₁ with frames := fun _ => cut₁.frames trivial }
  · exact ⟨kept.sound, kept.maxDepth, kept.isClosed, fun ended => absurd rfl ended⟩

theorem newIndex (key : String) (v : Value) (links : Nat) (target : Value) :
    FramesKept (Vm.newIndex c key v links target) := by
  induction links generalizing target with
  | zero => exact failure _
  | succ links ih =>
    cases target with
    | table address =>
      refine look fun m => ?_
      cases m.newIndexHandler address key with
      | nil => exact changeMachine (isRelative_setTableField address (utf8Encode key) v).isLocal
      | function name code => exact (callValue bodies _ _ _).seq fun _ => value _
      | table next => exact ih (.table next)
      | _ => exact failure _
    | _ => exact failure _

theorem edit {op : Op} (isEdit : op.IsEdit) : FramesKept (op.perform c) := by
  cases op with
  | reference i => exact (onMachine (isRelative_reference i).isLocal).seq fun _ => value _
  | releaseReference r => exact (changeMachine (isRelative_releaseReference r).isLocal).seq fun _ => value _
  | rawSet i name => exact (changeMachine (isRelative_rawSet i name).isLocal).seq fun _ => value _
  | setMeta i =>
    exact ((onMachine (isRelative_setMetatable i).isLocal).seq fun result => ofExcept result).seq
      fun _ => value _
  | setField i name =>
    have set : FramesKept (Vm.setField c i name) :=
      look fun m => (ofExcept _).seq fun _ => look fun m => (onMachine isSteady_popValue.isLocal).seq
        fun v => newIndex bodies name v _ _
    exact set.seq fun _ => value _
  | close =>
    have closed : FramesKept (World.changeMachine Machine.close : Vm Unit) := fun _ sound => .close sound
    exact closed.seq fun _ => value _
  | _ => exact isEdit.elim

end Calls

theorem stopWhen (stop : Op → World → Bool) (op : Op) : FramesKept (stopWhen stop op) :=
  of_unchanged fun w => by
    rw [run_stopWhen]
    split <;> rfl

end FramesKept

/-- Keeping the frames is a discipline, wherever a run is stopped. -/
def frameKeeping (stop : Op → World → Bool) : SessionDiscipline where
  Relates x _ := FramesKept x
  before := stopWhen stop
  before' := stopWhen stop
  value := FramesKept.value
  failure := FramesKept.failure
  exhausted := FramesKept.of_unchanged fun _ => rfl
  seq := FramesKept.seq
  attempt := FramesKept.attempt
  reword := FramesKept.reword
  look _ := FramesKept.look
  askSession _ := FramesKept.of_unchanged fun _ => rfl
  askHost _ := FramesKept.of_unchanged fun _ => rfl
  emit _ := FramesKept.of_unchanged fun _ => rfl
  steady steady := FramesKept.onMachine steady.isLocal
  ordinary _ := FramesKept.onHost _
  holding := FramesKept.holding
  watch := FramesKept.stopWhen stop
  call argCount resultCount isProtected bodies := FramesKept.call bodies argCount resultCount isProtected
  callValue f args resultCount bodies := FramesKept.callValue bodies f args resultCount
  edit isEdit bodies := (FramesKept.stopWhen stop _).seq fun _ => (FramesKept.edit bodies isEdit).attempt
  -- The bridge pushes and pins in the frame that it is called in.
  push v := FramesKept.of_drift (Drift.push v)
  read i := FramesKept.of_drift (Drift.read i)
  disposeFunction number := FramesKept.of_drift (Drift.disposeFunction number)
  registerType d := FramesKept.of_drift (Drift.registerType d)
  forwardType d := FramesKept.of_drift (Drift.forwardType d)
  pinChunk := FramesKept.of_drift Drift.pinChunk
  takeChunk := FramesKept.of_drift Drift.takeChunk
  teardown := FramesKept.of_drift Drift.teardown

/-! ## Runs -/

/-- Some commands, or some steps with the machine alone, lead from one world to the other, or are stopped
    there by the test. -/
inductive World.Attains (stop : Op → World → Bool) (start w : World) : Prop where
  | commands {depth : Nat} {commands : List Command} {outcome : Outcome Raised Unit}
      (ran : (Command.runAll (watchedCaller (stopWhen stop) depth) commands).run start = (outcome, w))
  | probes {depth : Nat} {probes : List Probe} {outcome : Outcome VmError Unit}
      (ran : (Probe.runAll (watchedCaller (stopWhen stop) depth) probes).run start = (outcome, w))

/-- A machine with an empty session around it. -/
def World.alone (m : Machine) : World := { machine := m, session := .start {}, host := .empty, events := #[] }

/-- Where some steps with a machine alone lead, or are stopped by the test. -/
def World.probed (stop : Op → World → Bool) (m : Machine) (probes : List Probe) : World :=
  ((Probe.runAll (watchedCaller (stopWhen stop) m.maxDepth) probes).run (alone m)).2

theorem World.attains_probed (stop : Op → World → Bool) (m : Machine) (probes : List Probe) :
    Attains stop (alone m) (probed stop m probes) :=
  .probes (Prod.eta _).symm

theorem FramesKept.covers (stop : Op → World → Bool) (depth : Nat) :
    (frameKeeping stop).Covers (watchedCaller (ScriptHost.stopWhen stop) depth)
      (watchedCaller (ScriptHost.stopWhen stop) depth) :=
  (frameKeeping stop).covers_watchedCaller depth 0

/-- In all states of a run the frames are sound, under the limit that was set. -/
theorem World.Attains.keepsFrames {stop : Op → World → Bool} {start w : World}
    (attained : Attains stop start w) (sound : start.machine.HasSoundFrames) :
    w.machine.HasSoundFrames ∧ w.machine.maxDepth = start.machine.maxDepth := by
  cases attained with
  | @commands depth commands outcome ran =>
    have kept := SessionDiscipline.runAll (FramesKept.covers stop depth) commands start sound
    rw [ran] at kept
    exact ⟨kept.sound, kept.maxDepth⟩
  | @probes depth probes outcome ran =>
    have kept := SessionDiscipline.runAllProbes (FramesKept.covers stop depth)
      (fun _ _ => FramesKept.look fun _ => FramesKept.of_unchanged fun _ => rfl) probes start sound
    rw [ran] at kept
    exact ⟨kept.sound, kept.maxDepth⟩

/-- Walking is a discipline of all runs, if no edit is barred. -/
def wandering (stop : Op → World → Bool) : SessionDiscipline :=
  @walking (fun _ _ => False) stop stop (fun _ _ barred => barred.elim) fun _ _ stopped => stopped

theorem covers_wandering (stop : Op → World → Bool) (depth : Nat) :
    (wandering stop).Covers (watchedCaller (stopWhen stop) depth) (watchedCaller (stopWhen stop) depth) :=
  (wandering stop).covers_watchedCaller depth 0

/-- A run is a path, whether it ends in a state or is stopped there. -/
theorem World.Attains.path {stop : Op → World → Bool} {start w : World} (attained : Attains stop start w)
    (whole : start.machine.base ≤ start.machine.height) : Path (fun _ _ => False) start w := by
  cases attained with
  | @commands depth commands outcome ran =>
    have walked := SessionDiscipline.runAll (covers_wandering stop depth) commands start whole
    have path := walked.path
    rwa [ran] at path
  | @probes depth probes outcome ran =>
    have walked := SessionDiscipline.runAllProbes (covers_wandering stop depth)
      (fun _ _ _ _ => .look (.of_step (.emit _) (.inl rfl))) probes start whole
    have path := walked.path
    rwa [ran] at path

/-! ## The arithmetic of frames -/

/-- What the machine subtracts to address its frame is at most what it subtracts it from, so that the
    results are those of the integers, and what they denote lies in the frame. -/
structure Machine.AddressesFrame (m : Machine) : Prop where
  top : 0 ≤ m.top ∧ m.top = (m.height : Int) - m.base
  index : ∀ {i : Int} {slot : Nat}, m.slotIndex? i = some slot → m.base ≤ slot ∧ slot < m.height ∧
    (slot : Int) = if 0 < i then m.base + i - 1 else m.height + i
  setTop : ∀ i : Int, m.base ≤ (m.setTop i).height ∧
    ((m.setTop i).height : Int) = if 0 ≤ i then m.base + i else max (m.height + i + 1) m.base

theorem Machine.HasSoundFrames.addressesFrame {m : Machine} (sound : m.HasSoundFrames) :
    m.AddressesFrame where
  top := by
    have whole := sound.whole
    rw [Machine.top, frameSize]
    omega
  index {i slot} denotes := by
    have inside := base_le_of_slotIndex? sound.whole denotes
    rw [slotIndex?] at denotes
    by_cases positive : 0 < i
    · simp only [positive, if_true, Option.ite_none_right_eq_some, Option.some.injEq] at denotes ⊢
      omega
    · rw [if_neg positive] at denotes ⊢
      by_cases negative : i < 0
      · rw [if_pos negative, Option.ite_none_right_eq_some, Option.some.injEq, frameSize] at denotes
        omega
      · rw [if_neg negative] at denotes
        cases denotes
  setTop i := by
    have height : (m.setTop i).height =
        (if 0 ≤ i then (m.base + i : Int) else max (m.height + i + 1) m.base).toNat :=
      size_resize _
    split at height <;> omega

/-- What a call may subtract, and what it does to the frames. -/
structure Vm.CallsSoundly (c : Caller) (w : World) (argCount resultCount : Int) (isProtected : Bool) :
    Prop where
  /-- The results that the function claims are on the stack, and unless it has closed the machine its
      frame is there to take them from. -/
  claimed : ∀ {slot code claimed w₁}, w.machine.callee argCount = .ready slot code →
    (c.run code).run (Vm.entered w slot) = (.value claimed, w₁) →
      min claimed (w₁.machine.height - (slot + 1)) ≤ w₁.machine.height ∧
        (w₁.machine.isClosed = false → slot + 1 ≤ w₁.machine.height)
  /-- As many results as are asked for are on the stack. -/
  results : ∀ {w'}, (Vm.call c argCount resultCount isProtected).run w = (.value (), w') →
    resultCount ≠ -1 → resultCount.toNat ≤ w'.machine.height
  /-- However it ends, the frames are sound, and given back if the machine is open. -/
  frames : ∀ {outcome w'}, (Vm.call c argCount resultCount isProtected).run w = (outcome, w') →
    w.machine.KeepsFrames (outcome ≠ .exhausted) w'.machine

theorem Machine.HasSoundFrames.callsSoundly {w : World} (sound : w.machine.HasSoundFrames) {c : Caller}
    (bodies : ∀ code, FramesKept (c.run code)) (argCount resultCount : Int) (isProtected : Bool) :
    Vm.CallsSoundly c w argCount resultCount isProtected where
  claimed {slot code claimed w₁} target ran := by
    refine ⟨by omega, fun isOpen₁ => ?_⟩
    have kept := FramesKept.body bodies sound target
    rw [ran] at kept
    exact FramesKept.slot_lt kept (by simp) isOpen₁
  results {w'} ran fixed := by
    obtain ⟨slot, code, claimed, w₁, -, -, -, -, rfl⟩ := Vm.call_value ran
    simp only [deliver, height, Array.size_append, size_adjust fixed]
    omega
  frames {outcome w'} ran := by
    have kept := FramesKept.call bodies argCount resultCount isProtected w sound
    rw [ran] at kept
    exact kept

/-- What a call of a metamethod may subtract, and what it does to the frames. -/
structure Vm.DrainsSoundly (c : Caller) (w : World) (f : Value) (args : List Value) (resultCount : Nat) :
    Prop where
  /-- The metamethod and its arguments are called where they have been pushed. -/
  call : Vm.CallsSoundly c (Vm.prepared w f args) args.length resultCount false
  /-- If it succeeds, as many results as are asked for are on the stack, whether it has closed the machine
      or not, and these many are taken off. -/
  drained : ∀ {results w'}, (Vm.callValue c f args resultCount).run w = (.value results, w') →
    ∃ w₁, (Vm.call c args.length resultCount false).run (Vm.prepared w f args) = (.value (), w₁) ∧
      resultCount ≤ w₁.machine.height ∧ w'.machine.height = w₁.machine.height - resultCount ∧
      results.length = resultCount
  /-- However it ends, the frames are sound, and given back if the machine is open. -/
  frames : ∀ {outcome w'}, (Vm.callValue c f args resultCount).run w = (outcome, w') →
    w.machine.KeepsFrames (outcome ≠ .exhausted) w'.machine

theorem Machine.HasSoundFrames.drainsSoundly {w : World} (sound : w.machine.HasSoundFrames) {c : Caller}
    (bodies : ∀ code, FramesKept (c.run code)) (f : Value) (args : List Value) (resultCount : Nat) :
    Vm.DrainsSoundly c w f args resultCount := by
  have calls := (sound.prepared f args).callsSoundly bodies args.length resultCount false
  refine ⟨calls, fun {results w'} ran => ?_, fun {outcome w'} ran => ?_⟩
  · rw [Vm.run_callValue] at ran
    rcases called : (Vm.call c args.length resultCount false).run (Vm.prepared w f args) with
      ⟨_ | e | _, w₁⟩ <;> rw [called] at ran <;> cases ran
    -- A number of results is never the one that stands for all of them.
    have enough : resultCount ≤ w₁.machine.height := calls.results called (by omega)
    refine ⟨w₁, rfl, enough, ?_, ?_⟩
    · rw [Vm.cut, height_truncate]
      omega
    · rw [height] at enough
      simp only [Array.length_toList, Array.size_extract, height]
      omega
  · have kept := FramesKept.callValue bodies f args resultCount w sound
    rw [ran] at kept
    exact kept

/-- Wherever a run is stopped that began with nothing running, the frames are sound.  Wherever they are,
    in the midst of an operation too, the machine's arithmetic on them is exact.  From there whatever works
    in the current frame, every operation, and every call of a function or a metamethod leaves them sound,
    and gives them back unless the machine was closed; code that closed it may go on. -/
theorem frame_arithmetic_exact {stop : Op → World → Bool} {start w : World}
    (idle : start.machine.frames = #[]) (attained : World.Attains stop start w) :
    w.machine.HasSoundFrames ∧ w.machine.maxDepth = start.machine.maxDepth ∧
      ∀ v : World, v.machine.HasSoundFrames → v.machine.AddressesFrame ∧
        (∀ {α : Type} {f : Machine → α × Machine}, IsLocal f →
          v.machine.KeepsFrames True (f v.machine).2) ∧
        ∀ (stop' : Op → World → Bool) (depth : Nat), let c := watchedCaller (stopWhen stop') depth
          (∀ (isQuiet : Bool) (op : Op), v.machine.KeepsFrames (((op.run c isQuiet).run v).1 ≠ .exhausted)
            ((op.run c isQuiet).run v).2.machine) ∧
          (∀ (argCount resultCount : Int) (isProtected : Bool),
            Vm.CallsSoundly c v argCount resultCount isProtected) ∧
          ∀ (f : Value) (args : List Value) (resultCount : Nat), Vm.DrainsSoundly c v f args resultCount := by
  obtain ⟨sound, maxDepth⟩ := attained.keepsFrames (.of_idle idle)
  refine ⟨sound, maxDepth, fun v sound => ⟨sound.addressesFrame, fun isLocal => ?_,
    fun stop' depth => ⟨fun isQuiet op => ?_, ?_, ?_⟩⟩⟩
  · exact isLocal.keepsFrames v.machine sound
  · exact (FramesKept.covers stop' depth).runOp isQuiet op v sound
  · exact sound.callsSoundly (FramesKept.covers stop' depth).run
  · exact sound.drainsSoundly (FramesKept.covers stop' depth).run

/-- A function that closes the machine in the midst of a call and goes on. -/
def closingBody : Program :=
  .mk [.close, .pushNil, .pushNil, .isClosed, .setTop (-9)] (some 7) none true

/-- A machine that admits two calls within each other; the inner one closes it. -/
def closingProbes : List Probe :=
  [.op (.pushBoolean true), .op (.pushFunction "outer" (.mk [.pushNil, .pushFunction "inner" closingBody,
    .call 0 2, .pop 1] none none true)), .op (.call 0 (-1))]

def closingStart : World :=
  { machine := .start 2, session := .start {}, host := .empty, events := #[] }

/-- The run, stopped before the named operation. -/
def closingRun (name : String) : Outcome VmError Unit × World :=
  (Probe.runAll (watchedCaller (stopWhen fun op _ => decide (op.name = name)) 2) closingProbes).run
    closingStart

/-- A caller that stops nowhere. -/
def steadfast : Caller := watchedCaller (stopWhen fun _ _ => false) 1

/-- The inner function is called as a metamethod is, for two results. -/
def closingCall : Outcome VmError Unit × World :=
  (Vm.call steadfast 0 2 false).run
    (Vm.prepared closingStart (.function "inner" (.program closingBody)) [])

/-- Before the inner function closes the machine, two frames are open; after that there are none, and the
    functions go on.  Called as a metamethod it leaves nothing, and yet two results are on the stack. -/
theorem frame_arithmetic_exact_after_close :
    (closingRun "close").2.machine.frames = #[2, 4] ∧
      (closingRun "close").2.machine.HasSoundFrames ∧
      (closingRun "is_closed").2.machine.frames = #[] ∧
      (closingRun "is_closed").2.machine.height = 2 ∧
      (closingRun "is_closed").2.machine.HasSoundFrames ∧
      closingCall.2.machine.isClosed = true ∧ 2 ≤ closingCall.2.machine.height := by
  have idle : closingStart.machine.frames = #[] := rfl
  have exact_at (name : String) :=
    frame_arithmetic_exact idle (.probes (Prod.eta (closingRun name)).symm)
  obtain ⟨-, -, exactly⟩ := exact_at "close"
  obtain ⟨-, -, sound⟩ := exactly closingStart (.of_idle idle)
  obtain ⟨-, -, drains⟩ := sound (fun _ _ => false) 1
  have ran : ((Vm.callValue steadfast (.function "inner" (.program closingBody)) [] 2).run
      closingStart).1 = .value [.nil, .nil] := rfl
  obtain ⟨w₁, called, enough, -⟩ := (drains _ [] 2).drained (Prod.ext ran rfl)
  have called : closingCall = (.value (), w₁) := called
  refine ⟨by decide +kernel, (exact_at _).1, by decide +kernel, by decide +kernel, (exact_at _).1,
    by decide +kernel, ?_⟩
  rwa [called]

end ScriptHost
