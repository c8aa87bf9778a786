import ScriptHost.Proofs.Session.Crossing
import ScriptHost.Proofs.Session.Ownership
/-!
# The life of a script function

Each time the host reads a script function it comes to hold it under a number of its own.  From then on
until it is disposed under this number, a push or a call under it is one of the very function that was
read (`World.Serves`), and from then on all that is tried under it is refused (`World.Refuses`).  That
the machine uses the reference again for something else in between, or afterwards, makes no difference.

`functions_kept_apart` says so of everything that can happen in a session while it is open.
-/

namespace ScriptHost

open World Machine

/-! ## What a push leaves on the stack -/

/-- Cutting a frame back to the size it had takes away what was put on it. -/
theorem Machine.setTop_top {m m' : Machine} (whole : m.base ≤ m.height) {values : Array Value}
    (stack : m'.stack = m.stack ++ values) (frames : m'.frames = m.frames) :
    m'.setTop m.top = { m' with stack := m.stack } := by
  have base : m'.base = m.base := congrArg (·.back?.getD 0) frames
  have height : ((m.base : Int) + m.top).toNat = m.stack.size := by
    have size : m.stack.size = m.height := rfl
    rw [size, Machine.top, frameSize]
    omega
  have positive : 0 ≤ m.top := Int.natCast_nonneg _
  rw [setTop, if_pos positive, base, height, resize, stack]
  simp

/-- As many values are popped as were put on the frame. -/
theorem Machine.pop_size {m m' : Machine} (whole : m.base ≤ m.height) {values : Array Value} {count : Int}
    (stack : m'.stack = m.stack ++ values) (frames : m'.frames = m.frames) (size : values.size = count) :
    m'.pop count = { m' with stack := m.stack } := by
  have top : m'.top - count = m.top := by
    have base : m'.base = m.base := congrArg (·.back?.getD 0) frames
    have height : m'.height = m.height + values.size := by
      rw [Machine.height, stack, Array.size_append, Machine.height]
    simp only [Machine.top, frameSize, height, base]
    omega
  rw [pop, top, setTop_top whole stack frames]

theorem Machine.pop_push {m : Machine} (whole : m.base ≤ m.height) (v : Value) : (m.push v).pop 1 = m := by
  have stack : (m.push v).stack = m.stack ++ #[v] := Array.push_eq_append
  have popped : (m.push v).pop 1 = { m.push v with stack := m.stack } := pop_size whole stack rfl rfl
  exact popped

/-- So many values were put on the stack, and the frames are as before. -/
def World.Stacks (w : World) (count : Nat) (w' : World) : Prop :=
  ∃ values : Array Value, values.size = count ∧ w'.machine.stack = w.machine.stack ++ values ∧
    w'.machine.frames = w.machine.frames

namespace World.Stacks

variable {w w₁ w' : World} {count count' : Nat}

theorem refl : w.Stacks 0 w := ⟨#[], rfl, (Array.append_empty).symm, rfl⟩

theorem trans (first : w.Stacks count w₁) (second : w₁.Stacks count' w') : w.Stacks (count + count') w' := by
  obtain ⟨values, size, stack, frames⟩ := first
  obtain ⟨values', size', stack', frames'⟩ := second
  refine ⟨values ++ values', by rw [Array.size_append, size, size'], ?_, frames'.trans frames⟩
  rw [stack', stack, Array.append_assoc]

theorem whole (stacked : w.Stacks count w') (whole : w.machine.base ≤ w.machine.height) :
    w'.machine.base ≤ w'.machine.height := by
  obtain ⟨values, -, stack, frames⟩ := stacked
  rw [base, frames, height, stack, Array.size_append]
  exact Nat.le_trans whole (Nat.le_add_right _ _)

theorem push (v : Value) : w.Stacks 1 { w with machine := w.machine.push v } :=
  ⟨#[v], rfl, Array.push_eq_append, rfl⟩

theorem setTop_top (stacked : w.Stacks count w') (whole : w.machine.base ≤ w.machine.height) :
    w'.machine.setTop w.machine.top = { w'.machine with stack := w.machine.stack } := by
  obtain ⟨values, -, stack, frames⟩ := stacked
  exact Machine.setTop_top whole stack frames

/-- The function below the values is the one that a call with so many arguments calls. -/
theorem calleeIndex? {f : Value} (whole : w.machine.base ≤ w.machine.height)
    (stacked : Stacks { w with machine := w.machine.push f } count w') :
    w'.machine.calleeIndex? count = some w.machine.height ∧
      w'.machine.stack[w.machine.height]? = some f := by
  obtain ⟨values, size, stack, frames⟩ := stacked
  have stack : w'.machine.stack = w.machine.stack.push f ++ values := stack
  have base : w'.machine.base = w.machine.base := congrArg (·.back?.getD 0) frames
  have height : w'.machine.height = w.machine.height + 1 + count := by
    rw [Machine.height, stack, Array.size_append, Array.size_push, size, Machine.height]
  constructor
  · rw [Machine.calleeIndex?, Int.toNat_natCast, if_pos (by omega)]
    exact congrArg some (by omega)
  · rw [stack, Array.getElem?_append_left (by rw [Array.size_push]; exact Nat.lt_succ_self _)]
    exact Array.getElem?_push_size

end World.Stacks

namespace Bridge

variable {w w' : World}

theorem stacks_pinProxy (whole : w.machine.base ≤ w.machine.height) (t : Token) (typeName : String) :
    w.Stacks 1 ((pinProxy t typeName).run w).2 := by
  have added := addsProxy_newProxy whole t typeName
  simp only [pinProxy, Action.run_bind, run_changeMachine, run_onMachine, run_changeSession]
  generalize w.machine.newProxy t typeName = m at added ⊢
  refine ⟨#[.table w.machine.tables.size], rfl, ?_, ?_⟩
  · rw [stack_reference, added.stack, Array.push_eq_append]
  · rw [(isRelative_reference (-1)).frames m, added.frames]

theorem stacks_pushProxy (whole : w.machine.base ≤ w.machine.height) (t : Token) (typeName : String) :
    w.Stacks 1 ((pushProxy t typeName).run w).2 := by
  have pinned := stacks_pinProxy whole t typeName
  cases found : w.session.proxies.get? t with
  | none => simpa [pushProxy, pushPinned, found] using pinned
  | some r =>
    cases kept : w.machine.referenced? r with
    | some v =>
      rw [run_pushProxy_pinned found kept]
      exact .push v
    | none =>
      -- The nil that is pushed in place of it is popped again.
      simpa [pushProxy, pushPinned, found, pushReference, kept, pop_push whole] using pinned

theorem stacks_push (whole : w.machine.base ≤ w.machine.height) {v : HostValue}
    (pushed : (push v).run w = (.value (), w')) : w.Stacks 1 w' := by
  -- A thing is one slot however its proxy came about, under its live token or under a new one.
  have entry (entry : HandleEntry) (pushed : (push entry.toValue).run w = (.value (), w')) :
      w.Stacks 1 w' := by
    rw [run_push_entry] at pushed
    cases found : w.liveToken? entry with
    | some t =>
      simp only [found] at pushed
      have stacked := stacks_pushProxy whole t entry.typeName
      rwa [pushed] at stacked
    | none =>
      simp only [found] at pushed
      cases full : w.session.handles.isFull with
      | true => simp [run_issueProxy_full full] at pushed
      | false =>
        obtain ⟨t, h, served⟩ := HandleStore.alloc_of_room full entry entry.tag
        have stacked := stacks_pushProxy (w := { w with
          session := { w.session with handles := h }, host := w.host.recordToken t entry }) whole t
          entry.typeName
        rw [run_issueProxy_served served] at pushed
        rwa [pushed] at stacked
  cases v with
  | object o => exact entry (.object o) pushed
  | surface s => exact entry (.surface s) pushed
  | function number =>
    simp only [push, Action.run_bind, run_functionReference] at pushed
    cases held : w.host.functionReference? number with
    | none => simp [held] at pushed
    | some r =>
      cases kept : w.machine.referenced? r <;>
        simp only [held, Option.elim_some, run_onMachine, pushReference, kept, Action.run_pure, Prod.mk.injEq,
          true_and] at pushed <;>
        exact pushed ▸ .push _
  | _ =>
    cases pushed
    exact .push _

theorem run_pushProxy_value (w : World) (t : Token) (typeName : String) :
    ∃ w', (pushProxy t typeName).run w = (.value (), w') := by
  cases pinned : w.session.proxies.get? t with
  | none => exact ⟨_, run_pushProxy_new pinned typeName⟩
  | some r =>
    cases kept : w.machine.referenced? r with
    | some v => exact ⟨_, run_pushProxy_pinned pinned kept typeName⟩
    | none => simp [pushProxy, pushPinned, pinProxy, pinned, pushReference, kept]

/-- A push that fails changes nothing. -/
theorem push_cases (w : World) (v : HostValue) :
    (∃ w', (push v).run w = (.value (), w')) ∨ ∃ r, (push v).run w = (.failure r, w) := by
  have entry (entry : HandleEntry) : (∃ w', (push entry.toValue).run w = (.value (), w')) ∨
      ∃ r, (push entry.toValue).run w = (.failure r, w) := by
    rw [run_push_entry]
    cases found : w.liveToken? entry with
    | some t => exact .inl (run_pushProxy_value w t entry.typeName)
    | none =>
      cases full : w.session.handles.isFull with
      | true => exact .inr ⟨_, run_issueProxy_full full entry⟩
      | false =>
        obtain ⟨t, h, served⟩ := HandleStore.alloc_of_room full entry entry.tag
        rw [run_issueProxy_served served]
        exact .inl (run_pushProxy_value _ t entry.typeName)
  cases v with
  | object o => exact entry (.object o)
  | surface s => exact entry (.surface s)
  | function number =>
    cases held : w.host.functionReference? number <;> simp [push, run_functionReference, held]
  | _ => exact .inl ⟨_, rfl⟩

/-- The arguments are all pushed; or some are, and then the frame is cut back to the size. -/
theorem pushAll_cases (whole : w.machine.base ≤ w.machine.height) (size : Int) (args : List HostValue) :
    (∃ w', (pushAll size args).run w = (.value (), w') ∧ w.Stacks args.length w') ∨
      ∃ r n w₁, (pushAll size args).run w =
        (.failure r, { w₁ with machine := w₁.machine.setTop size }) ∧ w.Stacks n w₁ := by
  induction args generalizing w with
  | nil => exact .inl ⟨w, rfl, .refl⟩
  | cons v rest ih =>
    simp only [pushAll, Action.run_bind, Action.run_attempt]
    rcases push_cases w v with ⟨w₁, pushed⟩ | ⟨r, failed⟩
    · have first := stacks_push whole pushed
      rw [pushed]
      rcases ih (first.whole whole) with ⟨w', ran, others⟩ | ⟨r, n, w₂, ran, others⟩
      · have all := first.trans others
        rw [Nat.add_comm] at all
        exact .inl ⟨w', ran, all⟩
      · exact .inr ⟨r, 1 + n, w₂, ran, first.trans others⟩
    · rw [failed]
      exact .inr ⟨r, 0, w, rfl, .refl⟩

theorem stacks_pushAll (whole : w.machine.base ≤ w.machine.height) {size : Int} {args : List HostValue}
    (pushed : (pushAll size args).run w = (.value (), w')) : w.Stacks args.length w' := by
  rcases pushAll_cases whole size args with ⟨w₁, ran, stacked⟩ | ⟨r, n, w₁, ran, -⟩
  · cases ran.symm.trans pushed
    exact stacked
  · cases ran.symm.trans pushed

end Bridge

/-! ## Held functions -/

/-- Under the number the host holds the function: it is what is pushed and what is called. -/
structure World.Serves (w : World) (number : Nat) (f : Value) : Prop where
  push : (Bridge.push (.function number)).run w = (.value (), { w with machine := w.machine.push f })
  /-- A call pushes the function and the arguments, and calls what is below these. -/
  call : ∀ c args, (Bridge.callFunction c number args).run w =
    (Bridge.pushAll w.machine.top args >>= fun _ =>
      Bridge.finishCall c w.machine.top args.length).run { w with machine := w.machine.push f }
  callee : ∀ args w', (Bridge.pushAll w.machine.top args).run { w with machine := w.machine.push f } =
    (.value (), w') →
      ∃ slot, w'.machine.calleeIndex? args.length = some slot ∧ w'.machine.stack[slot]? = some f
  dispose : ∃ w', (Bridge.disposeFunction number).run w = (.value (), w')

/-- Nothing can be done under the number, and trying has no effect. -/
structure World.Refuses (w : World) (number : Nat) : Prop where
  push : (Bridge.push (.function number)).run w = (.failure (.error .disposedFunction), w)
  call : ∀ c args,
    (Bridge.callFunction c number args).run w = (.failure (.error .disposedFunction), w)
  dispose : (Bridge.disposeFunction number).run w = (.failure (.error .disposedFunction), w)

section Held

variable {w : World} {number : Nat}

theorem Machine.pushReference_eq (m : Machine) (r : Nat) :
    (m.pushReference r).2 = m.push ((m.referenced? r).getD .nil) := by
  rw [pushReference]
  cases m.referenced? r <;> rfl

theorem Bridge.run_callFunction {r : Nat} (held : w.host.functionReference? number = some r) (c : Caller)
    (args : List HostValue) : (Bridge.callFunction c number args).run w =
      (Bridge.pushAll w.machine.top args >>= fun _ => Bridge.finishCall c w.machine.top args.length).run
        { w with machine := (w.machine.pushReference r).2 } := by
  simp only [callFunction, Action.run_bind, run_functionReference, held, Option.elim_some, run_askMachine,
    run_onMachine]

theorem World.serves_of_functionOf? (whole : w.machine.base ≤ w.machine.height) {f : Value}
    (holds : w.functionOf? number = some f) : w.Serves number f := by
  obtain ⟨r, held, kept⟩ := Option.bind_eq_some_iff.1 holds
  have pushed (m : Machine) (kept : m.referenced? r = some f) : (m.pushReference r).2 = m.push f := by
    rw [pushReference_eq, kept]
    rfl
  refine ⟨?_, fun c args => ?_, fun args w' ran => ?_, ⟨_, Bridge.run_disposeFunction held⟩⟩
  · simp [Bridge.push, Bridge.run_functionReference, held, pushed _ kept]
  · rw [Bridge.run_callFunction held, pushed _ kept]
  · have whole' := (Stacks.push (w := w) f).whole whole
    exact ⟨_, (Bridge.stacks_pushAll whole' ran).calleeIndex? whole⟩

theorem World.refuses_of_disposed (disposed : w.host.functionReference? number = none) :
    w.Refuses number where
  push := by simp [Bridge.push, Bridge.run_functionReference, disposed]
  call c args := by simp [Bridge.callFunction, Bridge.run_functionReference, disposed]
  dispose := by simp [Bridge.disposeFunction, Bridge.run_functionReference, disposed]

end Held

/-! ## Sessions -/

namespace HostStore

/-- How many script functions were taken in since. -/
def createdSince (host later : HostStore) : Nat := later.functions.size - host.functions.size

/-- How many of those that were taken in since are disposed. -/
def disposedSince (host later : HostStore) : Nat :=
  (later.functions.toList.drop host.functions.size).countP Option.isNone

/-- Where all earlier functions are disposed, those that are not were taken in since. -/
theorem countP_isSome_functions {host later : HostStore} (grows : host.functions.size ≤ later.functions.size)
    (gone : ∀ number, number < host.functions.size → later.functionReference? number = none) :
    later.functions.countP Option.isSome + host.disposedSince later = host.createdSince later := by
  have earlier : (later.functions.toList.take host.functions.size).countP Option.isSome = 0 := by
    refine List.countP_eq_zero.2 fun entry member => ?_
    obtain ⟨number, inside, rfl⟩ := List.getElem_of_mem member
    rw [List.length_take] at inside
    have disposed := gone number (by omega)
    rw [functionReference?, Array.getElem?_eq_getElem (by rw [Array.length_toList] at inside; omega)]
      at disposed
    simpa using disposed
  have parts := congrArg (List.countP Option.isSome)
    (List.take_append_drop host.functions.size later.functions.toList)
  rw [List.countP_append, earlier, Nat.zero_add] at parts
  have both := List.length_eq_countP_add_countP Option.isSome
    (l := later.functions.toList.drop host.functions.size)
  rw [List.length_drop, Array.length_toList] at both
  rw [← Array.countP_toList, ← parts, disposedSince, createdSince, both]
  congr 2
  funext entry
  cases entry <;> rfl

end HostStore

theorem IsFresh.isOwned {m : Machine} {host : HostStore} (fresh : IsFresh m host) (options : SessionOptions) :
    (World.openSession options m host).IsOwned :=
  have accounted := fresh.openSession options
  ⟨accounted.backs.owns, accounted.functions⟩

/-- Once disposed, a script function stays disposed. -/
theorem World.HasDisposed.functionReference?_eq {w w' : World} (owned : w.IsOwned)
    (isOpen : w'.session.isTornDown = false) {number : Nat}
    (disposed : HasDisposed Op.Robs number w w') : w'.host.functionReference? number = none := by
  obtain ⟨w₁, w₂, before, ran, after⟩ := disposed
  have turns := before.turns fun _ _ robs => robs
  have turns' := after.turns fun _ _ robs => robs
  have step : World.Step Op.Robs w₁ w₂ := by
    have ended : ((Bridge.disposeFunction number).run w₁).2 = w₂ := by rw [ran]
    exact ended ▸ .disposeFunction number
  have turned := step.turns fun _ _ robs => robs
  have isOpen₂ := turns'.isOpen isOpen
  have upholds₁ := turns.upholds (turned.isOpen isOpen₂) owned
  have upholds₂ := turned.upholds isOpen₂ upholds₁.owned
  cases held : w₁.host.functionReference? number with
  | none => rw [(World.refuses_of_disposed held).dispose] at ran; cases ran
  | some r =>
    rw [Bridge.run_disposeFunction held] at ran
    obtain ⟨-, rfl⟩ := Prod.mk.inj ran
    refine (turns'.upholds isOpen upholds₂.owned).gone ?_ ?_
    · have listed := HostStore.functions_of_reference held
      obtain ⟨inside, -⟩ := Array.getElem?_eq_some_iff.1 listed
      exact Nat.lt_of_lt_of_le inside upholds₂.grows
    · simp [HostStore.functionReference?_disposeFunction]

/-- At every point of an open session in which code gives up no reference of others: the session counts
    the script functions that were taken in and not disposed; and a function that is read is what is
    pushed and called under its new number until it is disposed under it, after which everything under
    that number is refused and has no effect. -/
theorem functions_kept_apart {m : Machine} {host : HostStore} (fresh : IsFresh m host)
    {options : SessionOptions} {w : World}
    (passed : World.Path Op.Robs (World.openSession options m host) w)
    (isOpen : w.session.isTornDown = false) :
    w.session.liveFunctions + host.disposedSince w.host = host.createdSince w.host ∧
    (∀ number, host.functions.size ≤ number → number < w.host.functions.size →
      (w.host.functionReference? number = none ↔
        World.HasDisposed Op.Robs number (World.openSession options m host) w)) ∧
    ∀ i j, w.machine.readSlot (w.machine.absIndex i) = .function (.slot j) →
      ∃ w₁, (Bridge.read i).run w = (.value (.function w.host.functions.size), w₁) ∧
        host.createdSince w₁.host = host.createdSince w.host + 1 ∧
        ∀ later, World.Path Op.Robs w₁ later → later.session.isTornDown = false →
          (¬ World.HasDisposed Op.Robs w.host.functions.size w₁ later →
            later.Serves w.host.functions.size (w.machine.valueAt j)) ∧
          (World.HasDisposed Op.Robs w.host.functions.size w₁ later →
            later.Refuses w.host.functions.size) := by
  have owned₀ := fresh.isOwned options
  have upholds := (passed.turns fun _ _ robs => robs).upholds isOpen owned₀
  have owned := upholds.owned
  have grows : host.functions.size ≤ w.host.functions.size := upholds.grows
  -- The count is that of the numbers still held since the session began; those before it were already gone.
  refine ⟨?_, fun number since inside => ⟨fun disposed => ?_, fun disposed => ?_⟩, fun i j slot => ?_⟩
  · rw [owned.counted]
    exact HostStore.countP_isSome_functions grows fun number earlier =>
      upholds.gone earlier (fresh.functions number)
  · rcases upholds.ended inside disposed with ended | ⟨earlier, -⟩
    · exact ended
    · exact absurd earlier (Nat.not_lt.2 since)
  · exact disposed.functionReference?_eq owned₀ isOpen
  · have read := Bridge.run_read_function_at slot
    have holds := Bridge.functionOf?_read owned.owns.tidy slot
    have step : World.Step Op.Robs w ((Bridge.read i).run w).2 := .read i
    have created : host.createdSince ((Bridge.read i).run w).2.host = host.createdSince w.host + 1 := by
      rw [read, HostStore.createdSince, HostStore.newFunction, Array.size_push, HostStore.createdSince]
      omega
    have isOpen₁ : ((Bridge.read i).run w).2.session.isTornDown = false := by
      rw [read]
      exact isOpen
    refine ⟨_, Prod.ext (by rw [read]) rfl, created, fun later path isOpen' => ?_⟩
    -- From here on the new number has an owner of its own, so only its own disposal can end it.
    have owned₁ := ((step.turns fun _ _ robs => robs).upholds isOpen₁ owned).owned
    have upholds' := (path.turns fun _ _ robs => robs).upholds isOpen' owned₁
    have whole := World.Path.whole ((passed.tail step).trans path) (fresh.openSession options).whole
    refine ⟨fun undisposed => ?_, fun disposed => ?_⟩
    · exact World.serves_of_functionOf? whole ((upholds'.kept holds).resolve_left undisposed)
    · exact World.refuses_of_disposed (disposed.functionReference?_eq owned₁ isOpen')

/-- The function that prints is on the stack of a new session. -/
def printWorld : World :=
  ((Command.runAll (watchedCaller (stopWhen fun op _ => decide op.IsEdit) 1)
    [.machine [.getGlobal "print"]]).run (World.openSession {} (.start 8) .empty)).2

/-- It was read, and then read again and disposed under the other number. -/
def keptPrintWorld : World :=
  ((Command.runAll (watchedCaller (stopWhen fun op _ => decide op.IsEdit) 1)
    [.bind "f" (.getGlobal "print"), .host (.dispose (.literal (.var "f")))]).run
      ((Bridge.read (-1)).run printWorld).2).2

/-- It was disposed under the first number, and read again after that. -/
def readAgainWorld : World :=
  ((Command.runAll (watchedCaller (stopWhen fun op _ => decide op.IsEdit) 1)
    [.bind "f" (.getGlobal "print")]).run
      ((Bridge.disposeFunction 0).run ((Bridge.read (-1)).run printWorld).2).2).2

/-- The value is the function that prints. -/
def Value.isPrint : Value → Bool
  | .function name .print => decide (name = "print")
  | _ => false

theorem Value.eq_print {v : Value} (isPrint : v.isPrint = true) : v = .function "print" .print := by
  cases v with
  | function name code =>
    cases code with
    | print => rw [of_decide_eq_true isPrint]
    | _ => cases isPrint
  | _ => cases isPrint

/-- The function is served under the first number as long as it is not disposed under it; then that number
    is refused, though its reference is that of the second one. -/
theorem functions_kept_apart_of_print :
    keptPrintWorld.Serves 0 (.function "print" .print) ∧ keptPrintWorld.host.functions.size = 2 ∧
      readAgainWorld.Refuses 0 ∧
      readAgainWorld.host.functionReference? 1 =
        ((Bridge.read (-1)).run printWorld).2.host.functionReference? 0 ∧
      readAgainWorld.session.liveFunctions = 1 := by
  have fresh : IsFresh (.start 8) .empty := .start 8 fun _ => rfl
  have watchful (op : Op) (w : World) (robs : op.Robs w) : decide op.IsEdit = true :=
    decide_eq_true robs.isEdit
  have reached : World.Reaches (fun op _ => decide op.IsEdit) (World.openSession {} (.start 8) .empty)
      printWorld := ⟨1, [.machine [.getGlobal "print"]], _, (Prod.eta _).symm⟩
  have kept : World.Reaches (fun op _ => decide op.IsEdit) ((Bridge.read (-1)).run printWorld).2
      keptPrintWorld :=
    ⟨1, [.bind "f" (.getGlobal "print"), .host (.dispose (.literal (.var "f")))], _, (Prod.eta _).symm⟩
  have again : World.Reaches (fun op _ => decide op.IsEdit)
      ((Bridge.disposeFunction 0).run ((Bridge.read (-1)).run printWorld).2).2 readAgainWorld :=
    ⟨1, [.bind "f" (.getGlobal "print")], _, (Prod.eta _).symm⟩
  have slot : printWorld.machine.readSlot (printWorld.machine.absIndex (-1)) = .function (.slot 1) := by
    decide +kernel
  have print : printWorld.machine.valueAt 1 = .function "print" .print :=
    Value.eq_print (by decide +kernel)
  have isOpen : printWorld.session.isTornDown = false := by decide +kernel
  have isOpen₁ : keptPrintWorld.session.isTornDown = false := by decide +kernel
  have isOpen₂ : readAgainWorld.session.isTornDown = false := by decide +kernel
  have size : printWorld.host.functions.size = 0 := by decide +kernel
  have held : keptPrintWorld.host.functionReference? 0 = some 0 := by decide +kernel
  have disposed : ((Bridge.read (-1)).run printWorld).2.host.functionReference? 0 = some 0 := by
    decide +kernel
  have whole : ((Bridge.read (-1)).run printWorld).2.machine.base ≤
      ((Bridge.read (-1)).run printWorld).2.machine.height := by decide +kernel
  have whole' : ((Bridge.disposeFunction 0).run ((Bridge.read (-1)).run printWorld).2).2.machine.base ≤
      ((Bridge.disposeFunction 0).run ((Bridge.read (-1)).run printWorld).2).2.machine.height := by
    decide +kernel
  suffices both : keptPrintWorld.Serves 0 (.function "print" .print) ∧ readAgainWorld.Refuses 0 from
    ⟨both.1, by decide +kernel, both.2, by decide +kernel, by decide +kernel⟩
  -- The worlds are closed terms, which the tactics below would unfold.
  generalize printWorld = w at *
  generalize keptPrintWorld = keptWorld at *
  generalize readAgainWorld = againWorld at *
  obtain ⟨w₁, read, -, later⟩ := (functions_kept_apart fresh
    (reached.path watchful (fresh.openSession {}).whole) isOpen).2.2 (-1) 1 slot
  have ended : ((Bridge.read (-1)).run w).2 = w₁ := by rw [read]
  rw [ended] at kept again disposed whole whole'
  rw [size, print] at later
  constructor
  · refine (later _ (kept.path watchful whole) isOpen₁).1 fun hasDisposed => ?_
    -- Were it disposed, disposing it again would be refused; but it still holds a reference.
    have refused := ((later _ (kept.path watchful whole) isOpen₁).2 hasDisposed).dispose
    rw [Bridge.run_disposeFunction held] at refused
    cases refused
  · have ran := Bridge.run_disposeFunction disposed
    have path := again.path watchful whole'
    have first : World.Path Op.Robs w₁ ((Bridge.disposeFunction 0).run w₁).2 :=
      .single (.disposeFunction 0)
    exact (later _ (first.trans path) isOpen₂).2 ⟨w₁, _, .refl, Prod.ext (by rw [ran]) rfl, path⟩

end ScriptHost
