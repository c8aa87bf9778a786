import ScriptHost.Proofs.Discipline.Cuts
import ScriptHost.Proofs.Members.Arguments
import ScriptHost.Proofs.Members.HandedCode
/-!
# Calls with a dot and calls with a colon

A script reads a member that can be called as a function bound to the receiver.  Called with a dot the
function finds the arguments in its frame; called with a colon it finds the receiver in front of them, and
leaves it out.  So the arguments that are read are the same, and what is left to tell the two calls apart
is the frame, which is one slot wider.

The frame of the first call is turned into that of the second in two steps: it is moved up by a slot, onto
the receiver (`Isolated.alike_onto`), and then its base is moved back down (`widening`).  At the end the
results are taken from the top of the frame, and all of it is gone (`dot_and_colon_agree`).
-/

namespace ScriptHost

open World Machine ScriptHost.Action

/-! ## The hook of members -/

/-- Whether code that a call of the member may run reaches into the frame of the call. -/
def Session.usesSlots (s : Session) (t : Token) (name : String) : Bool :=
  (s.handles.get? t).any fun entry => (Target.ofEntry entry).usesSlots name

namespace Bridge

variable {c : Caller} {w : World} {t : Token} {name : String}

/-- Calls a member on arguments that have been read, and pushes what it returns. -/
def serveMember (c : Caller) (receiver : Token) (name : String) (args : List HostValue) : Bridge Nat := do
  let target ← Target.resolve receiver
  pushResult (← target.invokeMember c name args)

theorem run_memberHook (w : World) : (memberHook c t name).run w =
    (readArgs (if w.machine.handleOf? 1 = some t then 2 else 1) >>= serveMember c t name).run w := by
  simp only [memberHook, serveMember, Action.run_bind, run_askMachine, decide_eq_true_eq]

theorem resolve_value {target : Target} {w' : World} (ran : (Target.resolve t).run w = (.value target, w')) :
    ∃ entry, w.session.handles.get? t = some entry ∧ target = .ofEntry entry := by
  simp only [Target.resolve, HandleStore.resolve_eq, Action.run_bind, run_askSession] at ran
  cases found : w.session.handles.get? t with
  | some entry =>
    rw [found] at ran
    cases ran
    exact ⟨entry, rfl, rfl⟩
  | none =>
    rw [found] at ran
    cases ran

section Covered

variable (covers : isolation.Covers c c)

include covers

theorem isolated_invoke (args : List HostValue) (target : Target) :
    Isolated (target.invokeMember c name args >>= pushResult) :=
  Isolated.seq (covers.invokeMember name args target) isolation.pushResult

theorem isolated_serveMember (args : List HostValue) : Isolated (serveMember c t name args) :=
  Isolated.seq (isolation.resolveTarget t) (isolated_invoke covers args)

variable (serves : widening.Serves False c c)

include serves

/-- In a frame that begins with the receiver the hook does what it does in the one that begins after it. -/
theorem memberHook_alike {frames : Array Nat} (wide : Widens frames w.machine)
    (other : w.machine.handleOf? 1 ≠ some t) (own : (w.reframed frames).machine.handleOf? 1 = some t)
    (handed : w.session.usesSlots t name = false) :
    Alike (·.reframed frames) ((memberHook c t name).run w)
      ((memberHook c t name).run (w.reframed frames)) := by
  have serve (args : List HostValue) : Isolated (serveMember c t name args) := isolated_serveMember covers args
  rw [run_memberHook, run_memberHook, if_neg other, if_pos own]
  refine (WidensTo.readArgs.widens w).seq WidensTo.readArgs.narrow serve serve (fun args w₁ ran₁ _ _ => ?_)
    frames wide
  -- To read the arguments issues no handle, so the receiver is the one of the call.
  obtain ⟨_, w₂, ran₂, -, taken⟩ := run_readArgs Int.one_pos w
  cases ran₁.symm.trans ran₂
  have resolve : (Target.resolve t).WidensTo (Target.resolve t) := widening.resolveTarget t
  have invoke (target : Target) : Isolated (target.invokeMember c name args >>= pushResult) :=
    isolated_invoke covers args target
  refine (resolve.widens w₁).seq resolve.narrow invoke invoke fun target w₂ resolved _ _ => ?_
  obtain ⟨entry, found, rfl⟩ := resolve_value resolved
  rw [taken.get?_eq] at found
  have unused : (Target.ofEntry entry).usesSlots name = false := by
    rwa [Session.usesSlots, found, Option.any_some] at handed
  have invoked : ((Target.ofEntry entry).invokeMember c name args).WidensTo _ :=
    serves.invokeMember name args _ fun used => by simp [unused] at used
  exact (invoked.seq widening.pushResult).widens w₂

end Covered

end Bridge

/-! ## Results -/

/-- Wherever the action gives a number of results, its frame holds as many. -/
def Action.Delivers {ε : Type} (x : Action World ε Nat) : Prop :=
  ∀ {w w' : World} {claimed : Nat}, w.machine.base ≤ w.machine.height → x.run w = (.value claimed, w') →
    w'.machine.isClosed = false → claimed ≤ w'.machine.frameSize

theorem Action.Delivers.seq {ε α : Type} {x : Action World ε α} {f : α → Action World ε Nat}
    (isolated : Isolated x) (later : ∀ a, Isolated (f a)) (delivers : ∀ a, (f a).Delivers) :
    (x >>= f).Delivers := by
  intro w w' claimed whole ran isOpen
  rw [run_bind] at ran
  rcases ran₁ : x.run w with ⟨a | _ | _, w₁⟩ <;> rw [ran₁] at ran
  · have keeps := isolated.keeps ran₁ whole (by simp) ((later a).isOpen ran isOpen)
    exact delivers a keeps.staysWhole ran isOpen
  · cases ran
  · cases ran

theorem Action.Delivers.reword {ε ε' : Type} {x : Action World ε Nat} (f : ε → ε') (delivers : x.Delivers) :
    (Action.mapFailure f x).Delivers := by
  intro w w' claimed whole ran isOpen
  rw [run_mapFailure] at ran
  rcases ran₁ : x.run w with ⟨_ | _ | _, w₁⟩ <;> rw [ran₁] at ran <;> cases ran
  exact delivers whole ran₁ isOpen

namespace Bridge

theorem delivers_pushResult (result : Option HostValue) : (pushResult result).Delivers := by
  intro w w' claimed whole ran _
  cases result with
  | none =>
    cases ran
    exact Nat.zero_le _
  | some v =>
    rw [pushResult, Action.run_bind] at ran
    rcases pushed : (push v).run w with ⟨_ | _ | _, w₁⟩ <;> rw [pushed] at ran <;> cases ran
    obtain ⟨values, size, stack, frames⟩ := stacks_push whole pushed
    rw [frameSize, Machine.base, frames, height, stack, Array.size_append, size]
    rw [Machine.base, height] at whole
    omega

theorem delivers_memberHook {c : Caller} (covers : isolation.Covers c c) (t : Token) (name : String) :
    (memberHook c t name).Delivers := by
  intro w w' claimed whole ran isOpen
  rw [run_memberHook] at ran
  have serve (args : List HostValue) : (serveMember c t name args).Delivers :=
    Delivers.seq (isolation.resolveTarget t) (isolated_invoke covers args) fun target =>
      Delivers.seq (covers.invokeMember name args target) (fun result => isolation.pushResult result)
        delivers_pushResult
  exact Delivers.seq (Discipline.readArgs (D := isolation) _) (isolated_serveMember covers) serve whole ran
    isOpen

end Bridge

/-! ## Frames with a value more -/

namespace World

/-- The second world, in which a function runs that was called in the first one, with the frame of the
    function moved up on top of one value more. -/
def ontoFirst (w : World) (f first : Value) (v : World) : World :=
  v.onto ((w.machine.stack.push f).push first) (w.machine.frames.push (w.machine.height + 2))

/-- The same with that value as the first one of the frame. -/
def insertFirst (w : World) (f first : Value) (v : World) : World :=
  (w.ontoFirst f first v).reframed (w.machine.frames.push (w.machine.height + 1))

variable {w v : World} {f first : Value} {args : List Value}

theorem stack_insertFirst {frame : Array Value} (base : v.machine.base = w.machine.height + 1)
    (stack : v.machine.stack = w.machine.stack.push f ++ frame) :
    (w.insertFirst f first v).machine.stack = w.machine.stack.push f ++ (#[first] ++ frame) := by
  have size : (w.machine.stack.push f).size = v.machine.base := (Array.size_push f).trans base.symm
  show rebase v.machine.base ((w.machine.stack.push f).push first) v.machine.stack = _
  rw [stack, rebase_of_size size, ← Array.append_assoc, ← Array.push_eq_append]

/-- A function that is called with a value more in front finds it there. -/
theorem insertFirst_started :
    w.insertFirst f first (Vm.started w f args) = Vm.started w f (first :: args) := by
  have base : (Vm.started w f args).machine.base = w.machine.height + 1 := Vm.base_entered _ _
  have stack : (w.insertFirst f first (Vm.started w f args)).machine.stack =
      w.machine.stack.push f ++ (#[first] ++ args.toArray) := stack_insertFirst base rfl
  have same : #[first] ++ args.toArray = (first :: args).toArray := by simp
  rw [same] at stack
  exact congrArg (fun stack => ({ w with machine := { w.machine with
    stack, frames := w.machine.frames.push (w.machine.height + 1) } } : World)) stack

theorem handleOf?_started :
    (Vm.started w f args).machine.handleOf? 1 = args.head?.bind w.machine.tokenOf? := by
  have first : (Vm.started w f args).machine.valueAt 1 = args.head?.getD .nil := by
    cases args with
    | nil =>
      have height : (Vm.started w f []).machine.height = w.machine.height + 1 := Vm.height_prepared
      have empty : (Vm.started w f []).machine.slotIndex? 1 = none := by
        rw [slotIndex?, if_pos Int.one_pos, Vm.base_entered, height, if_neg (by omega)]
      rw [valueAt, empty]
      rfl
    | cons v vs =>
      have inFront : (v :: vs)[0]? = some v := rfl
      exact Vm.valueAt_started inFront
  have index : (Vm.started w f args).machine.absIndex 1 = 1 := rfl
  rw [handleOf?, index, first]
  cases args <;> rfl

theorem whole_started : (Vm.started w f args).machine.base ≤ (Vm.started w f args).machine.height := by
  have height : (Vm.started w f args).machine.height = w.machine.height + 1 + args.length :=
    Vm.height_prepared
  rw [Vm.base_entered, height]
  exact Nat.le_add_right _ _

theorem fits_started : Fits ((w.machine.stack.push f).push first)
    (w.machine.frames.push (w.machine.height + 2)) (Vm.started w f args).machine := by
  refine ⟨?_, ?_, whole_started⟩
  · rw [Array.back?_push, Option.getD_some, Array.size_push, Array.size_push, Machine.height]
  · show _ = (w.machine.frames.push (w.machine.height + 1)).size
    rw [Array.size_push, Array.size_push]

/-- A frame that lies on top of a value can be made wider by it. -/
theorem widens_ontoFirst : Widens (w.machine.frames.push (w.machine.height + 1))
    (w.ontoFirst f first (Vm.started w f args)).machine := by
  have base : (w.ontoFirst f first (Vm.started w f args)).machine.base = w.machine.height + 2 := by
    rw [ontoFirst, onto, base_onto fits_started, Array.size_push, Array.size_push, Machine.height]
  have height : (w.ontoFirst f first (Vm.started w f args)).machine.height =
      w.machine.height + 2 + (Vm.started w f args).machine.frameSize := by
    rw [ontoFirst, onto, height_onto, Array.size_push, Array.size_push, Machine.height]
  refine ⟨by rw [base, Array.back?_push, Option.getD_some], ?_, by omega⟩
  show _ = (w.machine.frames.push (w.machine.height + 2)).size
  rw [Array.size_push, Array.size_push]

end World

section BoundCalls

variable {w : World} {t : Token} {name : String} {f first : Value} {args : List Value}

/-- A member that is called with its receiver in front does what it does without. -/
theorem Bridge.memberHook_alike_insertFirst {c : Caller} (covers : isolation.Covers c c)
    (serves : widening.Serves False c c) (carries : w.machine.tokenOf? first = some t)
    (other : args.head?.bind w.machine.tokenOf? ≠ some t) (handed : w.session.usesSlots t name = false) :
    Alike (w.insertFirst f first) ((memberHook c t name).run (Vm.started w f args))
      ((memberHook c t name).run (Vm.started w f (first :: args))) := by
  -- First the frame is moved up by a slot, onto the receiver; then its base is moved back down.
  have moved : Alike (w.ontoFirst f first) ((memberHook c t name).run (Vm.started w f args))
      ((memberHook c t name).run (w.ontoFirst f first (Vm.started w f args))) :=
    Isolated.alike_onto (covers.memberHook t name) whole_started fits_started
  have isOther : (w.ontoFirst f first (Vm.started w f args)).machine.handleOf? 1 ≠ some t := by
    rw [ontoFirst, World.onto, handleOf?_onto fits_started, handleOf?_started]
    exact other
  have own : (w.insertFirst f first (Vm.started w f args)).machine.handleOf? 1 = some t := by
    rw [insertFirst_started, handleOf?_started]
    exact carries
  have widened := memberHook_alike covers serves widens_ontoFirst isOther own handed
  have inserted : (w.ontoFirst f first (Vm.started w f args)).reframed
      (w.machine.frames.push (w.machine.height + 1)) = _ := insertFirst_started
  rw [inserted] at widened
  exact moved.trans widened (fun _ => rfl) fun _ => rfl

/-! ## Calls of bound members -/

/-- What a script reads for a member that can be called: a function bound to the token of the receiver
    (`Bridge.readHook`). -/
def Value.bound (t : Token) (name : String) : Value := .function name (.callMember t name)

/-- Called with the arguments the member ends, within so many levels of nested code, and leaves the machine
    open; and no host function is applied in its frame that reaches into this. -/
def World.Completes (depth : Nat) (w : World) (t : Token) (name : String) (args : List Value) : Prop :=
  ¬ IsLost (((NativeCode.callMember t name).run (handedCaller depth)).run
    (Vm.started w (.bound t name) args))

instance (depth : Nat) (w : World) (t : Token) (name : String) (args : List Value) :
    Decidable (w.Completes depth t name args) :=
  inferInstanceAs (Decidable (¬ (_ ∨ _)))

theorem NativeCode.callMember_alike (depth : Nat) (carries : w.machine.tokenOf? first = some t)
    (other : args.head?.bind w.machine.tokenOf? ≠ some t) (handed : w.session.usesSlots t name = false) :
    Alike (w.insertFirst f first)
      (((callMember t name).run (handedCaller depth)).run (Vm.started w f args))
      (((callMember t name).run (handedCaller depth)).run (Vm.started w f (first :: args))) := by
  have alike := Bridge.memberHook_alike_insertFirst (f := f) (isolation_covers_handedCaller depth)
    (widening_serves_handedCaller depth) carries other handed
  simp only [NativeCode.run, Bridge.inNative, run_mapFailure_eq]
  exact alike.of_outcome _ rfl

/-! ### What a call leaves -/

/-- After a function has ended the frames are those that it was called in. -/
theorem Machine.left_stacked {m : Machine} {below frame : Array Value} {frames : Array Nat}
    (stack : m.stack = below.push f ++ frame) (entered : m.frames = frames.push (below.size + 1))
    {outcome : Outcome String Nat} (ended : outcome ≠ .exhausted) (resultCount : Int) (isProtected : Bool) :
    m.left frames.size below.size resultCount isProtected outcome =
      { m with stack := settled below f frame resultCount isProtected outcome, frames } := by
  rw [left_eq, stack_left stack, frames_left entered ended]

theorem shrink_settled (below frame : Array Value) (f : Value) (resultCount : Int) (isProtected : Bool)
    (outcome : Outcome String Nat) :
    (settled below f frame resultCount isProtected outcome).shrink below.size = below := by
  cases outcome with
  | value claimed => simp [settled]
  | failure text =>
    cases isProtected with
    | true => simp [settled]
    | false => exact shrink_below below f frame
  | exhausted => exact shrink_below below f frame

/-- What lies below the results makes no difference, unless the whole frame is left in place. -/
theorem settled_append {below extra frame : Array Value} {outcome : Outcome String Nat}
    (claims : ∀ claimed, outcome = .value claimed → claimed ≤ frame.size) (ended : outcome ≠ .exhausted)
    {isProtected : Bool} (settles : Vm.outcomeOf outcome = .value () ∨ isProtected = true) (resultCount : Int) :
    settled below f (extra ++ frame) resultCount isProtected outcome =
      settled below f frame resultCount isProtected outcome := by
  cases outcome with
  | value claimed =>
    have inside := claims claimed rfl
    have first : extra.size + frame.size - claimed = extra.size + (frame.size - claimed) := by omega
    -- The results are taken from the end, and there are enough of them without what lies below.
    have low : extra.extract (extra.size + (frame.size - claimed)) (extra.size + frame.size) = #[] := by
      rw [Array.extract_eq_empty_iff]
      omega
    simp only [settled, Array.size_append]
    rw [Nat.min_eq_left inside, Nat.min_eq_left (by omega), first, Array.extract_append, low,
      Array.empty_append, Nat.add_sub_cancel_left, Nat.add_sub_cancel_left]
  | failure text =>
    have isProtected := settles.resolve_left (by simp [Vm.outcomeOf])
    rw [isProtected]
    rfl
  | exhausted => exact absurd rfl ended

/-- Two calls of a function at a height end in the same way and leave the same world; if they fail and are
    not protected, but for what they leave above that height. -/
structure Vm.SettleAlike (height : Nat) (isProtected : Bool) (ran ran' : Outcome VmError Unit × World) :
    Prop where
  ended : ran.1 ≠ .exhausted
  outcome : ran'.1 = ran.1
  cut : Vm.cut ran'.2 height = Vm.cut ran.2 height
  world : ran.1 = .value () ∨ isProtected = true → ran'.2 = ran.2

/-- With too many functions running none is called, whatever the arguments. -/
theorem settleAlike_of_full {c : Caller} {code : NativeCode} (whole : w.machine.base ≤ w.machine.height)
    (isOpen : w.machine.isClosed = false) (full : w.machine.maxDepth ≤ w.machine.depth) (args' : List Value)
    (resultCount : Int) (isProtected : Bool) :
    Vm.SettleAlike w.machine.height isProtected
      ((Vm.call c args.length resultCount isProtected).run (Vm.prepared w (.function name code) args))
      ((Vm.call c args'.length resultCount isProtected).run (Vm.prepared w (.function name code) args')) := by
  have refused (args : List Value) :
      (Vm.call c args.length resultCount isProtected).run (Vm.prepared w (.function name code) args) =
        (.failure .stackOverflow, if isProtected then w else Vm.prepared w (.function name code) args) := by
    have callee : (Vm.prepared w (.function name code) args).machine.callee args.length =
        .refused w.machine.height .stackOverflow :=
      (Vm.callee_prepared_eq whole isOpen name code).trans (if_pos full)
    have removed : ({ Vm.prepared w (.function name code) args with
        machine := (Vm.prepared w (.function name code) args).machine.truncate w.machine.height } : World) = w :=
      Vm.cut_prepared
    rw [Vm.run_call, callee]
    simp only [removed]
  rw [refused, refused]
  refine ⟨by simp, rfl, ?_, fun settles => ?_⟩
  · cases isProtected with
    | true => rfl
    | false => exact Vm.cut_prepared.trans Vm.cut_prepared.symm
  · rw [settles.resolve_left (by simp)]
    rfl

/-- The second world with the frames of the first one and some stack. -/
def World.settle (w v : World) (stack : Array Value) : World :=
  { v with machine := { v.machine with stack, frames := w.machine.frames } }

/-- The call of a function that ran to an end. -/
theorem run_call_of_ran {c : Caller} {code : NativeCode} {v : World} {outcome : Outcome String Nat}
    {frame : Array Value} (whole : w.machine.base ≤ w.machine.height) (isOpen : w.machine.isClosed = false)
    (room : w.machine.depth < w.machine.maxDepth)
    (ran : (c.run code).run (Vm.started w (.function name code) args) = (outcome, v))
    (stack : v.machine.stack = w.machine.stack.push (.function name code) ++ frame)
    (entered : v.machine.frames = w.machine.frames.push (w.machine.height + 1)) (ended : outcome ≠ .exhausted)
    (resultCount : Int) (isProtected : Bool) :
    (Vm.call c args.length resultCount isProtected).run (Vm.prepared w (.function name code) args) =
      (Vm.outcomeOf outcome, w.settle v
        (settled w.machine.stack (.function name code) frame resultCount isProtected outcome)) := by
  have callee : (Vm.prepared w (.function name code) args).machine.callee args.length =
      .ready w.machine.height code := Vm.callee_prepared whole isOpen room
  have left : v.machine.left w.machine.depth w.machine.height resultCount isProtected outcome = _ :=
    left_stacked stack entered ended resultCount isProtected
  rw [Vm.run_call, callee]
  simp only [Vm.run_runFrame, ran]
  show (Vm.outcomeOf outcome, ({ v with
    machine := v.machine.left w.machine.depth w.machine.height resultCount isProtected outcome } : World)) = _
  rw [left]
  rfl

theorem World.cut_settle (v : World) (f : Value) (frame : Array Value) (resultCount : Int)
    (isProtected : Bool) (outcome : Outcome String Nat) :
    Vm.cut (w.settle v (settled w.machine.stack f frame resultCount isProtected outcome)) w.machine.height =
      w.settle v w.machine.stack := by
  have shrunk := shrink_settled w.machine.stack frame f resultCount isProtected outcome
  simp only [Vm.cut, truncate, World.settle, Machine.height, shrunk]

/-- A function ran in two frames of which the one has a value more in front, and left all the results that
    it claims. -/
theorem settleAlike_of_ran {depth : Nat} {code : NativeCode} {v : World} {outcome : Outcome String Nat}
    (whole : w.machine.base ≤ w.machine.height) (isOpen : w.machine.isClosed = false)
    (room : w.machine.depth < w.machine.maxDepth)
    (ran : ((callerAt depth).run code).run (Vm.started w (.function name code) args) = (outcome, v))
    (ran' : ((callerAt depth).run code).run (Vm.started w (.function name code) (first :: args)) =
      (outcome, w.insertFirst (.function name code) first v))
    (ended : outcome ≠ .exhausted) (isOpen₁ : v.machine.isClosed = false)
    (claims : ∀ claimed, outcome = .value claimed → claimed ≤ v.machine.frameSize)
    (resultCount : Int) (isProtected : Bool) :
    Vm.SettleAlike w.machine.height isProtected
      ((Vm.call (callerAt depth) args.length resultCount isProtected).run
        (Vm.prepared w (.function name code) args))
      ((Vm.call (callerAt depth) (first :: args).length resultCount isProtected).run
        (Vm.prepared w (.function name code) (first :: args))) := by
  have about : AboutToCall (Vm.prepared w (.function name code) args).machine w.machine.stack name code
      args.toArray := ⟨rfl, whole, room, isOpen⟩
  obtain ⟨frames, frame, stack⟩ := about.stack_ran ran ended isOpen₁
  have base : v.machine.base = w.machine.height + 1 := by
    rw [Machine.base, frames, Array.back?_push]
    rfl
  have size : v.machine.frameSize = frame.size := by
    rw [frameSize, base, Machine.height, stack, Array.size_append, Array.size_push]
    exact Nat.add_sub_cancel_left _ _
  -- With no more results claimed than are left, the value in front is never one of them.
  rw [size] at claims
  have left := run_call_of_ran whole isOpen room ran stack frames ended resultCount isProtected
  have left' := run_call_of_ran whole isOpen room ran' (stack_insertFirst base stack) rfl ended resultCount
    isProtected
  rw [left, left']
  refine ⟨fun exhausted => ?_, rfl, ?_, fun settles => ?_⟩
  · cases outcome with
    | exhausted => exact ended rfl
    | _ => cases exhausted
  · rw [World.cut_settle, World.cut_settle]
    rfl
  · rw [settled_append claims ended settles]
    rfl

/-! ## Both calls -/

/-- Whatever the receiver and the member are, and whatever the arguments, as long as the first of them does
    not carry the token of the receiver: the call with the arguments alone completes exactly if the call with
    the receiver in front of them does.  Then the two end in the same way, with the same results or with the
    same error, and leave the same world.  All that can differ is what a call that fails without protection
    leaves on the stack, which is its function and all above it. -/
theorem dot_and_colon_agree (depth : Nat) {proxy : Value} (whole : w.machine.base ≤ w.machine.height)
    (carries : w.machine.tokenOf? proxy = some t) (other : args.head?.bind w.machine.tokenOf? ≠ some t)
    (handed : w.session.usesSlots t name = false) :
    (w.Completes depth t name args ↔ w.Completes depth t name (proxy :: args)) ∧
      (w.Completes depth t name args → ∀ (resultCount : Int) (isProtected : Bool),
        Vm.SettleAlike w.machine.height isProtected
          ((Vm.call (callerAt (depth + 1)) args.length resultCount isProtected).run
            (Vm.prepared w (.bound t name) args))
          ((Vm.call (callerAt (depth + 1)) (proxy :: args).length resultCount isProtected).run
            (Vm.prepared w (.bound t name) (proxy :: args)))) := by
  have alike := NativeCode.callMember_alike (f := .bound t name) depth carries other handed
  have isolated : Isolated ((NativeCode.callMember t name).run (handedCaller depth)) :=
    (isolation_covers_handedCaller depth).runNative (.callMember t name)
  have delivers : ((NativeCode.callMember t name).run (handedCaller depth)).Delivers :=
    Delivers.reword _ (Bridge.delivers_memberHook (isolation_covers_handedCaller depth) t name)
  have cut : ((NativeCode.callMember t name).run (handedCaller depth)).IsCutOf
      ((callerAt (depth + 1)).run (.callMember t name)) :=
    ((cutting fun _ => .refl _).covers_handedCaller depth rfl rfl fun y => .exhaust y).runNative _
  rw [World.Completes, World.Completes]
  generalize (NativeCode.callMember t name).run (handedCaller depth) = member at *
  rcases ran : member.run (Vm.started w (.bound t name) args) with ⟨outcome, v⟩
  rcases ran' : member.run (Vm.started w (.bound t name) (proxy :: args)) with ⟨outcome', v'⟩
  rw [ran, ran'] at alike
  cases alike with
  -- Both may be lost together, by exhaustion or by closing the machine; then neither completes.
  | lost lost lost' =>
    exact ⟨⟨fun kept => absurd lost kept, fun kept => absurd lost' kept⟩, fun kept => absurd lost kept⟩
  | same =>
    refine ⟨Iff.rfl, fun kept resultCount isProtected => ?_⟩
    obtain ⟨ended, isOpen₁⟩ := not_isLost_iff.1 kept
    have isOpen : w.machine.isClosed = false :=
      isolated.isOpen (w := Vm.started w (.bound t name) args) ran isOpen₁
    by_cases room : w.machine.depth < w.machine.maxDepth
    · -- What ended with a caller that applies fewer functions ends in the same way with the full one.
      have ran₁ := (cut _ (by rw [ran]; exact ended)).trans ran
      have ran₂ := (cut _ (by rw [ran']; exact ended)).trans ran'
      have claims (claimed : Nat) (returned : outcome = .value claimed) : claimed ≤ v.machine.frameSize := by
        rw [returned] at ran
        exact delivers whole_started ran isOpen₁
      exact settleAlike_of_ran whole isOpen room ran₁ ran₂ ended isOpen₁ claims resultCount isProtected
    · exact settleAlike_of_full whole isOpen (Nat.not_lt.1 room) (proxy :: args) resultCount isProtected

/-- A gauge calls the function that it is handed. -/
def relaySpec : TypeSpec :=
  ⟨⟨"Gauge", .plain⟩, "Gauge", [.method "Relay" ⟨⟨[.function], true⟩, false, .call (.arg 0) []⟩]⟩

/-- A gauge has been published. -/
def relayWorld : World :=
  ((Command.runAll (callerAt 8) [.forward relaySpec,
    .bind "gauge" (.pushObject "gauge" ⟨"Gauge", .plain⟩ [])]).run (World.openSession {} (.start 8) .empty)).2

/-- The token that it was issued. -/
def relayToken : Token := ⟨1, 1, 1⟩

/-- The call of its method with arguments, after which one result is left. -/
def relayRun (args : List Value) : Outcome VmError Unit × World :=
  (Vm.call (callerAt 5) args.length 1 false).run (Vm.prepared relayWorld (.bound relayToken "Relay") args)

/-- A function that answers with a boolean. -/
def answeringFunction : Value := .function "answer" (.program (.mk [.pushBoolean true] none none true))

/-- The gauge is handed a function that answers, with a dot and with a colon. -/
theorem dot_and_colon_agree_on_gauge :
    relayWorld.machine.tokenOf? (relayWorld.machine.global "gauge") = some relayToken ∧
      Vm.SettleAlike relayWorld.machine.height false (relayRun [answeringFunction])
        (relayRun [relayWorld.machine.global "gauge", answeringFunction]) ∧
      ((relayRun [answeringFunction]).2.machine.valueAt (-1)).typeName = "boolean" := by
  have carries : relayWorld.machine.tokenOf? (relayWorld.machine.global "gauge") = some relayToken := by
    decide +kernel
  have other : [answeringFunction].head?.bind relayWorld.machine.tokenOf? ≠ some relayToken := by
    simp [answeringFunction, tokenOf?]
  have handed : relayWorld.session.usesSlots relayToken "Relay" = false := by decide +kernel
  have completes : relayWorld.Completes 4 relayToken "Relay" [answeringFunction] := by decide +kernel
  obtain ⟨-, agree⟩ := dot_and_colon_agree 4 (by decide +kernel) carries other handed
  exact ⟨carries, agree completes 1 false, by decide +kernel⟩

/-- A function that closes the machine and then pushes values, of which it answers with one. -/
def closingFunction : Value :=
  .function "close" (.program (.mk [.close, .pushBoolean true, .pushBoolean true, .pushBoolean true,
    .pushBoolean true] (some 1) none true))

/-- The gauge is handed a function that closes the machine.  Its frames are gone then, and whether what the
    function pushed reaches up to where its frame began is a matter of one slot: with a dot the result is a
    boolean, and with a colon it is nil. -/
theorem dot_and_colon_differ_once_closed :
    (relayWorld.session.handles.get? relayToken).isSome = true ∧
      relayWorld.session.usesSlots relayToken "Relay" = false ∧
      relayWorld.machine.tokenOf? (relayWorld.machine.global "gauge") = some relayToken ∧
      relayWorld.machine.tokenOf? closingFunction = none ∧
      (relayRun [closingFunction]).1.value? = some () ∧
      ((relayRun [closingFunction]).2.machine.valueAt (-1)).typeName = "boolean" ∧
      (relayRun [relayWorld.machine.global "gauge", closingFunction]).1.value? = some () ∧
      ((relayRun [relayWorld.machine.global "gauge", closingFunction]).2.machine.valueAt (-1)).typeName =
        "nil" := by
  decide +kernel

end BoundCalls

end ScriptHost
