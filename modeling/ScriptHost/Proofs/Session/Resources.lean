import ScriptHost.Proofs.Session.Shifts
/-!
# The resources of a session

Along every run of commands, the handles, the proxies, the script functions and the chunk of a session
account for every reference of its machine.

Code can spoil this by reaching past the session: by pinning or unpinning references of the machine
itself, by closing the machine, or by editing the metatable of a proxy.  `Op.Meddles` says when an
operation does so.  A run may be stopped before any operation (`stopWhen`), and the theorem is about the
runs that are stopped at the latest before the first operation that meddles.  The states in which a run
can be stopped, between commands and in the midst of nested code, are the states that can be observed.
A run that is not stopped goes as if nobody watched it.
-/

namespace ScriptHost

open World Machine

/-! ## Meddling -/

/-- The operation pins or unpins references itself, all of them by closing the machine, or it edits the
    metatable of a proxy. -/
def Op.Meddles (op : Op) (w : World) : Prop :=
  match op with
  | .reference _ | .releaseReference _ | .close => True
  | .setMeta i => ∃ address, w.machine.valueAt i = .table address ∧ w.IsProxy address
  | .rawSet i _ => ∃ address, w.machine.valueAt i = .table address ∧ w.IsProxyMetatable address
  | .setField i name => ∃ address,
      w.machine.assignee? name Vm.maxChain (w.machine.valueAt i) = some address ∧
        w.IsProxyMetatable address
  | _ => False

theorem Op.Disturbs.meddles {op : Op} {w : World} (disturbs : op.Disturbs w) : op.Meddles w := by
  cases op with
  | reference i => exact trivial
  | releaseReference r => exact trivial
  | _ => exact disturbs

/-! ## Keeping accounts -/

/-- Keeping accounts is a discipline of the runs that are stopped before an operation meddles. -/
def accounting {stop : Op → World → Bool} (watchful : ∀ op w, op.Meddles w → stop op w = true) :
    SessionDiscipline :=
  walking watchful fun _ _ stopped => stopped

/-- In the state to which a run gets that is stopped before code meddles, the session accounts for every
    reference; and if the run was not stopped, it has given back the frames that it found. -/
theorem WalksFrom.accounts {w w' : World} {ε α : Type} {x y : Action World ε α}
    {outcome : Outcome ε α} (walks : WalksFrom Op.Meddles w x y) (ran : x.run w = (outcome, w'))
    (scope : w'.InScope) (accounted : w.IsAccounted) :
    w'.IsAccounted ∧ (outcome ≠ .exhausted → w.machine.GivesBack w'.machine) := by
  obtain ⟨path, _, same, givesBack⟩ := walks accounted.whole
  rw [ran] at path same
  have moves : Moves False 0 w w' := path.moves (fun _ _ => Op.Disturbs.meddles)
    (.inr fun _ _ => trivial) (.inr fun _ _ => trivial)
  obtain ⟨_, shifts, _⟩ := moves.shifts scope accounted.toIsBacked
  refine ⟨shifts.isAccounted accounted, fun ended => ?_⟩
  rw [same ended] at givesBack
  exact givesBack ended

/-! ## Reachable states -/

/-- Nothing is kept in the machine, and the host holds no script function. -/
structure IsFresh (m : Machine) (host : HostStore) : Prop where
  whole : m.base ≤ m.height
  tidy : m.HasTidyRegistry
  references : m.referenceCount = 0
  functions : ∀ number, host.functionReference? number = none

theorem isSteady_openBase : IsSteady fun m => ((), m.openBase) := by
  unfold openBase
  have text := (isSteady_defineGlobal "tostring" (.function "tostring" .toText)).seq
    (isSteady_defineGlobal "type" (.function "type" .typeName))
  have error := text.seq (isSteady_defineGlobal "error" (.function "error" .raise))
  exact error

namespace IsFresh

variable {m : Machine} {host : HostStore}

theorem change (fresh : IsFresh m host) {f : Machine → Machine} (steady : IsSteady fun m => ((), f m)) :
    IsFresh (f m) host where
  whole := steady.staysWhole fresh.whole
  tidy := fresh.tidy.of_eq (steady.registry m) (steady.freeReferences m)
  references := (congrArg (·.countP Option.isSome) (steady.registry m)).trans fresh.references
  functions := fresh.functions

theorem registerChunks (fresh : IsFresh m host) (chunks : List (Bytes × Program)) :
    IsFresh (chunks.foldl (fun m (source, body) => m.registerChunk source body) m) host := by
  induction chunks generalizing m with
  | nil => exact fresh
  | cons chunk rest ih => exact ih ⟨fresh.whole, fresh.tidy.of_eq rfl rfl, fresh.references, fresh.functions⟩

theorem start (maxDepth : Nat) (functions : ∀ number, host.functionReference? number = none) :
    IsFresh (.start maxDepth) host :=
  ⟨Nat.le_refl 0, ⟨List.nodup_nil, nofun⟩, rfl, functions⟩

theorem build (spec : MachineSpec) : IsFresh spec.build .empty := by
  have loaded := (IsFresh.start spec.maxDepth fun _ => rfl : IsFresh _ .empty).registerChunks spec.chunks
  rw [MachineSpec.build]
  split
  · exact loaded.change isSteady_openBase
  · exact loaded

theorem openSession (fresh : IsFresh m host) (options : SessionOptions) :
    (World.openSession options m host).IsAccounted := by
  have opened : IsFresh (World.openSession options m host).machine host := by
    rw [World.openSession]
    split
    · exact fresh.change (isSteady_defineGlobal "print" (.function "print" .print))
    · exact fresh
  have unheld (x : Holder) : (World.openSession options m host).heldBy x = none := by
    cases x with
    | function number => exact fresh.functions number
    | _ => rfl
  refine ⟨⟨opened.whole, HandleStore.isTidy_empty _, ⟨nofun, nofun⟩,
    ⟨opened.tidy, fun {x r} held => ?_, fun {x y r} held _ => ?_⟩, fun _ => rfl⟩, ?_,
    opened.references⟩
  · rw [unheld] at held
    cases held
  · rw [unheld] at held
    cases held
  -- Whatever functions the host once held, all are disposed.
  · refine (Array.countP_eq_zero.2 fun entry member => ?_).symm
    obtain ⟨number, found⟩ := Array.mem_iff_getElem?.1 member
    have listed : host.functions[number]? = some entry := found
    have disposed := fresh.functions number
    rw [HostStore.functionReference?, listed] at disposed
    simpa using disposed

end IsFresh

/-- The stores of a session agree. -/
structure World.IsBalanced (w : World) : Prop where
  /-- An object has at most one live handle. -/
  objects : ∀ t t' o o', w.session.handles.resolve t = .ok (.object o) →
    w.session.handles.resolve t' = .ok (.object o') → o.record = o'.record → t = t'
  /-- A surface has at most one live handle. -/
  surfaces : ∀ t t' s s', w.session.handles.resolve t = .ok (.surface s) →
    w.session.handles.resolve t' = .ok (.surface s') → s.number = s'.number → t = t'
  /-- There is a proxy for each live handle and for no other token. -/
  proxied : ∀ t, (∃ r, w.session.proxies.get? t = some r) ↔
    ∃ entry, w.session.handles.resolve t = .ok entry
  /-- A proxy is a table in the machine, and its metatable holds its token under the reserved key. -/
  carries : ∀ t r, w.session.proxies.get? t = some r →
    ∃ address metatable, w.machine.referenced? r = some (.table address) ∧
      (w.machine.table address).metatable = some metatable ∧
      (w.machine.table metatable).get (utf8Encode "__handle") = .light t
  /-- The references of proxies, script functions and the chunk are live. -/
  live : ∀ x r, w.heldBy x = some r → ∃ v, w.machine.referenced? r = some v
  /-- No two of them are the same. -/
  distinct : ∀ x y r, w.heldBy x = some r → w.heldBy y = some r → x = y
  /-- There are no other references. -/
  count : w.machine.referenceCount =
    w.session.handles.size + w.session.liveFunctions + w.session.pendingChunks

theorem World.IsAccounted.isBalanced {w : World} (accounted : w.IsAccounted) : w.IsBalanced where
  objects t t' o o' first second same := by
    have first := accounted.recorded.objects ((HandleStore.resolve_eq_ok _ _ _).1 first)
    have second := accounted.recorded.objects ((HandleStore.resolve_eq_ok _ _ _).1 second)
    rw [same, second] at first
    exact (Option.some.inj first).symm
  surfaces t t' s s' first second same := by
    have first := accounted.recorded.surfaces ((HandleStore.resolve_eq_ok _ _ _).1 first)
    have second := accounted.recorded.surfaces ((HandleStore.resolve_eq_ok _ _ _).1 second)
    rw [HostStore.publishedToken] at first second
    rw [same, second] at first
    exact (Option.some.inj first).symm
  proxied t := by
    simp only [HandleStore.resolve_eq_ok, ← Option.isSome_iff_exists, accounted.proxied]
  carries t r held := by
    obtain ⟨_, kept, address, rfl, metatable, found, carried⟩ :=
      accounted.backs.kept (x := .proxy t) held
    exact ⟨address, metatable, kept, found, carried⟩
  live x r held := accounted.backs.live held
  distinct x y r := accounted.backs.distinct
  count := accounted.count

/-- In every state that a run of commands on a new session passes through, whether between commands or
    in the midst of nested code, the stores of the session agree as long as it is open.  The run is
    stopped before code meddles, and may be stopped before any operation of a stack program.  If it is
    not stopped, it goes as it does with nobody watching and a greater allowance. -/
theorem resources_balanced {m : Machine} {host : HostStore} (fresh : IsFresh m host)
    (options : SessionOptions) {stop : Op → World → Bool}
    (watchful : ∀ op w, op.Meddles w → stop op w = true) (depth : Nat) (commands : List Command)
    {outcome : Outcome Raised Unit} {w : World}
    (ran : (Command.runAll (watchedCaller (stopWhen stop) depth) commands).run
      (World.openSession options m host) = (outcome, w))
    (isOpen : w.session.isTornDown = false)
    (fits : w.session.handles.slots.size ≤ HandleStore.slotCapacity) :
    w.IsBalanced ∧
      (outcome ≠ .exhausted → ∀ more,
        (Command.runAll (callerAt (depth + more)) commands).run (World.openSession options m host) =
          (outcome, w)) := by
  constructor
  · let D := accounting watchful
    have kept := SessionDiscipline.runAll (D.covers_watchedCaller depth 0) commands
    exact ((kept _).accounts ran ⟨isOpen, fits⟩ (fresh.openSession options)).1.isBalanced
  · intro ended more
    have cut := Command.runAll_isCutOf (stopWhen_isCutOf stop) depth more commands
    have unwatched := cut (World.openSession options m host) (by rw [ran]; exact ended)
    exact unwatched.trans ran

/-- A surface published, a script function taken in, and a chunk loaded. -/
def threeHolders : List Command :=
  [.forward ⟨⟨"Gauge", .plain⟩, "Gauge", [.defaultConstructor]⟩, .bind "f" (.getGlobal "print"),
    .load "main" "return"]

def threeHoldersMachine : MachineSpec := { chunks := [(utf8Encode "return", .mk [] none none true)] }

/-- The run of these commands that is stopped before any edit. -/
def threeHoldersRun : Outcome Raised Unit × World :=
  (Command.runAll (watchedCaller (stopWhen fun op _ => decide op.IsEdit) 1) threeHolders).run
    (World.openSession {} threeHoldersMachine.build .empty)

theorem resources_balanced_three_holders :
    threeHoldersRun.2.IsBalanced ∧ threeHoldersRun.2.session.handles.size = 1 ∧
      threeHoldersRun.2.session.liveFunctions = 1 ∧ threeHoldersRun.2.session.pendingChunks = 1 ∧
      threeHoldersRun.2.machine.referenceCount = 3 ∧
      ∀ more, (Command.runAll (callerAt (1 + more)) threeHolders).run
        (World.openSession {} threeHoldersMachine.build .empty) = threeHoldersRun := by
  have watchful (op : Op) (w : World) (meddles : op.Meddles w) : decide op.IsEdit = true := by
    cases op <;> first | rfl | exact meddles.elim
  have isOpen : threeHoldersRun.2.session.isTornDown = false := by decide +kernel
  have fits : threeHoldersRun.2.session.handles.slots.size ≤ HandleStore.slotCapacity := by
    decide +kernel
  have ran := (Prod.eta threeHoldersRun).symm
  have ended : threeHoldersRun.1 ≠ .exhausted := by decide +kernel
  obtain ⟨balanced, unwatched⟩ := resources_balanced (IsFresh.build threeHoldersMachine) {} watchful 1
    threeHolders ran isOpen fits
  exact ⟨balanced, by decide +kernel, by decide +kernel, by decide +kernel, by decide +kernel,
    fun more => (unwatched ended more).trans (Prod.eta threeHoldersRun)⟩

end ScriptHost
