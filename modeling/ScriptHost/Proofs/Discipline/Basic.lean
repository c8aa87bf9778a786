import ScriptHost.Proofs.Machine.Frames
import ScriptHost.Bridge.Native
/-!
# Disciplines

A discipline is a property that every action of a run has: the elementary operations of the machine,
the bridge and the host have it, and it survives sequencing.  A `Discipline` collects these closure
conditions, one for each operation that is elementary to the evaluators, so that the walk through the
evaluators is made once.

Nested code enters through the `Caller`.  So that two callers can be compared, a discipline relates the
actions that code makes of the one to those that it makes of the other; a property of single actions
looks at the first alone.  The callers are covered if what they run is related.

Operations that reach past the bridge, to references or to the contents of tables, are the edits.  Their
condition may rely on what is done before an operation, which is how a discipline can be one of
watched runs.
-/

namespace ScriptHost

/-! ## Outcomes made of others -/

section Outcomes

variable {σ ε ε' α : Type}

/-- What is made of the outcome of an action that is attempted. -/
def Outcome.attempted : Outcome ε α → Outcome ε' (Except ε α)
  | value a => value (.ok a)
  | failure e => value (.error e)
  | exhausted => exhausted

def Outcome.reworded (f : ε → ε') : Outcome ε α → Outcome ε' α
  | value a => value a
  | failure e => failure (f e)
  | exhausted => exhausted

theorem Action.run_attempt_eq (x : Action σ ε α) (s : σ) :
    (attempt x : Action σ ε' (Except ε α)).run s = ((x.run s).1.attempted, (x.run s).2) := by
  rw [run_attempt]
  rcases x.run s with ⟨_ | _ | _, _⟩ <;> rfl

theorem Action.run_mapFailure_eq (f : ε → ε') (x : Action σ ε α) (s : σ) :
    (mapFailure f x).run s = ((x.run s).1.reworded f, (x.run s).2) := by
  rw [run_mapFailure]
  rcases x.run s with ⟨_ | _ | _, _⟩ <;> rfl

end Outcomes

/-! ## Disciplines -/

/-- A later state of the host with the same script functions and tokens of surfaces. -/
structure HostStore.Resembles (h h' : HostStore) : Prop where
  functions : h'.functions = h.functions
  published : ∀ s, h'.publishedToken s = h.publishedToken s
  /-- Surfaces may have been made, but none is lost. -/
  surfaces : h.published.size ≤ h'.published.size

/-- An operation of the host that touches neither the tokens of surfaces nor script functions. -/
def HostStore.IsPlain {α : Type} (f : HostStore → α × HostStore) : Prop :=
  ∀ h : HostStore, h.Resembles (f h).2

/-- Who is using each record. -/
def HostStore.guards (h : HostStore) (i : Nat) : Borrow := (h.record i).borrow

/-- A plain operation that borrows no record and gives none back. -/
structure HostStore.IsOrdinary {α : Type} (f : HostStore → α × HostStore) : Prop where
  plain : IsPlain f
  guards : ∀ h : HostStore, (f h).2.guards = h.guards

/-- The operation pins, unpins, or changes a table. -/
def Op.IsEdit : Op → Prop
  | .reference _ | .releaseReference _ | .rawSet .. | .setMeta _ | .setField .. | .close => True
  | _ => False

instance (op : Op) : Decidable op.IsEdit := by
  cases op <;> first | exact isTrue trivial | exact isFalse id

/-- The closure conditions that host code asks for: what it does with the host's own state, with handles
    and with the values it hands over. -/
structure HostDiscipline where
  Relates : {ε α : Type} → Action World ε α → Action World ε α → Prop
  -- The outcomes.
  value : ∀ {ε α : Type} (a : α), Relates (pure a : Action World ε α) (pure a)
  failure : ∀ {ε α : Type} (e : ε), Relates (Action.fail e : Action World ε α) (Action.fail e)
  -- Sequencing.
  seq : ∀ {ε α β : Type} {x y : Action World ε α} {f g : α → Action World ε β},
    Relates x y → (∀ a, Relates (f a) (g a)) → Relates (x >>= f) (y >>= g)
  attempt : ∀ {ε ε' α : Type} {x y : Action World ε α}, Relates x y →
    Relates (Action.attempt x : Action World ε' (Except ε α)) (Action.attempt y)
  reword : ∀ {ε ε' α : Type} {x y : Action World ε α} (f : ε → ε'),
    Relates x y → Relates (Action.mapFailure f x) (Action.mapFailure f y)
  -- The session and the host.
  askSession : ∀ {ε α : Type} (f : Session → α),
    Relates (World.askSession f : Action World ε α) (World.askSession f)
  askHost : ∀ {ε α : Type} (f : HostStore → α),
    Relates (World.askHost f : Action World ε α) (World.askHost f)
  emit : ∀ {ε : Type} (e : Event), Relates (World.emit e : Action World ε Unit) (World.emit e)
  ordinary : ∀ {ε α : Type} {f : HostStore → α × HostStore}, HostStore.IsOrdinary f →
    Relates (World.onHost f : Action World ε α) (World.onHost f)
  holding : ∀ {α : Type} {x y : Bridge α} (isExclusive : Bool) (o : HostObject), Relates x y →
    Relates (Bridge.holding isExclusive o x) (Bridge.holding isExclusive o y)
  -- The bridge.
  push : ∀ v, Relates (Bridge.push v) (Bridge.push v)
  disposeFunction : ∀ number,
    Relates (Bridge.disposeFunction number) (Bridge.disposeFunction number)

/-- Beside these, the conditions that scripts and the machine ask for. -/
structure Discipline extends HostDiscipline where
  /-- What the first caller does before an operation of a stack program. -/
  before : Op → Vm Unit
  /-- What the second one does. -/
  before' : Op → Vm Unit
  exhausted : ∀ {ε α : Type}, Relates (Action.exhaust : Action World ε α) Action.exhaust
  -- The machine.
  look : ∀ {ε α β : Type} {f : Machine → α} {k l : α → Action World ε β}, Machine.IsQuery f →
    (∀ m, Relates (k (f m)) (l (f m))) → Relates (World.askMachine f >>= k) (World.askMachine f >>= l)
  steady : ∀ {ε α : Type} {f : Machine → α × Machine}, Machine.IsSteady f →
    Relates (World.onMachine f : Action World ε α) (World.onMachine f)
  read : ∀ i, Relates (Bridge.read i) (Bridge.read i)
  -- Running code.
  watch : ∀ op, Relates (before op) (before' op)
  call : ∀ {c c' : Caller} (argCount resultCount : Int) (isProtected : Bool),
    (∀ code, Relates (c.run code) (c'.run code)) →
      Relates (Vm.call c argCount resultCount isProtected)
        (Vm.call c' argCount resultCount isProtected)
  callValue : ∀ {c c' : Caller} (f : Value) (args : List Value) (resultCount : Nat),
    (∀ code, Relates (c.run code) (c'.run code)) →
      Relates (Vm.callValue c f args resultCount) (Vm.callValue c' f args resultCount)
  edit : ∀ {c c' : Caller} {op : Op}, op.IsEdit →
    (∀ code, Relates (c.run code) (c'.run code)) →
      Relates (before op >>= fun _ => (Action.attempt (op.perform c) : Vm (Except VmError OpAnswer)))
        (before' op >>= fun _ => Action.attempt (op.perform c'))

namespace HostDiscipline

variable (D : HostDiscipline)

/-- The discipline of an action that runs no nested code, which is the same for both callers. -/
abbrev Keeps {ε α : Type} (x : Action World ε α) : Prop := D.Relates x x

/-! ## Shapes of actions -/

section Shapes

variable {ε α : Type}

theorem ofExcept (r : Except ε α) : D.Keeps (Action.ofExcept r : Action World ε α) := by
  cases r with
  | ok a => exact D.value a
  | error e => exact D.failure e

theorem changeHost {f : HostStore → HostStore} (ordinary : HostStore.IsOrdinary fun h => ((), f h)) :
    D.Keeps (World.changeHost f : Action World ε Unit) :=
  D.ordinary ordinary

theorem whenTrue (b : Bool) {x y x' y' : Action World ε α} (ifTrue : b = true → D.Relates x x')
    (ifFalse : b = false → D.Relates y y') :
    D.Relates (if b then x else y) (if b then x' else y') := by
  cases b with
  | true => exact ifTrue rfl
  | false => exact ifFalse rfl

end Shapes

end HostDiscipline

namespace Discipline

variable (D : Discipline)

/-- All that the callers run is related. -/
structure Covers (c c' : Caller) : Prop where
  run : ∀ code, D.Relates (c.run code) (c'.run code)
  render : ∀ i, D.Relates (c.render i) (c'.render i)
  apply : ∀ f args, D.Relates (c.apply f args) (c'.apply f args)
  before : c.before = D.before
  before' : c'.before = D.before'

variable {ε α : Type}

theorem change {f : Machine → Machine} (steady : Machine.IsSteady fun m => ((), f m)) :
    D.Keeps (World.changeMachine f : Action World ε Unit) :=
  D.steady steady

theorem trySteady {f : Machine → Except VmError α × Machine} (steady : Machine.IsSteady f) :
    D.Keeps (World.tryMachine f) :=
  D.seq (D.steady steady) D.ofExcept

end Discipline

end ScriptHost
