import ScriptHost.Proofs.Discipline.Basic
import ScriptHost.Proofs.Provenance.Stores
/-!
# Actions that keep to known descriptors

`Yields` says of an action that the descriptors in the stores stay known ones, that no type is registered,
and that what the action gives is good.  Unlike a `Discipline` it follows the values that pass from one
action to the next, which is what the descriptors travel in.
-/

namespace ScriptHost

/-- How an action has ended that began in a world. -/
structure Yielded (known : TypeDescriptor → Prop) {ε α : Type} (good : α → Prop) (w : World)
    (ended : Outcome ε α × World) : Prop where
  isFrom : ended.2.IsFrom known
  types : ended.2.session.types = w.session.types
  good : ∀ a, ended.1 = .value a → good a

/-- The action keeps the descriptors in the stores to known ones and registers no type, and what it gives
    is good. -/
def Yields (known : TypeDescriptor → Prop) {ε α : Type} (good : α → Prop) (x : Action World ε α) : Prop :=
  ∀ w, w.IsFrom known → Yielded known good w (x.run w)

/-- Of an action that gives nothing with a descriptor. -/
abbrev KeepsTo (known : TypeDescriptor → Prop) {ε α : Type} (x : Action World ε α) : Prop :=
  Yields known (fun _ => True) x

open World

namespace Yields

variable {known : TypeDescriptor → Prop} {ε ε' α β : Type} {good : α → Prop} {good' : β → Prop}

/-! ## Shapes of actions -/

theorem value {a : α} (isGood : good a) : Yields known good (pure a : Action World ε α) := by
  intro w isFrom
  refine ⟨isFrom, rfl, fun b same => ?_⟩
  cases same
  exact isGood

theorem failure (e : ε) : Yields known good (Action.fail e : Action World ε α) :=
  fun w isFrom => ⟨isFrom, rfl, fun _ same => by cases same⟩

theorem exhausted : Yields known good (Action.exhaust : Action World ε α) :=
  fun w isFrom => ⟨isFrom, rfl, fun _ same => by cases same⟩

theorem seq {x : Action World ε α} {f : α → Action World ε β} (first : Yields known good x)
    (second : ∀ a, good a → Yields known good' (f a)) : Yields known good' (x >>= f) := by
  intro w isFrom
  obtain ⟨isFrom₁, types₁, good₁⟩ := first w isFrom
  rw [Action.run_bind]
  rcases ran : x.run w with ⟨a | e | _, w₁⟩ <;> rw [ran] at isFrom₁ types₁ good₁
  · obtain ⟨isFrom₂, types₂, good₂⟩ := second a (good₁ a rfl) w₁ isFrom₁
    exact ⟨isFrom₂, types₂.trans types₁, good₂⟩
  · exact ⟨isFrom₁, types₁, fun _ same => by cases same⟩
  · exact ⟨isFrom₁, types₁, fun _ same => by cases same⟩

theorem attempt {x : Action World ε α} (yields : Yields known good x) :
    Yields known (fun r => ∀ a, r = .ok a → good a)
      (Action.attempt x : Action World ε' (Except ε α)) := by
  intro w isFrom
  obtain ⟨isFrom', types, isGood⟩ := yields w isFrom
  rw [Action.run_attempt_eq]
  refine ⟨isFrom', types, fun r same a ok => ?_⟩
  subst ok
  cases ended : (x.run w).1 with
  | value b =>
    rw [ended] at same
    cases same
    exact isGood a ended
  | failure e =>
    rw [ended] at same
    cases same
  | exhausted =>
    rw [ended] at same
    cases same

theorem reword {x : Action World ε α} (f : ε → ε') (yields : Yields known good x) :
    Yields known good (Action.mapFailure f x) := by
  intro w isFrom
  obtain ⟨isFrom', types, isGood⟩ := yields w isFrom
  rw [Action.run_mapFailure_eq]
  refine ⟨isFrom', types, fun a same => ?_⟩
  cases ended : (x.run w).1 with
  | value b =>
    rw [ended] at same
    cases same
    exact isGood a ended
  | failure e =>
    rw [ended] at same
    cases same
  | exhausted =>
    rw [ended] at same
    cases same

theorem ofExcept {r : Except ε α} (isGood : ∀ a, r = .ok a → good a) :
    Yields known good (Action.ofExcept r : Action World ε α) := by
  cases r with
  | ok a => exact value (isGood a rfl)
  | error e => exact failure e

theorem ofRules {r : Except BridgeError α} (isGood : ∀ a, r = .ok a → good a) :
    Yields known good (Bridge.ofExcept r) := reword _ (ofExcept isGood)

theorem fail (e : BridgeError) : Yields known good (Bridge.fail e : Bridge α) := failure _

theorem whenTrue (b : Bool) {x y : Action World ε α} (ifTrue : Yields known good x)
    (ifFalse : Yields known good y) : Yields known good (if b then x else y) := by
  cases b with
  | true => exact ifTrue
  | false => exact ifFalse

/-! ## Elementary actions -/

/-- An action that only has to do with the machine and the events. -/
theorem aloof {x : Action World ε α}
    (same : ∀ w, (x.run w).2.session = w.session ∧ (x.run w).2.host = w.host) : KeepsTo known x := by
  intro w isFrom
  obtain ⟨session, host⟩ := same w
  exact ⟨⟨by rw [host]; exact isFrom.host, by rw [session]; exact isFrom.session⟩, by rw [session],
    fun _ _ => trivial⟩

theorem askMachine (f : Machine → α) : KeepsTo known (World.askMachine f : Action World ε α) :=
  aloof fun _ => ⟨rfl, rfl⟩

theorem onMachine (f : Machine → α × Machine) : KeepsTo known (World.onMachine f : Action World ε α) :=
  aloof fun _ => ⟨rfl, rfl⟩

theorem changeMachine (f : Machine → Machine) :
    KeepsTo known (World.changeMachine f : Action World ε Unit) :=
  aloof fun _ => ⟨rfl, rfl⟩

theorem emit (e : Event) : KeepsTo known (World.emit e : Action World ε Unit) :=
  aloof fun _ => ⟨rfl, rfl⟩

theorem tryMachine (f : Machine → Except VmError α × Machine) : KeepsTo known (World.tryMachine f) :=
  seq (onMachine f) fun _ _ => ofExcept fun _ _ => trivial

theorem askSession {f : Session → α} (isGood : ∀ s : Session, s.IsFrom known → good (f s)) :
    Yields known good (World.askSession f : Action World ε α) := by
  intro w isFrom
  refine ⟨isFrom, rfl, fun a same => ?_⟩
  cases same
  exact isGood w.session isFrom.session

theorem askHost {f : HostStore → α} (isGood : ∀ h : HostStore, h.IsFrom known → good (f h)) :
    Yields known good (World.askHost f : Action World ε α) := by
  intro w isFrom
  refine ⟨isFrom, rfl, fun a same => ?_⟩
  cases same
  exact isGood w.host isFrom.host

/-- Of answers that have no descriptors in them. -/
theorem lookAtSession (f : Session → α) : KeepsTo known (World.askSession f : Action World ε α) :=
  aloof fun _ => ⟨rfl, rfl⟩

theorem lookAtHost (f : HostStore → α) : KeepsTo known (World.askHost f : Action World ε α) :=
  aloof fun _ => ⟨rfl, rfl⟩

theorem onHost {f : HostStore → α × HostStore}
    (isGood : ∀ h : HostStore, h.IsFrom known → (f h).2.IsFrom known ∧ good (f h).1) :
    Yields known good (World.onHost f : Action World ε α) := by
  intro w isFrom
  obtain ⟨host, good⟩ := isGood w.host isFrom.host
  refine ⟨⟨host, isFrom.session⟩, rfl, fun a same => ?_⟩
  cases same
  exact good

theorem changeHost {f : HostStore → HostStore} (isGood : ∀ h : HostStore, h.IsFrom known → (f h).IsFrom known) :
    KeepsTo known (World.changeHost f : Action World ε Unit) :=
  fun w isFrom => ⟨⟨isGood w.host isFrom.host, isFrom.session⟩, rfl, fun _ _ => trivial⟩

theorem onSession {f : Session → α × Session}
    (isGood : ∀ s : Session, s.IsFrom known → (f s).2.IsFrom known ∧ good (f s).1)
    (types : ∀ s, (f s).2.types = s.types) : Yields known good (World.onSession f : Action World ε α) := by
  intro w isFrom
  obtain ⟨session, good⟩ := isGood w.session isFrom.session
  refine ⟨⟨isFrom.host, session⟩, types w.session, fun a same => ?_⟩
  cases same
  exact good

theorem changeSession {f : Session → Session} (isGood : ∀ s : Session, s.IsFrom known → (f s).IsFrom known)
    (types : ∀ s, (f s).types = s.types) : KeepsTo known (World.changeSession f : Action World ε Unit) :=
  fun w isFrom => ⟨⟨isFrom.host, isGood w.session isFrom.session⟩, types w.session, fun _ _ => trivial⟩

end Yields

end ScriptHost
