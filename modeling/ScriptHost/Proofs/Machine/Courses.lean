import ScriptHost.Proofs.Machine.Frames
import ScriptHost.Session.Operations
/-!
# Courses of a session

What the bridge and the session do is made of a few operations on the stores: pushing a thing, taking a
script function in, giving a token up, making a surface.  A `Course` relates worlds along which these
lead, and then whatever is made of them leads along it too.

A course keeps accounts.  A handle is given up only if a surface is replaced, for which there is a new
one, so that each handle given up is paid for by a surface made.  What a change owes is part of the
relation; a course that has nothing to pay for ignores it.
-/

namespace ScriptHost

open World Machine

/-- Worlds that lead to others, and what is owed for the handles given up on the way. -/
structure Course where
  Leads : Int → World → World → Prop
  refl : ∀ w, Leads 0 w w
  mono : ∀ {d e w w'}, Leads d w w' → d ≤ e → Leads e w w'
  trans : ∀ {d e w₁ w₂ w₃}, Leads d w₁ w₂ → Leads e w₂ w₃ → Leads (d + e) w₁ w₃
  tame : ∀ {α : Type} {f : Machine → α × Machine}, IsTame f →
    ∀ w : World, Leads 0 w { w with machine := (f w.machine).2 }
  /-- The session is changed beside its stores. -/
  session : ∀ (w : World) (s : Session), s.handles = w.session.handles → s.proxies = w.session.proxies →
    s.chunk = w.session.chunk → s.liveFunctions = w.session.liveFunctions →
    s.isTornDown = w.session.isTornDown → Leads 0 w { w with session := s }
  newSurface : ∀ (d : TypeDescriptor) (w : World),
    Leads (-1) w { w with host := (w.host.newSurface d).2 }
  pushEntry : ∀ (entry : HandleEntry) (w : World), Leads 0 w ((Bridge.push entry.toValue).run w).2
  readFunction : ∀ {w : World} {i j : Int},
    w.machine.readSlot (w.machine.absIndex i) = .function (.slot j) → Leads 0 w ((Bridge.read i).run w).2
  releaseToken : ∀ (t : Token) (w : World), Leads 1 w ((Session.releaseToken t).run w).2

theorem Bridge.run_functionReference (number : Nat) (w : World) : (functionReference number).run w =
    ((w.host.functionReference? number).elim (.failure (.error .disposedFunction)) .value, w) := by
  cases held : w.host.functionReference? number <;> simp [functionReference, held, Bridge.fail]

/-- Reading changes nothing unless it takes a script function in. -/
theorem Bridge.read_cases (w : World) (i : Int) : ((Bridge.read i).run w).2 = w ∨
    ∃ j, w.machine.readSlot (w.machine.absIndex i) = .function (.slot j) := by
  cases slot : w.machine.readSlot (w.machine.absIndex i) with
  | function f =>
    cases f with
    | slot j => exact .inr ⟨j, rfl⟩
    | pinned r => exact absurd slot (readSlot_ne_pinned _ _ _)
  | handle t =>
    left
    cases resolved : w.session.resolve t <;> simp [read, slot, resolve, ofExcept, resolved]
  | _ => simp [read, slot]

/-- The action, run in the world, leads along the course. -/
abbrev Course.LeadsBy (C : Course) (d : Int) (w : World) {ε α : Type} (x : Action World ε α) : Prop :=
  C.Leads d w (x.run w).2

namespace Course

namespace LeadsBy

variable {C : Course} {w : World} {d e : Int} {ε α β : Type}

theorem of_unchanged {x : Action World ε α} (unchanged : (x.run w).2 = w) : C.LeadsBy 0 w x := by
  rw [LeadsBy, unchanged]
  exact C.refl w

/-- What the second action owes is not negative, so it may also be left out. -/
theorem seq {x : Action World ε α} {f : α → Action World ε β} (first : C.LeadsBy d w x)
    (second : ∀ {a w₁}, x.run w = (.value a, w₁) → C.LeadsBy e w₁ (f a)) (owes : 0 ≤ e) :
    C.LeadsBy (d + e) w (x >>= f) := by
  rw [LeadsBy, Action.run_bind]
  rcases ran : x.run w with ⟨a | e | _, w₁⟩ <;> rw [LeadsBy, ran] at first
  · exact C.trans first (second ran)
  · exact C.mono first (by omega)
  · exact C.mono first (by omega)

/-- Nothing is owed. -/
theorem andThen {x : Action World ε α} {f : α → Action World ε β} (first : C.LeadsBy 0 w x)
    (second : ∀ {a w₁}, x.run w = (.value a, w₁) → C.LeadsBy 0 w₁ (f a)) : C.LeadsBy 0 w (x >>= f) :=
  first.seq second (Int.le_refl 0)

end LeadsBy

variable (C : Course) {w : World}

/-! ## Values across the bridge -/

theorem push (v : HostValue) : C.LeadsBy 0 w (Bridge.push v) := by
  cases v with
  | object o => exact C.pushEntry (.object o) w
  | surface s => exact C.pushEntry (.surface s) w
  | function number =>
    have looks : C.LeadsBy 0 w (Bridge.functionReference number) :=
      LeadsBy.of_unchanged (by rw [Bridge.run_functionReference])
    exact looks.andThen fun {r w₁} _ => C.tame (isSteady_pushReference r).isTame w₁
  | str s => exact C.tame (isSteady_push (isQuery_const (Value.string (utf8Encode s)))).isTame w
  | callable f => exact C.tame (isSteady_push (isQuery_const (Value.function f.name (.host f)))).isTame w
  | nil => exact C.tame (isSteady_writeSlot .nil).isTame w
  | bool b => exact C.tame (isSteady_writeSlot (.bool b)).isTame w
  | int n => exact C.tame (isSteady_writeSlot (.integer n)).isTame w
  | float x => exact C.tame (isSteady_writeSlot (.float x)).isTame w

theorem read (i : Int) : C.LeadsBy 0 w (Bridge.read i) := by
  rcases Bridge.read_cases w i with unchanged | ⟨j, slot⟩
  · exact .of_unchanged unchanged
  · exact C.readFunction slot

/-! ## Sessions -/

theorem checkOpen : C.LeadsBy 0 w Session.checkOpen := by
  refine .of_unchanged ?_
  cases torn : w.session.isTornDown <;> simp [Session.checkOpen, torn, Bridge.fail]

theorem registerType (d : TypeDescriptor) : C.LeadsBy 0 w (Session.registerType d) := by
  refine C.checkOpen.andThen fun _ => (LeadsBy.of_unchanged ?_).andThen fun _ => ?_
  · simp only [Session.checkDuplicate, Action.run_bind, run_sessionNow]
    split <;> rfl
  · exact C.session _ _ rfl rfl rfl rfl rfl

theorem setGlobal (name : String) (v : HostValue) : C.LeadsBy 0 w (Session.setGlobal name v) :=
  C.checkOpen.andThen fun _ => (C.push v).andThen fun {_ w₁} _ =>
    C.tame (isSteady_setGlobal name).isTame w₁

theorem withdraw (previous : Surface) (name : String) : C.LeadsBy 1 w (Session.withdraw previous name) := by
  have clear {w : World} : C.LeadsBy 0 w (if previous.typeName ≠ name then
      (World.changeMachine fun m => (m.push .nil).setGlobal previous.typeName : Bridge Unit)
      else pure ()) := by
    split
    · exact C.tame (isSteady_defineGlobal previous.typeName .nil).isTame w
    · exact .of_unchanged rfl
  refine (LeadsBy.of_unchanged (x := askHost (·.publishedToken previous)) rfl).seq (e := 1)
    (fun {found w₁} _ => ?_) (by decide)
  cases found with
  | some t => exact LeadsBy.seq (C.releaseToken t w₁) (e := 0) (fun _ => clear) (Int.le_refl 0)
  | none => exact C.mono clear (by decide)

/-- A handle is given up only if a surface is replaced, for which there is a new one. -/
theorem forwardType (d : TypeDescriptor) : C.LeadsBy 0 w (Session.forwardType d) := by
  refine (C.registerType d).andThen fun {d w₁} _ => ?_
  have newSurface : C.LeadsBy (-1) w₁ (onHost (·.newSurface d) : Bridge Surface) := C.newSurface d w₁
  refine C.mono (newSurface.seq (e := 1) (fun {surface w₂} _ => ?_) (by decide)) (by decide)
  refine (C.setGlobal d.name (.surface surface)).seq (e := 1) (fun {_ w₃} _ => ?_) (by decide)
  refine (LeadsBy.of_unchanged (x := askSession (·.surfaces.get? d.type)) rfl).seq (e := 1)
    (fun {previous w₄} _ => ?_) (by decide)
  have published : C.LeadsBy 0 w₄ (World.changeSession fun s =>
      { s with surfaces := s.surfaces.insert d.type surface } : Bridge Unit) :=
    C.session _ _ rfl rfl rfl rfl rfl
  refine published.seq (e := 1) (fun {_ w₅} _ => ?_) (by decide)
  cases previous with
  | some previous =>
    exact (C.withdraw previous d.name).seq (e := 0) (fun _ => .of_unchanged rfl) (Int.le_refl 0)
  | none => exact C.mono (LeadsBy.of_unchanged rfl) (by decide)

end Course

end ScriptHost
