import ScriptHost.Proofs.Discipline.Cuts
import ScriptHost.Proofs.Machine.Drifts
/-!
# Guards are given back

A record is borrowed by `Bridge.holding` alone, which gives it back however the code that runs meanwhile
ends.  So an action that ends leaves every guard as it found it, and what is true of the guards when code
is entered stays true as long as it runs.

`Action.Guarded` says both of an action, and compares it with a second one that has to go the same way
only where a condition on the guards holds.  To be guarded is a discipline (`guarding`), for every
condition that no admitted borrowing breaks.
-/

namespace ScriptHost

open World Machine

/-! ## Conditions on guards -/

theorem Borrow.ne_free_of_admit {isExclusive : Bool} {b b' : Borrow}
    (admitted : b.admit? isExclusive = some b') : b' ≠ .free := by
  cases isExclusive <;> cases b <;> simp_all [admit?, share?, claim?] <;> subst admitted <;> simp

/-- The host with a record borrowed. -/
def HostStore.borrowed (h : HostStore) (i : Nat) (b : Borrow) : HostStore :=
  h.setRecord i { h.record i with borrow := b }

/-- The host with a record given back by one user. -/
def HostStore.givenBack (h : HostStore) (i : Nat) : HostStore :=
  h.borrowed i (h.guards i).release

/-- A condition on the guards of records that holds on when a record is borrowed. -/
structure GuardCondition where
  Holds : (Nat → Borrow) → Prop
  borrowed : ∀ {h : HostStore} {i : Nat} {isExclusive : Bool} {b : Borrow}, Holds h.guards →
    (h.guards i).admit? isExclusive = some b → Holds (h.borrowed i b).guards

namespace GuardCondition

def always : GuardCondition := ⟨fun _ => True, fun _ _ => trivial⟩

/-- A record is borrowed exclusively. -/
def held (i : Nat) : GuardCondition where
  Holds guards := guards i = .exclusive
  borrowed {h j isExclusive b} held admitted := by
    have other : j ≠ i := fun same => by
      rw [same, held] at admitted
      cases isExclusive <;> cases admitted
    rw [HostStore.borrowed, HostStore.guards_setRecord, if_neg (fun here => other here.1)]
    exact held

end GuardCondition

/-- What has been borrowed is given back if the guards are as they were then. -/
theorem HostStore.guards_givenBack {h h' : HostStore} {i : Nat} {isExclusive : Bool} {b : Borrow}
    (admitted : (h.guards i).admit? isExclusive = some b) (kept : h'.guards = (h.borrowed i b).guards) :
    (h'.givenBack i).guards = h.guards := by
  funext j
  -- Both sides are read record by record, through the one borrow in between.
  have before (j : Nat) : h'.guards j = if i = j ∧ i < h.records.size then b else h.guards j := by
    rw [kept, HostStore.borrowed, guards_setRecord]
  rw [givenBack, HostStore.borrowed, guards_setRecord, before j]
  by_cases same : i = j
  · subst same
    by_cases inside : i < h.records.size
    · -- The record is still there, for one that is missing is free.
      have there : i < h'.records.size := by
        apply Nat.lt_of_not_le
        intro outside
        have free : h'.guards i = .free := by
          rw [guards, record, Array.getElem?_eq_none outside]
          rfl
        rw [before, if_pos ⟨rfl, inside⟩] at free
        exact Borrow.ne_free_of_admit admitted free
      rw [if_pos ⟨rfl, there⟩, before, if_pos ⟨rfl, inside⟩]
      exact Borrow.release_admit admitted
    · have free : h.guards i = .free := by
        rw [guards, record, Array.getElem?_eq_none (Nat.le_of_not_lt inside)]
        rfl
      have free' : h'.guards i = .free := by
        rw [before, if_neg (fun here => inside here.2), free]
      rw [free', free]
      simp [inside, Borrow.release]
  · rw [if_neg (fun here => same here.1), if_neg (fun here => same here.1)]

/-! ## Guarded actions -/

/-- Where the condition holds, the second action goes as the first one, which leaves the guards as it
    found them if it ends. -/
def Action.Guarded (K : GuardCondition) {ε α : Type} (x y : Action World ε α) : Prop :=
  ∀ w : World, K.Holds w.host.guards →
    y.run w = x.run w ∧ ((x.run w).1 ≠ .exhausted → (x.run w).2.host.guards = w.host.guards)

namespace Action.Guarded

variable {K : GuardCondition} {ε ε' α β : Type}

section Shapes

theorem of_guards {x : Action World ε α} (kept : ∀ w, (x.run w).2.host.guards = w.host.guards) :
    x.Guarded K x := fun w _ => ⟨rfl, fun _ => kept w⟩

theorem of_host {x : Action World ε α} (same : ∀ w, (x.run w).2.host = w.host) : x.Guarded K x :=
  of_guards fun w => by rw [same]

theorem seq {x y : Action World ε α} {f g : α → Action World ε β} (first : x.Guarded K y)
    (second : ∀ a, (f a).Guarded K (g a)) : (x >>= f).Guarded K (y >>= g) := by
  intro w holds
  obtain ⟨same, kept⟩ := first w holds
  rw [run_bind, run_bind, same]
  rcases ran : x.run w with ⟨a | e | _, w₁⟩ <;> rw [ran] at kept
  · have kept₁ : w₁.host.guards = w.host.guards := kept (by simp)
    obtain ⟨same', kept'⟩ := second a w₁ (by rw [kept₁]; exact holds)
    exact ⟨same', fun ended => (kept' ended).trans kept₁⟩
  · exact ⟨rfl, fun _ => kept (by simp)⟩
  · exact ⟨rfl, fun ended => absurd rfl ended⟩

/-- Two actions that make the same of the outcomes of others. -/
theorem of_outcome {x y : Action World ε α} {x' y' : Action World ε' β} (guarded : x.Guarded K y)
    (make : Outcome ε α → Outcome ε' β) (exhausted : make .exhausted = .exhausted)
    (run_x : ∀ w, x'.run w = (make (x.run w).1, (x.run w).2))
    (run_y : ∀ w, y'.run w = (make (y.run w).1, (y.run w).2)) : x'.Guarded K y' := by
  intro w holds
  obtain ⟨same, kept⟩ := guarded w holds
  rw [run_x, run_y, same]
  exact ⟨rfl, fun ended => kept fun exhausted₁ => ended (by rw [exhausted₁, exhausted])⟩

theorem attempt {x y : Action World ε α} (guarded : x.Guarded K y) :
    (Action.attempt x : Action World ε' (Except ε α)).Guarded K (Action.attempt y) :=
  guarded.of_outcome Outcome.attempted rfl (run_attempt_eq x) (run_attempt_eq y)

theorem reword {x y : Action World ε α} (f : ε → ε') (guarded : x.Guarded K y) :
    (Action.mapFailure f x).Guarded K (Action.mapFailure f y) :=
  guarded.of_outcome (Outcome.reworded f) rfl (run_mapFailure_eq f x) (run_mapFailure_eq f y)

end Shapes

/-! ### Borrowing -/

/-- Code that runs while a record is held runs in the world where it is borrowed, and the record is then
    given back, unless the run is exhausted. -/
theorem run_holding {isExclusive : Bool} {o : HostObject} {b : Borrow} {w : World}
    (admitted : (w.host.guards o.record).admit? isExclusive = some b) (x : Bridge α) :
    (Bridge.holding isExclusive o x).run w =
      match x.run { w with host := w.host.borrowed o.record b } with
      | (.exhausted, w') => (.exhausted, w')
      | (outcome, w') => (outcome, { w' with host := w'.host.givenBack o.record }) := by
  rw [HostStore.guards] at admitted
  simp only [Bridge.holding, run_bind, run_askHost, admitted, run_changeHost, run_attempt,
    HostStore.borrowed, HostStore.givenBack, HostStore.guards]
  generalize x.run _ = result
  obtain ⟨_ | _ | _, _⟩ := result <;> rfl

/-- A record that is not admitted is not touched. -/
theorem run_holding_refused {isExclusive : Bool} {o : HostObject} {w : World}
    (refused : (w.host.guards o.record).admit? isExclusive = none) (x : Bridge α) :
    (Bridge.holding isExclusive o x).run w = (.failure (.error (Bridge.conflict o)), w) := by
  rw [HostStore.guards] at refused
  simp only [Bridge.holding, run_bind, run_askHost, refused]
  rfl

theorem holding {x y : Bridge α} (isExclusive : Bool) (o : HostObject) (guarded : x.Guarded K y) :
    (Bridge.holding isExclusive o x).Guarded K (Bridge.holding isExclusive o y) := by
  intro w holds
  cases admitted : (w.host.guards o.record).admit? isExclusive with
  | none =>
    rw [run_holding_refused admitted, run_holding_refused admitted]
    exact ⟨rfl, fun _ => rfl⟩
  | some b =>
    obtain ⟨same, kept⟩ :=
      guarded { w with host := w.host.borrowed o.record b } (K.borrowed holds admitted)
    rw [run_holding admitted, run_holding admitted, same]
    refine ⟨rfl, fun ended => ?_⟩
    rcases ran : x.run { w with host := w.host.borrowed o.record b } with ⟨a | e | _, w₁⟩ <;>
      rw [ran] at kept ended
    · exact HostStore.guards_givenBack admitted (kept (by simp))
    · exact HostStore.guards_givenBack admitted (kept (by simp))
    · exact absurd rfl ended

/-! ### Calls -/

section Calls

variable {c c' : Caller} (bodies : ∀ code, (c.run code).Guarded K (c'.run code))

include bodies

theorem call (argCount resultCount : Int) (isProtected : Bool) :
    (Vm.call c argCount resultCount isProtected).Guarded K
      (Vm.call c' argCount resultCount isProtected) := by
  intro w holds
  rw [Vm.run_call, Vm.run_call]
  cases w.machine.callee argCount with
  | missing e => exact ⟨rfl, fun _ => rfl⟩
  | refused slot e =>
    cases isProtected with
    | true => exact ⟨rfl, fun _ => rfl⟩
    | false => exact ⟨rfl, fun _ => rfl⟩
  | ready slot code =>
    obtain ⟨same, kept⟩ := bodies code (Vm.entered w slot) holds
    simp only [Vm.run_runFrame, same]
    exact ⟨trivial, fun ended => kept fun exhausted => ended (by rw [exhausted]; rfl)⟩

theorem callValue (f : Value) (args : List Value) (resultCount : Nat) :
    (Vm.callValue c f args resultCount).Guarded K (Vm.callValue c' f args resultCount) := by
  intro w holds
  obtain ⟨same, kept⟩ := call bodies args.length resultCount false (Vm.prepared w f args) holds
  rw [Vm.run_callValue, Vm.run_callValue, same]
  rcases ran : (Vm.call c args.length resultCount false).run (Vm.prepared w f args) with
    ⟨_ | e | _, w₁⟩ <;> rw [ran] at kept
  · exact ⟨rfl, fun _ => kept (by simp)⟩
  · exact ⟨rfl, fun _ => kept (by simp)⟩
  · exact ⟨rfl, fun ended => absurd rfl ended⟩

theorem newIndex (key : String) (v : Value) (links : Nat) (target : Value) :
    (Vm.newIndex c key v links target).Guarded K (Vm.newIndex c' key v links target) := by
  induction links generalizing target with
  | zero => exact of_host fun _ => rfl
  | succ links ih =>
    cases target with
    | table address =>
      refine (of_host fun _ => rfl).seq fun handler => ?_
      cases handler with
      | nil => exact of_host fun _ => rfl
      | function name code => exact (callValue bodies _ _ _).seq fun _ => of_host fun _ => rfl
      | table next => exact ih (.table next)
      | _ => exact of_host fun _ => rfl
    | _ => exact of_host fun _ => rfl

theorem setField (i : Int) (key : String) :
    (Vm.setField c i key).Guarded K (Vm.setField c' i key) := by
  refine (of_host fun _ => rfl).seq fun isOpen => seq (of_host fun _ => ?_) fun _ =>
    (of_host fun _ => rfl).seq fun target => (of_host fun _ => rfl).seq fun v => newIndex bodies key v _ _
  cases isOpen <;> rfl

theorem edit {op : Op} (isEdit : op.IsEdit) : (op.perform c).Guarded K (op.perform c') := by
  cases op with
  | setField i name => exact (setField bodies i name).seq fun _ => of_host fun _ => rfl
  | reference | releaseReference | rawSet | close => exact of_host fun _ => rfl
  | setMeta i =>
    refine seq (seq (of_host fun _ => rfl) fun result => of_host fun _ => ?_) fun _ => of_host fun _ => rfl
    cases result <;> rfl
  | _ => exact isEdit.elim

end Calls

end Action.Guarded

/-! ## Whole runs -/

/-- The operations of the bridge touch no record. -/
def sparing : Drift where
  Leads w w' := w'.host.records = w.host.records
  refl _ := rfl
  trans first second := second.trans first
  tame _ _ := rfl
  newProxy _ _ _ := rfl
  reference _ _ := rfl
  releaseReference _ _ := rfl
  close _ := rfl
  alloc _ _ _ := rfl
  release _ _ := rfl
  releaseAll _ := rfl
  session _ _ _ _ := rfl
  host _ _ same := same

theorem Action.Guarded.of_spares {K : GuardCondition} {ε α : Type} {x : Action World ε α}
    (spares : sparing.Keeps x) : x.Guarded K x :=
  of_guards fun w => by
    have records : (x.run w).2.host.records = w.host.records := spares w
    funext i
    rw [HostStore.guards, HostStore.record, records]
    rfl

/-- To be guarded is a discipline. -/
def guarding (K : GuardCondition) : SessionDiscipline where
  Relates := Action.Guarded K
  before := Caller.unwatched
  before' := Caller.unwatched
  value _ := .of_host fun _ => rfl
  failure _ := .of_host fun _ => rfl
  exhausted := .of_host fun _ => rfl
  seq := .seq
  attempt := .attempt
  reword := .reword
  look _ continued w := continued w.machine w
  askSession _ := .of_host fun _ => rfl
  askHost _ := .of_host fun _ => rfl
  emit _ := .of_host fun _ => rfl
  steady _ := .of_host fun _ => rfl
  ordinary ordinary := .of_guards fun w => ordinary.guards w.host
  holding := .holding
  watch _ := .of_host fun _ => rfl
  call argCount resultCount isProtected bodies := .call bodies argCount resultCount isProtected
  callValue f args resultCount bodies := .callValue bodies f args resultCount
  edit isEdit bodies := .seq (.of_host fun _ => rfl) fun _ => (Action.Guarded.edit bodies isEdit).attempt
  -- What the bridge and the session do by themselves touches no record.
  push v := .of_spares (Drift.push v)
  read i := .of_spares (Drift.read i)
  disposeFunction number := .of_spares (Drift.disposeFunction number)
  registerType d := .of_spares (Drift.registerType d)
  forwardType d := .of_spares (Drift.forwardType d)
  pinChunk := .of_spares Drift.pinChunk
  takeChunk := .of_spares Drift.takeChunk
  teardown := .of_spares Drift.teardown

end ScriptHost
