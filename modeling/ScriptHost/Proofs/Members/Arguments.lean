import ScriptHost.Proofs.Handles.Store
import ScriptHost.Proofs.Machine.References
/-!
# Taking arguments in

Arguments are read one by one, in order.  Reading a script function pins it; reading a value that carries
a token fails if the token does not resolve.  So what has been taken in when the reading ends are the
values before the first one that cannot be read, and the references and functions that have become more
are the functions among these (`Bridge.run_readFrom`).
-/

namespace ScriptHost

open World Machine

/-! ## What reading takes in -/

/-- The value can be read: it carries no token, or one that resolves. -/
def World.isReadable (w : World) (v : Value) : Bool :=
  match w.machine.tokenOf? v with
  | some t => (w.session.handles.get? t).isSome
  | none => true

/-- The value carries a token that does not resolve. -/
def World.IsStale (w : World) (t : Token) (v : Value) : Prop :=
  w.machine.tokenOf? v = some t ∧ w.session.handles.get? t = none

/-- The second world is the first one with a number of script functions taken in. -/
structure World.TakesIn (w : World) (count : Nat) (w' : World) : Prop where
  machine : w'.machine = { w.machine with
    registry := w'.machine.registry, freeReferences := w'.machine.freeReferences }
  session : w'.session = { w.session with liveFunctions := w.session.liveFunctions + count }
  host : w'.host = { w.host with functions := w'.host.functions }
  functions : w'.host.functions.size = w.host.functions.size + count
  events : w'.events = w.events
  tidy : w.machine.HasTidyRegistry → w'.machine.HasTidyRegistry
  references : w.machine.HasTidyRegistry →
    w'.machine.referenceCount = w.machine.referenceCount + count

namespace World.TakesIn

variable {w w₁ w₂ : World} {m n : Nat}

theorem refl (w : World) : w.TakesIn 0 w := ⟨rfl, rfl, rfl, rfl, rfl, fun tidy => tidy, fun _ => rfl⟩

theorem trans (first : w.TakesIn m w₁) (second : w₁.TakesIn n w₂) : w.TakesIn (m + n) w₂ where
  machine := by rw [second.machine, first.machine]
  session := by rw [second.session, first.session, Nat.add_assoc]
  host := by rw [second.host, first.host]
  functions := by rw [second.functions, first.functions, Nat.add_assoc]
  events := second.events.trans first.events
  tidy tidy := second.tidy (first.tidy tidy)
  references tidy := by rw [second.references (first.tidy tidy), first.references tidy, Nat.add_assoc]

theorem tokenOf?_eq (taken : w.TakesIn n w₁) (v : Value) :
    w₁.machine.tokenOf? v = w.machine.tokenOf? v := by
  rw [taken.machine]
  rfl

theorem get?_eq (taken : w.TakesIn n w₁) (t : Token) :
    w₁.session.handles.get? t = w.session.handles.get? t := by
  rw [taken.session]

/-- What is on the stack, and whether it can be read, does not change. -/
theorem valueAt_eq (taken : w.TakesIn n w₁) (i : Int) : w₁.machine.valueAt i = w.machine.valueAt i := by
  rw [taken.machine]
  rfl

theorem isReadable_eq (taken : w.TakesIn n w₁) : w₁.isReadable = w.isReadable := by
  funext v
  rw [isReadable, taken.tokenOf?_eq, taken.session, isReadable]

theorem isStale_iff (taken : w.TakesIn n w₁) {t : Token} {v : Value} :
    w₁.IsStale t v ↔ w.IsStale t v := by
  rw [IsStale, taken.tokenOf?_eq, taken.get?_eq, IsStale]

end World.TakesIn

/-! ## Reading one value -/

theorem World.takesIn_pinFunction (w : World) (i : Int) :
    ∃ v, ∃ w', (Bridge.pinFunction i).run w = (.value v, w') ∧ w.TakesIn 1 w' := by
  refine ⟨_, _, rfl, ?_, rfl, rfl, ?_, rfl, fun tidy => ?_, fun tidy => ?_⟩
  · show (w.machine.reference i).2 = _
    simp only [reference]
    split <;> rfl
  · exact Array.size_push _
  · exact (pins_reference tidy i).tidy
  · exact (pins_reference tidy i).count

/-- A value is read, and taken in if it is a function; or nothing happens, as it is stale. -/
def World.TakesValue (w : World) (x : Value) (ran : Outcome Raised HostValue × World) : Prop :=
  (w.isReadable x = true ∧ ∃ v w', ran = (.value v, w') ∧ w.TakesIn (if x.isFunction then 1 else 0) w') ∨
  (w.isReadable x = false ∧ ∃ t, w.IsStale t x ∧ ran = (.failure (.error (.unresolvedHandle t)), w))

namespace World.TakesValue

variable {w : World} {x : Value} {ran : Outcome Raised HostValue × World}

/-- What carries no token is read whatever it is. -/
theorem of_unmarked (unmarked : w.machine.tokenOf? x = none) (isOther : x.isFunction = false) {v : HostValue}
    (ran_eq : ran = (.value v, w)) : w.TakesValue x ran := by
  refine .inl ⟨by rw [isReadable, unmarked], v, w, ran_eq, ?_⟩
  rw [isOther]
  exact .refl w

/-- What carries one is read as what that resolves to. -/
theorem of_marked {t : Token} (token : w.machine.tokenOf? x = some t) (isOther : x.isFunction = false)
    (ran_eq : ran = (Bridge.resolve t).run w) : w.TakesValue x ran := by
  rw [TakesValue, isReadable, isOther, ran_eq]
  simp only [IsStale, token, Bridge.resolve, Session.resolve, HandleStore.resolve_eq, Action.run_bind,
    run_askSession]
  cases missing : w.session.handles.get? t with
  | some entry => exact .inl ⟨rfl, entry.toValue, w, rfl, .refl w⟩
  | none => exact .inr ⟨rfl, t, ⟨rfl, missing⟩, rfl⟩

end World.TakesValue

theorem Bridge.run_read {i : Int} (positive : 0 < i) (w : World) :
    w.TakesValue (w.machine.valueAt i) ((read i).run w) := by
  have index : w.machine.absIndex i = i := by rw [absIndex, if_pos positive]
  cases found : w.machine.valueAt i with
  | function name code =>
    obtain ⟨v, w', ran, taken⟩ := takesIn_pinFunction w i
    have run_eq : (read i).run w = (pinFunction i).run w := by simp [read, readSlot, index, found]
    exact .inl ⟨rfl, v, w', run_eq.trans ran, taken⟩
  | light t =>
    exact .of_marked rfl rfl
      (by simp [read, readSlot, handleOf?, index, found, Machine.tokenOf?, Value.token?])
  | table a =>
    cases token : w.machine.tokenOf? (.table a) with
    | some t => exact .of_marked token rfl (by simp [read, readSlot, handleOf?, index, found, token])
    | none => exact .of_unmarked token rfl (by simp [read, readSlot, handleOf?, index, found, token]; rfl)
  | _ => exact .of_unmarked rfl rfl (by simp [read, readSlot, index, found]; rfl)

/-! ## Reading all of them -/

/-- The values at a number of indices, from one up. -/
def Machine.slotsFrom (m : Machine) (first : Int) : Nat → List Value
  | 0 => []
  | count + 1 => m.valueAt first :: m.slotsFrom (first + 1) count

/-- The values of the frame from an index up. -/
def Machine.argumentsFrom (m : Machine) (first : Int) : List Value :=
  m.slotsFrom first (m.top - first + 1).toNat

/-- How many script functions are read of some values: those before the first that cannot be read. -/
def World.takenIn (w : World) (vs : List Value) : Nat :=
  (vs.takeWhile w.isReadable).countP Value.isFunction

theorem World.TakesIn.slotsFrom_eq {w w₁ : World} {n : Nat} (taken : w.TakesIn n w₁) (first : Int)
    (count : Nat) : w₁.machine.slotsFrom first count = w.machine.slotsFrom first count := by
  induction count generalizing first with
  | zero => rfl
  | succ count ih => rw [slotsFrom, slotsFrom, taken.valueAt_eq, ih]

/-- Reading ends with all values, or at the first one that cannot be read; either way it has taken in the
    functions before that. -/
theorem Bridge.run_readFrom {first : Int} (positive : 0 < first) (count : Nat) (w : World) :
    ∃ outcome w', (readFrom first count).run w = (outcome, w') ∧ outcome ≠ .exhausted ∧
      w.TakesIn (w.takenIn (w.machine.slotsFrom first count)) w' := by
  induction count generalizing first w with
  | zero => exact ⟨_, w, rfl, by simp, .refl w⟩
  | succ count ih =>
    rw [slotsFrom, World.takenIn, readFrom, Action.run_bind]
    rcases run_read positive w with ⟨readable, v, w₁, ran, taken⟩ | ⟨unreadable, t, _, ran⟩
    · obtain ⟨outcome, w₂, ran', ended, taken'⟩ := @ih (first + 1) (by omega) w₁
      rw [taken.slotsFrom_eq, World.takenIn, taken.isReadable_eq] at taken'
      have all := taken.trans taken'
      rw [List.takeWhile_cons_of_pos readable, List.countP_cons, Nat.add_comm]
      simp only [ran, Action.run_bind, ran']
      cases outcome with
      | value vs => exact ⟨_, w₂, rfl, by simp, all⟩
      | failure e => exact ⟨_, w₂, rfl, by simp, all⟩
      | exhausted => exact absurd rfl ended
    · rw [List.takeWhile_cons_of_neg (by simp [unreadable])]
      simp only [ran]
      exact ⟨_, w, rfl, by simp, .refl w⟩

/-- Only a stale value stops the reading. -/
theorem Bridge.readFrom_failure {first : Int} (positive : 0 < first) {count : Nat} {w w' : World}
    {e : Raised} (failed : (readFrom first count).run w = (.failure e, w')) :
    ∃ t, (∃ v ∈ w.machine.slotsFrom first count, w.IsStale t v) ∧ e = .error (.unresolvedHandle t) := by
  induction count generalizing first w with
  | zero => cases failed
  | succ count ih =>
    rw [slotsFrom]
    rw [readFrom, Action.run_bind] at failed
    rcases run_read positive w with ⟨_, v, w₁, ran, taken⟩ | ⟨_, t, stale, ran⟩
    · simp only [ran, Action.run_bind] at failed
      rcases rest : (readFrom (first + 1) count).run w₁ with ⟨vs | e' | _, w₂⟩ <;> rw [rest] at failed <;>
        cases failed
      obtain ⟨t, ⟨v', among, stale⟩, same⟩ := ih (by omega) rest
      rw [taken.slotsFrom_eq] at among
      exact ⟨t, ⟨v', List.mem_cons_of_mem _ among, taken.isStale_iff.1 stale⟩, same⟩
    · rw [ran] at failed
      cases failed
      exact ⟨t, ⟨_, List.mem_cons_self, stale⟩, rfl⟩

theorem Bridge.run_readArgs {first : Int} (positive : 0 < first) (w : World) :
    ∃ outcome w', (readArgs first).run w = (outcome, w') ∧ outcome ≠ .exhausted ∧
      w.TakesIn (w.takenIn (w.machine.argumentsFrom first)) w' :=
  run_readFrom positive _ w

end ScriptHost
