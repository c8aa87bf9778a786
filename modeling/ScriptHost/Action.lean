/-!
# Actions

An action reads and changes a state and ends in one of three ways: with a value, with a failure, or
because the nesting it was allowed is exhausted.  The state at that moment is part of the answer in
every case, so what a failing operation leaves behind can be stated.

Only a failure can be caught.  Exhaustion passes through `attempt`, so that a run with too little
allowance never looks like a run that failed.
-/

namespace ScriptHost

inductive Outcome (ε α : Type) where
  | value (a : α)
  | failure (e : ε)
  | exhausted
  deriving Repr

def Action (σ ε α : Type) : Type := σ → Outcome ε α × σ

namespace Action

variable {σ ε ε' α β : Type}

def run (x : Action σ ε α) (s : σ) : Outcome ε α × σ := x s

instance : Monad (Action σ ε) where
  pure a := fun s => (.value a, s)
  bind x f := fun s =>
    match x s with
    | (.value a, s') => f a s'
    | (.failure e, s') => (.failure e, s')
    | (.exhausted, s') => (.exhausted, s')

instance : LawfulMonad (Action σ ε) := by
  refine LawfulMonad.mk' (Action σ ε) (fun x => ?_) (fun _ _ => rfl) (fun x _ _ => ?_) <;>
    funext s <;> simp only [Functor.map, bind] <;> rcases x s with ⟨_ | _ | _, _⟩ <;> rfl

def fail (e : ε) : Action σ ε α := fun s => (.failure e, s)

def exhaust : Action σ ε α := fun s => (.exhausted, s)

def get : Action σ ε σ := fun s => (.value s, s)

def gets (f : σ → α) : Action σ ε α := fun s => (.value (f s), s)

def modify (f : σ → σ) : Action σ ε Unit := fun s => (.value (), f s)

def step (f : σ → α × σ) : Action σ ε α := fun s =>
  let (a, s') := f s
  (.value a, s')

def ofExcept : Except ε α → Action σ ε α
  | .ok a => pure a
  | .error e => fail e

/-- Turns a failure into an answer; the state stays as the failure left it. -/
def attempt (x : Action σ ε α) : Action σ ε' (Except ε α) := fun s =>
  match x s with
  | (.value a, s') => (.value (.ok a), s')
  | (.failure e, s') => (.value (.error e), s')
  | (.exhausted, s') => (.exhausted, s')

def mapFailure (f : ε → ε') (x : Action σ ε α) : Action σ ε' α := fun s =>
  match x s with
  | (.value a, s') => (.value a, s')
  | (.failure e, s') => (.failure (f e), s')
  | (.exhausted, s') => (.exhausted, s')

section Lemmas

variable (s : σ)

@[simp] theorem run_pure (a : α) : run (pure a : Action σ ε α) s = (.value a, s) := rfl

@[simp] theorem run_fail (e : ε) : run (fail e : Action σ ε α) s = (.failure e, s) := rfl

@[simp] theorem run_exhaust : run (exhaust : Action σ ε α) s = (.exhausted, s) := rfl

@[simp] theorem run_gets (f : σ → α) : run (gets f : Action σ ε α) s = (.value (f s), s) := rfl

@[simp] theorem run_modify (f : σ → σ) : run (modify f : Action σ ε Unit) s = (.value (), f s) := rfl

@[simp] theorem run_step (f : σ → α × σ) :
    run (step f : Action σ ε α) s = (.value (f s).1, (f s).2) := rfl

@[simp] theorem run_ofExcept_ok (a : α) :
    run (ofExcept (.ok a) : Action σ ε α) s = (.value a, s) := rfl

@[simp] theorem run_ofExcept_error (e : ε) :
    run (ofExcept (.error e) : Action σ ε α) s = (.failure e, s) := rfl

@[simp] theorem run_bind (x : Action σ ε α) (f : α → Action σ ε β) :
    run (x >>= f) s =
      match run x s with
      | (.value a, s') => run (f a) s'
      | (.failure e, s') => (.failure e, s')
      | (.exhausted, s') => (.exhausted, s') := rfl

@[simp] theorem run_map (f : α → β) (x : Action σ ε α) :
    run (f <$> x) s =
      match run x s with
      | (.value a, s') => (.value (f a), s')
      | (.failure e, s') => (.failure e, s')
      | (.exhausted, s') => (.exhausted, s') := rfl

@[simp] theorem run_attempt (x : Action σ ε α) :
    run (attempt x : Action σ ε' (Except ε α)) s =
      match run x s with
      | (.value a, s') => (.value (.ok a), s')
      | (.failure e, s') => (.value (.error e), s')
      | (.exhausted, s') => (.exhausted, s') := rfl

@[simp] theorem run_mapFailure (f : ε → ε') (x : Action σ ε α) :
    run (mapFailure f x) s =
      match run x s with
      | (.value a, s') => (.value a, s')
      | (.failure e, s') => (.failure (f e), s')
      | (.exhausted, s') => (.exhausted, s') := rfl

end Lemmas

end Action

end ScriptHost
