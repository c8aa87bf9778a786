import ScriptHost.Proofs.Machine.Isolation
import ScriptHost.Proofs.Session.Crossing
/-!
# Indexing through metatables

A key of a table is read or assigned where it is found, and a table that does not hold it may hand the
request on: to the table that its metatable names for the event, and from there to the next.  Tables may
share metatables and refer to each other in circles, so this walk need not end by itself; it is given up
when `Vm.maxChain` tables have redirected it.  Where it ends otherwise is a table that holds the key,
one without a handler, or one whose handler is something else than a table.

`Machine.Walk` is the walk.  `Vm.Reads` and `Vm.Assigns` say what a reading and an assignment come to,
with one rule for each way in which the walk ends, and `field_access_follows_walk` that `getField` and
`setField` do exactly this.  A handler that is a function is called with the table it was found for
(`Vm.Handles`).
-/

namespace ScriptHost

open World Machine

/-- The value is none of those that an event can be handled by. -/
def Value.isNoHandler : Value → Bool
  | nil | function .. | table _ => false
  | _ => true

/-- What is made of the value of an outcome. -/
def Outcome.mapValue {ε α β : Type} (f : α → β) : Outcome ε α → Outcome ε β
  | value a => value (f a)
  | failure e => failure e
  | exhausted => exhausted

/-! ## Walks from table to table -/

namespace Machine

/-- A table that does not hold the key hands a request on to the table that its metatable names. -/
structure Redirects (m : Machine) (event : String) (holds : Nat → Prop) (a b : Nat) : Prop where
  misses : ¬ holds a
  handler : m.metamethod a event = .table b

/-- So many redirections lead from one table to another. -/
inductive Walk (m : Machine) (event : String) (holds : Nat → Prop) : Nat → Nat → Nat → Prop where
  | here (a : Nat) : Walk m event holds 0 a a
  | next {n a b b' : Nat} (first : m.Redirects event holds a b) (rest : Walk m event holds n b b') :
      Walk m event holds (n + 1) a b'

/-- The table is one of the first on the walk from a value. -/
def Visits (m : Machine) (event : String) (holds : Nat → Prop) (target : Value) (b : Nat) : Prop :=
  ∃ a n, target = .table a ∧ n < Vm.maxChain ∧ m.Walk event holds n a b

/-- The first tables on the walk from a value all redirect to a further one. -/
def KeepsRedirecting (m : Machine) (event : String) (holds : Nat → Prop) (target : Value) : Prop :=
  ∃ a b, target = .table a ∧ m.Walk event holds Vm.maxChain a b

/-- None of the first tables on the walk from a value has a function for its handler. -/
def NoFunctionHandles (m : Machine) (event : String) (holds : Nat → Prop) (target : Value) : Prop :=
  ∀ b, m.Visits event holds target b → (m.metamethod b event).isFunction = false

/-- A table where the walk from a value ends. -/
structure EndsAt (m : Machine) (event : String) (holds : Nat → Prop) (target : Value) (b : Nat) :
    Prop where
  visits : m.Visits event holds target b
  stays : ∀ b', ¬ m.Redirects event holds b b'

variable {m : Machine} {event : String} {holds : Nat → Prop}

/-- Every walk ends within a number of steps, or takes that many. -/
theorem walk_ends (m : Machine) (event : String) (holds : Nat → Prop) (limit a : Nat) :
    (∃ b, m.Walk event holds limit a b) ∨
    ∃ n b, n < limit ∧ m.Walk event holds n a b ∧ ∀ b', ¬ m.Redirects event holds b b' := by
  induction limit generalizing a with
  | zero => exact .inl ⟨a, .here a⟩
  | succ limit ih =>
    by_cases redirects : ∃ b, m.Redirects event holds a b
    · obtain ⟨b, first⟩ := redirects
      obtain ⟨b', rest⟩ | ⟨n, b', fewer, rest, stays⟩ := ih b
      · exact .inl ⟨b', .next first rest⟩
      · exact .inr ⟨n + 1, b', Nat.succ_lt_succ fewer, .next first rest, stays⟩
    · exact .inr ⟨0, a, limit.succ_pos, .here a, fun b first => redirects ⟨b, first⟩⟩

/-- A request at a table comes to an end there or at another table, or is redirected all the time. -/
theorem endsAt_or_keepsRedirecting (m : Machine) (event : String) (holds : Nat → Prop) (a : Nat) :
    (∃ b, m.EndsAt event holds (.table a) b) ∨ m.KeepsRedirecting event holds (.table a) := by
  obtain ⟨b, walk⟩ | ⟨n, b, fewer, walk, stays⟩ := walk_ends m event holds Vm.maxChain a
  · exact .inr ⟨a, b, rfl, walk⟩
  · exact .inl ⟨b, ⟨a, n, rfl, fewer, walk⟩, stays⟩

/-- The table holds a value for the key. -/
def Holds (m : Machine) (key : String) (a : Nat) : Prop :=
  ((m.table a).get (utf8Encode key)).isNil = false

/-- The table has the key. -/
def HasKey (m : Machine) (key : String) (a : Nat) : Prop :=
  (m.table a).contains (utf8Encode key) = true

end Machine

/-! ## Calling a handler -/

namespace Vm

/-- The world after a function that was called in another one: its frame is taken away, with all that
    it left above the slots that were there. -/
def after (w w₁ : World) : World :=
  { w₁ with machine := (w₁.machine.leave w.machine.depth).truncate w.machine.height }

/-- How the call of a function on arguments goes in an open machine: it is refused if too many functions
    are running, and otherwise ends as its body does, in a frame that holds the arguments alone. -/
inductive Handles (c : Caller) (w : World) (name : String) (code : NativeCode) (args : List Value) :
    Outcome VmError (Array Value) → World → Prop where
  | refused (full : w.machine.maxDepth ≤ w.machine.depth) :
      Handles c w name code args (.failure .stackOverflow) w
  | returned {claimed : Nat} {w₁ : World} (room : w.machine.depth < w.machine.maxDepth)
      (ran : (c.run code).run (started w (.function name code) args) = (.value claimed, w₁)) :
      Handles c w name code args (.value (w₁.machine.returned w.machine.height claimed)) (after w w₁)
  | failed {text : String} {w₁ : World} (room : w.machine.depth < w.machine.maxDepth)
      (ran : (c.run code).run (started w (.function name code) args) = (.failure text, w₁)) :
      Handles c w name code args (.failure (.runtime text)) (after w w₁)
  | exhausted {w₁ : World} (room : w.machine.depth < w.machine.maxDepth)
      (ran : (c.run code).run (started w (.function name code) args) = (.exhausted, w₁)) :
      Handles c w name code args .exhausted w₁

/-- The first of the results of a handler, nil if there is none. -/
def firstOf (results : Array Value) : Value := results[0]?.getD .nil

end Vm

/-! ## What reading and assigning come to -/

/-- How the reading of a key of a value ends, and in which world; one rule for each end of the walk. -/
inductive Vm.Reads (c : Caller) (key : String) (w : World) (target : Value) :
    Outcome VmError Value → World → Prop where
  | notTable (other : ∀ a, target ≠ .table a) : Reads c key w target (.failure (cannotIndex target key)) w
  | held {b : Nat} (visits : w.machine.Visits "__index" (w.machine.Holds key) target b)
      (holds : w.machine.Holds key b) :
      Reads c key w target (.value ((w.machine.table b).get (utf8Encode key))) w
  | bare {b : Nat} (visits : w.machine.Visits "__index" (w.machine.Holds key) target b)
      (misses : ¬ w.machine.Holds key b) (handler : w.machine.metamethod b "__index" = .nil) :
      Reads c key w target (.value .nil) w
  | called {b : Nat} {name : String} {code : NativeCode} {outcome : Outcome VmError (Array Value)}
      {w' : World} (visits : w.machine.Visits "__index" (w.machine.Holds key) target b)
      (misses : ¬ w.machine.Holds key b)
      (handler : w.machine.metamethod b "__index" = .function name code)
      (handles : Handles c w name code [.table b, .string (utf8Encode key)] outcome w') :
      Reads c key w target (outcome.mapValue firstOf) w'
  | invalid {b : Nat} (visits : w.machine.Visits "__index" (w.machine.Holds key) target b)
      (misses : ¬ w.machine.Holds key b)
      (handler : (w.machine.metamethod b "__index").isNoHandler = true) :
      Reads c key w target
        (.failure (.typeError
          ("invalid __index handler of type " ++ (w.machine.metamethod b "__index").typeName))) w
  | tooLong (redirected : w.machine.KeepsRedirecting "__index" (w.machine.Holds key) target) :
      Reads c key w target (.failure (.runtime "'__index' chain too long")) w

/-- How the assignment of a key of a value ends, and in which world; one rule for each end of the walk. -/
inductive Vm.Assigns (c : Caller) (key : String) (v : Value) (w : World) (target : Value) :
    Outcome VmError Unit → World → Prop where
  | notTable (other : ∀ a, target ≠ .table a) :
      Assigns c key v w target (.failure (cannotIndex target key)) w
  | own {b : Nat} (visits : w.machine.Visits "__newindex" (w.machine.HasKey key) target b)
      (unhandled : w.machine.HasKey key b ∨ w.machine.metamethod b "__newindex" = .nil) :
      Assigns c key v w target (.value ())
        { w with machine := w.machine.setTableField b (utf8Encode key) v }
  | called {b : Nat} {name : String} {code : NativeCode} {outcome : Outcome VmError (Array Value)}
      {w' : World} (visits : w.machine.Visits "__newindex" (w.machine.HasKey key) target b)
      (misses : ¬ w.machine.HasKey key b)
      (handler : w.machine.metamethod b "__newindex" = .function name code)
      (handles : Handles c w name code [.table b, .string (utf8Encode key), v] outcome w') :
      Assigns c key v w target (outcome.mapValue fun _ => ()) w'
  | invalid {b : Nat} (visits : w.machine.Visits "__newindex" (w.machine.HasKey key) target b)
      (misses : ¬ w.machine.HasKey key b)
      (handler : (w.machine.metamethod b "__newindex").isNoHandler = true) :
      Assigns c key v w target
        (.failure (.typeError
          ("invalid __newindex handler of type " ++ (w.machine.metamethod b "__newindex").typeName))) w
  | tooLong (redirected : w.machine.KeepsRedirecting "__newindex" (w.machine.HasKey key) target) :
      Assigns c key v w target (.failure (.runtime "'__newindex' chain too long")) w

namespace Vm

variable {c : Caller} {w w' : World}

/-! ## The run of a handler -/

theorem handles_total (c : Caller) (w : World) (name : String) (code : NativeCode) (args : List Value) :
    ∃ outcome w', Handles c w name code args outcome w' := by
  by_cases full : w.machine.maxDepth ≤ w.machine.depth
  · exact ⟨_, _, .refused full⟩
  · have room := Nat.lt_of_not_le full
    rcases ran : (c.run code).run (started w (.function name code) args) with ⟨_ | _ | _, w₁⟩
    · exact ⟨_, _, .returned room ran⟩
    · exact ⟨_, _, .failed room ran⟩
    · exact ⟨_, _, .exhausted room ran⟩

section Deliver

variable (m : Machine) (slot claimed count : Nat)

theorem stack_deliver_natCast : (m.deliver slot claimed count).stack =
    m.stack.shrink slot ++ resize count (m.returned slot claimed) := by
  have fixed : (count : Int) ≠ -1 := by omega
  rw [stack_deliver, adjust, if_neg fixed, Int.toNat_natCast]

theorem height_deliver_natCast :
    (m.deliver slot claimed count).height - count = (m.stack.shrink slot).size := by
  rw [height, stack_deliver_natCast, Array.size_append, size_resize]
  omega

/-- Taking off the results again leaves what lay below the function. -/
theorem truncate_deliver :
    (m.deliver slot claimed count).truncate ((m.deliver slot claimed count).height - count) =
      m.truncate slot := by
  have stack : (m.stack.shrink slot ++ resize count (m.returned slot claimed)).shrink
      (m.stack.shrink slot).size = m.stack.shrink slot := by
    rw [Array.shrink_eq_take, Array.take_eq_extract, Array.extract_append_left, Array.extract_size]
  rw [height_deliver_natCast]
  show { m with stack := (m.deliver slot claimed count).stack.shrink _ } = _
  rw [stack_deliver_natCast, stack]
  rfl

theorem extract_deliver :
    (m.deliver slot claimed count).stack.extract ((m.deliver slot claimed count).height - count)
      (m.deliver slot claimed count).height = resize count (m.returned slot claimed) := by
  rw [height_deliver_natCast, height, stack_deliver_natCast, Array.size_append]
  simp

end Deliver

/-- A handler is called as said, and what it returns is cut or filled up to the number asked for. -/
theorem run_callValue_of_handles {name : String} {code : NativeCode} {args : List Value}
    {outcome : Outcome VmError (Array Value)} (isOpen : w.machine.isClosed = false)
    (whole : w.machine.base ≤ w.machine.height) (handles : Handles c w name code args outcome w')
    (count : Nat) :
    (callValue c (.function name code) args count).run w =
      (outcome.mapValue fun results => (resize count results).toList, w') := by
  have depth : (prepared w (.function name code) args).machine.depth = w.machine.depth := rfl
  rw [run_callValue, run_call]
  cases handles with
  | refused full =>
    rw [callee_prepared_eq whole isOpen, if_pos full]
    exact congrArg (Prod.mk _) cut_prepared
  | returned room ran =>
    rw [callee_prepared whole isOpen room]
    simp only [run_runFrame, ran, depth, outcomeOf, left]
    simp only [truncate_deliver, extract_deliver, cut]
    rfl
  | failed room ran =>
    rw [callee_prepared whole isOpen room]
    simp only [run_runFrame, ran, depth]
    rfl
  | exhausted room ran =>
    rw [callee_prepared whole isOpen room]
    simp only [run_runFrame, ran]
    rfl

/-! ## Along the walk -/

/-- What goes on with the table that a request is redirected to goes on along the walk. -/
theorem run_walk {α : Type} {f : Nat → Value → Vm α} {event : String} {holds : Nat → Prop}
    (redirected : ∀ {links a b}, w.machine.Redirects event holds a b →
      (f (links + 1) (.table a)).run w = (f links (.table b)).run w)
    {n a b : Nat} (walk : w.machine.Walk event holds n a b) (links : Nat) :
    (f (links + n) (.table a)).run w = (f links (.table b)).run w := by
  induction walk with
  | here a => rfl
  | next first rest ih => exact (redirected first).trans ih

theorem run_of_visits {α : Type} {f : Nat → Value → Vm α} {event : String} {holds : Nat → Prop}
    (redirected : ∀ {links a b}, w.machine.Redirects event holds a b →
      (f (links + 1) (.table a)).run w = (f links (.table b)).run w)
    {target : Value} {b : Nat} (visits : w.machine.Visits event holds target b) :
    ∃ links, (f maxChain target).run w = (f (links + 1) (.table b)).run w := by
  obtain ⟨a, n, rfl, fewer, walk⟩ := visits
  obtain ⟨links, left⟩ : ∃ links, maxChain = links + 1 + n := ⟨maxChain - (n + 1), by omega⟩
  exact ⟨links, by rw [left, run_walk redirected walk]⟩

/-! ## Readings -/

section Reading

variable {key : String} {links a b : Nat}

/-- What a handler does for the reading of a key that its table does not hold. -/
def readBy (c : Caller) (key : String) (links b : Nat) : Value → Vm Value
  | .nil => return .nil
  | .function name code => do
    let results ← callValue c (.function name code) [.table b, .string (utf8Encode key)] 1
    return results.getLast?.getD .nil
  | .table next => index c key links (.table next)
  | other => Action.fail (.typeError ("invalid __index handler of type " ++ other.typeName))

theorem run_index_held (holds : w.machine.Holds key b) :
    (index c key (links + 1) (.table b)).run w =
      (.value ((w.machine.table b).get (utf8Encode key)), w) := by
  have field : ((w.machine.table b).get (utf8Encode key)).isNil = false := holds
  simp only [index, Action.run_bind, run_askMachine, field]
  rfl

theorem run_index_missed (misses : ¬ w.machine.Holds key b) :
    (index c key (links + 1) (.table b)).run w =
      (readBy c key links b (w.machine.metamethod b "__index")).run w := by
  have field : ((w.machine.table b).get (utf8Encode key)).isNil = true := by
    simpa [Machine.Holds] using misses
  simp only [index, Action.run_bind, run_askMachine, field]
  rfl

theorem run_index_redirected (redirects : w.machine.Redirects "__index" (w.machine.Holds key) a b) :
    (index c key (links + 1) (.table a)).run w = (index c key links (.table b)).run w := by
  rw [run_index_missed redirects.misses, redirects.handler, readBy]

theorem getLast?_resize_one (results : Array Value) :
    (resize 1 results).toList.getLast?.getD .nil = firstOf results := by
  obtain ⟨list⟩ := results
  cases list with
  | nil => rfl
  | cons v rest => simp [resize, firstOf]

theorem run_readBy_function (isOpen : w.machine.isClosed = false)
    (whole : w.machine.base ≤ w.machine.height) {name : String} {code : NativeCode}
    {outcome : Outcome VmError (Array Value)}
    (handles : Handles c w name code [.table b, .string (utf8Encode key)] outcome w') :
    (readBy c key links b (.function name code)).run w = (outcome.mapValue firstOf, w') := by
  rw [readBy, Action.run_bind, run_callValue_of_handles isOpen whole handles]
  cases outcome with
  | value results => exact congrArg (fun v => (Outcome.value v, w')) (getLast?_resize_one results)
  | failure e => rfl
  | exhausted => rfl

theorem readBy_invalid {handler : Value} (invalid : handler.isNoHandler = true) :
    readBy c key links b handler =
      Action.fail (.typeError ("invalid __index handler of type " ++ handler.typeName)) := by
  cases handler with
  | nil | table | function => cases invalid
  | _ => rfl

/-- The rules say what a reading comes to. -/
theorem run_index_of_reads {target : Value} {outcome : Outcome VmError Value}
    (isOpen : w.machine.isClosed = false) (whole : w.machine.base ≤ w.machine.height)
    (reads : Reads c key w target outcome w') :
    (index c key maxChain target).run w = (outcome, w') := by
  cases reads with
  | notTable other =>
    cases target with
    | table a => exact absurd rfl (other a)
    | _ => rfl
  -- The walk leads to the table that the rule speaks of, with some links left.
  | held visits holds =>
    obtain ⟨links, same⟩ := run_of_visits run_index_redirected visits
    rw [same, run_index_held holds]
  | bare visits misses handler =>
    obtain ⟨links, same⟩ := run_of_visits run_index_redirected visits
    rw [same, run_index_missed misses, handler]
    rfl
  | called visits misses handler handles =>
    obtain ⟨links, same⟩ := run_of_visits run_index_redirected visits
    rw [same, run_index_missed misses, handler, run_readBy_function isOpen whole handles]
  | invalid visits misses handler =>
    obtain ⟨links, same⟩ := run_of_visits run_index_redirected visits
    rw [same, run_index_missed misses, readBy_invalid handler]
    rfl
  | tooLong redirected =>
    -- The walk uses up all links.
    obtain ⟨a, b, rfl, walk⟩ := redirected
    have same := run_walk (@run_index_redirected c w key) walk 0
    rw [Nat.zero_add] at same
    exact same

/-- There is a rule for every reading. -/
theorem reads_total (c : Caller) (key : String) (w : World) (target : Value) :
    ∃ outcome w', Reads c key w target outcome w' := by
  by_cases isTable : ∃ a, target = .table a
  · obtain ⟨a, rfl⟩ := isTable
    obtain ⟨b, visits, stays⟩ | redirected :=
      endsAt_or_keepsRedirecting w.machine "__index" (w.machine.Holds key) a
    · by_cases holds : w.machine.Holds key b
      · exact ⟨_, _, .held visits holds⟩
      · cases handler : w.machine.metamethod b "__index" with
        | nil => exact ⟨_, _, .bare visits holds handler⟩
        | table b' => exact absurd ⟨holds, handler⟩ (stays b')
        | function name code =>
          obtain ⟨outcome, w', handles⟩ :=
            handles_total c w name code [.table b, .string (utf8Encode key)]
          exact ⟨_, _, .called visits holds handler handles⟩
        | _ => exact ⟨_, _, .invalid visits holds (by rw [handler]; rfl)⟩
    · exact ⟨_, _, .tooLong redirected⟩
  · exact ⟨_, _, .notTable fun a same => isTable ⟨a, same⟩⟩

end Reading

/-! ## Assignments -/

section Assigning

variable {key : String} {v : Value} {links a b : Nat}

/-- What a handler does for the assignment of a key. -/
def assignBy (c : Caller) (key : String) (v : Value) (links b : Nat) : Value → Vm Unit
  | .nil => changeMachine (·.setTableField b (utf8Encode key) v)
  | .function name code => do
    let _ ← callValue c (.function name code) [.table b, .string (utf8Encode key), v] 0
    return ()
  | .table next => newIndex c key v links (.table next)
  | other => Action.fail (.typeError ("invalid __newindex handler of type " ++ other.typeName))

theorem newIndexHandler_own {m : Machine} (unhandled : m.HasKey key b ∨ m.metamethod b "__newindex" = .nil) :
    m.newIndexHandler b key = .nil := by
  rw [newIndexHandler]
  obtain owns | bare := unhandled
  · exact if_pos owns
  · rw [bare, ite_self]

theorem newIndexHandler_missed {m : Machine} (misses : ¬ m.HasKey key b) :
    m.newIndexHandler b key = m.metamethod b "__newindex" := if_neg misses

theorem run_newIndex : (newIndex c key v (links + 1) (.table b)).run w =
    (assignBy c key v links b (w.machine.newIndexHandler b key)).run w := by
  rw [newIndex, Action.run_bind, run_askMachine]
  cases w.machine.newIndexHandler b key <;> rfl

theorem run_newIndex_redirected
    (redirects : w.machine.Redirects "__newindex" (w.machine.HasKey key) a b) :
    (newIndex c key v (links + 1) (.table a)).run w = (newIndex c key v links (.table b)).run w := by
  rw [run_newIndex, newIndexHandler_missed redirects.misses, redirects.handler, assignBy]

theorem run_assignBy_function (isOpen : w.machine.isClosed = false)
    (whole : w.machine.base ≤ w.machine.height) {name : String} {code : NativeCode}
    {outcome : Outcome VmError (Array Value)}
    (handles : Handles c w name code [.table b, .string (utf8Encode key), v] outcome w') :
    (assignBy c key v links b (.function name code)).run w = (outcome.mapValue fun _ => (), w') := by
  rw [assignBy, Action.run_bind, run_callValue_of_handles isOpen whole handles]
  cases outcome <;> rfl

theorem assignBy_invalid {handler : Value} (invalid : handler.isNoHandler = true) :
    assignBy c key v links b handler =
      Action.fail (.typeError ("invalid __newindex handler of type " ++ handler.typeName)) := by
  cases handler with
  | nil | table | function => cases invalid
  | _ => rfl

/-- The rules say what an assignment comes to. -/
theorem run_newIndex_of_assigns {target : Value} {outcome : Outcome VmError Unit}
    (isOpen : w.machine.isClosed = false) (whole : w.machine.base ≤ w.machine.height)
    (assigns : Assigns c key v w target outcome w') :
    (newIndex c key v maxChain target).run w = (outcome, w') := by
  cases assigns with
  | notTable other =>
    cases target with
    | table a => exact absurd rfl (other a)
    | _ => rfl
  -- As in a reading, some links are left where the walk ends.
  | own visits unhandled =>
    obtain ⟨links, same⟩ := run_of_visits run_newIndex_redirected visits
    rw [same, run_newIndex, newIndexHandler_own unhandled]
    rfl
  | called visits misses handler handles =>
    obtain ⟨links, same⟩ := run_of_visits run_newIndex_redirected visits
    rw [same, run_newIndex, newIndexHandler_missed misses, handler,
      run_assignBy_function isOpen whole handles]
  | invalid visits misses handler =>
    obtain ⟨links, same⟩ := run_of_visits run_newIndex_redirected visits
    rw [same, run_newIndex, newIndexHandler_missed misses, assignBy_invalid handler]
    rfl
  | tooLong redirected =>
    obtain ⟨a, b, rfl, walk⟩ := redirected
    have same := run_walk (@run_newIndex_redirected c w key v) walk 0
    rw [Nat.zero_add] at same
    exact same

/-- There is a rule for every assignment. -/
theorem assigns_total (c : Caller) (key : String) (v : Value) (w : World) (target : Value) :
    ∃ outcome w', Assigns c key v w target outcome w' := by
  by_cases isTable : ∃ a, target = .table a
  · obtain ⟨a, rfl⟩ := isTable
    obtain ⟨b, visits, stays⟩ | redirected :=
      endsAt_or_keepsRedirecting w.machine "__newindex" (w.machine.HasKey key) a
    · by_cases owns : w.machine.HasKey key b
      · exact ⟨_, _, .own visits (.inl owns)⟩
      · cases handler : w.machine.metamethod b "__newindex" with
        | nil => exact ⟨_, _, .own visits (.inr handler)⟩
        | table b' => exact absurd ⟨owns, handler⟩ (stays b')
        | function name code =>
          obtain ⟨outcome, w', handles⟩ :=
            handles_total c w name code [.table b, .string (utf8Encode key), v]
          exact ⟨_, _, .called visits owns handler handles⟩
        | _ => exact ⟨_, _, .invalid visits owns (by rw [handler]; rfl)⟩
    · exact ⟨_, _, .tooLong redirected⟩
  · exact ⟨_, _, .notTable fun a same => isTable ⟨a, same⟩⟩

end Assigning

/-! ## What is left -/

section Left

variable {depth : Nat} {key : String} {v target : Value}

/-- A handler that ends and leaves the machine open leaves the stack and the frames as they were. -/
theorem Handles.restores {name : String} {code : NativeCode} {args : List Value}
    {outcome : Outcome VmError (Array Value)} (handles : Handles (callerAt depth) w name code args outcome w')
    (isOpen : w.machine.isClosed = false) (whole : w.machine.base ≤ w.machine.height)
    (ended : outcome ≠ .exhausted) (isOpen' : w'.machine.isClosed = false) :
    w'.machine.stack = w.machine.stack ∧ w'.machine.frames = w.machine.frames := by
  -- What ran in the handler's frame is gone, and it left what lay below alone.
  have restored {w₁ : World} {outcome₁ : Outcome String Nat} (room : w.machine.depth < w.machine.maxDepth)
      (ran : ((callerAt depth).run code).run (started w (.function name code) args) = (outcome₁, w₁))
      (ended₁ : outcome₁ ≠ .exhausted) (isOpen₁ : w₁.machine.isClosed = false) :
      (after w w₁).machine.stack = w.machine.stack ∧ (after w w₁).machine.frames = w.machine.frames := by
    have about : AboutToCall (prepared w (.function name code) args).machine w.machine.stack name code
        args.toArray := ⟨rfl, whole, room, isOpen⟩
    obtain ⟨frames, frame, stack⟩ := about.stack_ran ran ended₁ isOpen₁
    refine ⟨?_, ?_⟩
    · show w₁.machine.stack.shrink w.machine.stack.size = w.machine.stack
      rw [stack, shrink_below]
    · show w₁.machine.frames.shrink w.machine.frames.size = w.machine.frames
      rw [frames]
      simp [prepared]
  cases handles with
  | refused full => exact ⟨rfl, rfl⟩
  | returned room ran => exact restored room ran (by simp) isOpen'
  | failed room ran => exact restored room ran (by simp) isOpen'
  | exhausted room ran => exact absurd rfl ended

theorem mapValue_ne_exhausted {ε α β : Type} {f : α → β} {outcome : Outcome ε α}
    (ended : outcome.mapValue f ≠ .exhausted) : outcome ≠ .exhausted := fun same => by
  subst same
  exact ended rfl

theorem Reads.restores {outcome : Outcome VmError Value}
    (reads : Reads (callerAt depth) key w target outcome w') (isOpen : w.machine.isClosed = false)
    (whole : w.machine.base ≤ w.machine.height) (ended : outcome ≠ .exhausted)
    (isOpen' : w'.machine.isClosed = false) :
    w'.machine.stack = w.machine.stack ∧ w'.machine.frames = w.machine.frames := by
  cases reads with
  | called visits misses handler handles =>
    exact handles.restores isOpen whole (mapValue_ne_exhausted ended) isOpen'
  | _ => exact ⟨rfl, rfl⟩

theorem Assigns.restores {outcome : Outcome VmError Unit}
    (assigns : Assigns (callerAt depth) key v w target outcome w') (isOpen : w.machine.isClosed = false)
    (whole : w.machine.base ≤ w.machine.height) (ended : outcome ≠ .exhausted)
    (isOpen' : w'.machine.isClosed = false) :
    w'.machine.stack = w.machine.stack ∧ w'.machine.frames = w.machine.frames := by
  cases assigns with
  | called visits misses handler handles =>
    exact handles.restores isOpen whole (mapValue_ne_exhausted ended) isOpen'
  | _ => exact ⟨rfl, rfl⟩

/-- Without a function on its way a reading changes nothing, and ends. -/
theorem Reads.changes_nothing {outcome : Outcome VmError Value} (reads : Reads c key w target outcome w')
    (none : w.machine.NoFunctionHandles "__index" (w.machine.Holds key) target) :
    w' = w ∧ outcome ≠ .exhausted := by
  cases reads with
  | called visits misses handler handles =>
    have noFunction := none _ visits
    rw [handler] at noFunction
    cases noFunction
  | _ => exact ⟨rfl, by simp⟩

/-- Without a function on its way an assignment changes the last table of the walk, or nothing. -/
theorem Assigns.changes_one {outcome : Outcome VmError Unit}
    (assigns : Assigns c key v w target outcome w')
    (none : w.machine.NoFunctionHandles "__newindex" (w.machine.HasKey key) target) :
    (∃ b, w.machine.EndsAt "__newindex" (w.machine.HasKey key) target b ∧ outcome = .value () ∧
      w' = { w with machine := w.machine.setTableField b (utf8Encode key) v }) ∨
    ∃ e, outcome = .failure e ∧ w' = w := by
  cases assigns with
  | own visits unhandled =>
    refine .inl ⟨_, ⟨visits, fun b' redirects => ?_⟩, rfl, rfl⟩
    obtain owns | bare := unhandled
    · exact redirects.misses owns
    · exact Value.noConfusion (bare.symm.trans redirects.handler)
  | called visits misses handler handles =>
    have noFunction := none _ visits
    rw [handler] at noFunction
    cases noFunction
  | _ => exact .inr ⟨_, rfl, rfl⟩

end Left

/-! ## Access to a field -/

/-- The value at an index is read in some way, and what it comes to is pushed.  (The way is left open here
    because all of the chain of tables would be unfolded otherwise.) -/
theorem run_reading {f : Value → Vm Value} {i : Int} {outcome : Outcome VmError Value}
    (isOpen : w.machine.isClosed = false) (ran : (f (w.machine.valueAt i)).run w = (outcome, w')) :
    (do
      Action.ofExcept (← askMachine (·.checkOpen))
      let v ← f (← askMachine (·.valueAt i))
      changeMachine (·.push v)
      return v.typeName : Vm String).run w =
      (outcome.mapValue Value.typeName, { w' with machine := w'.machine.offer outcome.value? }) := by
  have checked : w.machine.checkOpen = .ok () := by
    rw [checkOpen, isOpen]
    rfl
  simp only [Action.run_bind, run_askMachine, checked, Action.run_ofExcept_ok, ran]
  cases outcome <;> rfl

theorem run_getField {i : Int} {key : String} {outcome : Outcome VmError Value}
    (isOpen : w.machine.isClosed = false)
    (ran : (index c key maxChain (w.machine.valueAt i)).run w = (outcome, w')) :
    (getField c i key).run w =
      (outcome.mapValue Value.typeName, { w' with machine := w'.machine.offer outcome.value? }) :=
  run_reading isOpen ran

theorem run_setField (c : Caller) (i : Int) (key : String) (isOpen : w.machine.isClosed = false) :
    (setField c i key).run w =
      (newIndex c key w.machine.popValue.1 maxChain (w.machine.valueAt i)).run w.popped := by
  have checked : w.machine.checkOpen = .ok () := by
    rw [checkOpen, isOpen]
    rfl
  simp only [setField, Action.run_bind, run_askMachine, checked, Action.run_ofExcept_ok, run_onMachine]
  rfl

end Vm

theorem Machine.stack_popValue {m : Machine} (filled : m.base < m.height) :
    m.popValue.2.stack = m.stack.pop := by
  rw [popValue, if_pos filled]

open Vm in
/-- In an open machine a key is read and assigned as the walk from table to table says, whatever tables
    there are and however they refer to each other.

    A reading pushes the one value that it comes to, and nothing if it fails.  Where no function is on
    the way it ends, and nothing is changed beside; and whatever a function on the way does, unless it
    closes the machine, the stack is as it was.

    An assignment takes the value off the frame in any case.  Where no function is on the way it ends,
    and either sets the key in the table where the walk ends or changes nothing. -/
theorem field_access_follows_walk (depth : Nat) {w : World} (isOpen : w.machine.isClosed = false)
    (whole : w.machine.base ≤ w.machine.height) (i : Int) (key : String) :
    ((∃ outcome w₁, Reads (callerAt depth) key w (w.machine.valueAt i) outcome w₁) ∧
      ∀ outcome w₁, Reads (callerAt depth) key w (w.machine.valueAt i) outcome w₁ →
        (getField (callerAt depth) i key).run w =
          (outcome.mapValue Value.typeName, { w₁ with machine := w₁.machine.offer outcome.value? }) ∧
        (w.machine.NoFunctionHandles "__index" (w.machine.Holds key) (w.machine.valueAt i) →
          w₁ = w ∧ outcome ≠ .exhausted) ∧
        (outcome ≠ .exhausted → w₁.machine.isClosed = false →
          w₁.machine.stack = w.machine.stack ∧ w₁.machine.frames = w.machine.frames)) ∧
    ((∃ outcome w₁, Assigns (callerAt depth) key w.machine.popValue.1 w.popped (w.machine.valueAt i)
        outcome w₁) ∧
      ∀ outcome w₁, Assigns (callerAt depth) key w.machine.popValue.1 w.popped (w.machine.valueAt i)
          outcome w₁ →
        (setField (callerAt depth) i key).run w = (outcome, w₁) ∧
        (w.popped.machine.NoFunctionHandles "__newindex" (w.popped.machine.HasKey key)
            (w.machine.valueAt i) →
          (∃ b, w.popped.machine.EndsAt "__newindex" (w.popped.machine.HasKey key)
              (w.machine.valueAt i) b ∧
            outcome = .value () ∧
            w₁ = { w.popped with
              machine := w.popped.machine.setTableField b (utf8Encode key) w.machine.popValue.1 }) ∨
          ∃ e, outcome = .failure e ∧ w₁ = w.popped) ∧
        (outcome ≠ .exhausted → w₁.machine.isClosed = false → w.machine.base < w.machine.height →
          w₁.machine.stack = w.machine.stack.pop ∧ w₁.machine.frames = w.machine.frames)) := by
  have popped := isSteady_popValue
  have isOpen₁ : w.popped.machine.isClosed = false := (popped.isClosed w.machine).trans isOpen
  have whole₁ : w.popped.machine.base ≤ w.popped.machine.height := popped.staysWhole whole
  refine ⟨⟨reads_total _ _ _ _, fun outcome w₁ reads => ⟨?_, reads.changes_nothing, ?_⟩⟩,
    assigns_total _ _ _ _ _, fun outcome w₁ assigns => ⟨?_, assigns.changes_one, ?_⟩⟩
  · exact run_getField isOpen (run_index_of_reads isOpen whole reads)
  · exact reads.restores isOpen whole
  · rw [run_setField _ i key isOpen, run_newIndex_of_assigns isOpen₁ whole₁ assigns]
  -- The value is popped before the walk begins, so it is gone however that ends.
  · intro ended isOpen' filled
    obtain ⟨stack, frames⟩ := assigns.restores isOpen₁ whole₁ ended isOpen'
    exact ⟨stack.trans (Machine.stack_popValue filled), frames.trans (popped.frames w.machine)⟩

/-- Two tables, each with a metatable: that of the first names the second for both events, and that of
    the second has a function that gives a text for readings. -/
def chainWorld : World :=
  let fields (entries : List (String × Value)) : Dict Bytes Value :=
    ⟨entries.map fun e => (utf8Encode e.1, e.2)⟩
  { machine := { Machine.start 1 with
      stack := #[.table 0, .boolean true]
      tables := #[⟨fields [], some 1⟩,
        ⟨fields [("__index", .table 2), ("__newindex", .table 2)], none⟩,
        ⟨fields [], some 3⟩, ⟨fields [("__index", .function "f" (.label "x"))], none⟩] }
    session := .start {}, host := .empty, events := #[] }

theorem field_access_follows_walk_of_chain :
    chainWorld.machine.isClosed = false ∧ chainWorld.machine.base ≤ chainWorld.machine.height ∧
      ((Vm.getField (callerAt 1) 1 "k").run chainWorld).1 = .value "string" ∧
      ((Vm.getField (callerAt 1) 1 "k").run chainWorld).2.machine.stack =
        #[.table 0, .boolean true, .string (utf8Encode "x")] ∧
      (Vm.setField (callerAt 1) 1 "k").run chainWorld =
        (.value (), { chainWorld.popped with
          machine := chainWorld.popped.machine.setTableField 2 (utf8Encode "k") (.boolean true) }) := by
  have whole : chainWorld.machine.base ≤ chainWorld.machine.height := by decide
  obtain ⟨⟨_, reads⟩, _, assigns⟩ := @field_access_follows_walk 1 chainWorld rfl whole 1 "k"
  have misses (b : Nat) (empty : chainWorld.machine.table b = ⟨.empty, some (b + 1)⟩) :
      ¬ chainWorld.machine.Holds "k" b ∧ ¬ chainWorld.machine.HasKey "k" b := by
    rw [Machine.Holds, Machine.HasKey, empty]
    exact ⟨Bool.noConfusion, Bool.noConfusion⟩
  have visits : chainWorld.machine.Visits "__index" (chainWorld.machine.Holds "k") (.table 0) 2 :=
    ⟨0, 1, rfl, by decide, .next ⟨(misses 0 rfl).1, rfl⟩ (.here 2)⟩
  have visits' : chainWorld.popped.machine.Visits "__newindex" (chainWorld.popped.machine.HasKey "k")
      (.table 0) 2 := ⟨0, 1, rfl, by decide, .next ⟨(misses 0 rfl).2, rfl⟩ (.here 2)⟩
  have ran : ((callerAt 1).run (.label "x")).run (Vm.started chainWorld (.function "f" (.label "x"))
      [.table 2, .string (utf8Encode "k")]) = (.value 1, _) := rfl
  obtain ⟨read, _, restores⟩ := reads _ _ (.called visits (misses 2 rfl).1 rfl (.returned (by decide) ran))
  obtain ⟨stack, _⟩ := restores (by simp [Outcome.mapValue]) rfl
  obtain ⟨assigned, _⟩ := assigns _ _ (.own visits' (.inr rfl))
  refine ⟨rfl, whole, by rw [read]; rfl, ?_, assigned⟩
  rw [read]
  exact congrArg (·.push (Value.string (utf8Encode "x"))) stack

end ScriptHost
