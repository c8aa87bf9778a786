import Mathlib.Data.List.Nodup
import ScriptHost.Proofs.Provenance.Members
import ScriptHost.Proofs.Session.Crossing
import ScriptHost.Proofs.Session.Forwarding
/-!
# What sessions register, command by command

A session only comes to new descriptors by registering types.  `Command.registrations` is the list of all
that a run registers, in order.  After a run the descriptors in the stores are those of that list, with
those that the host had brought along, and the tags of the list count up from one.
-/

namespace ScriptHost

open Yields

/-! ## Registrations -/

/-- The descriptor that a command registers its type with, if it does. -/
def Command.registered? : Command → World → Option TypeDescriptor
  | bind _ command, w => command.registered? w
  | forward spec, w | register spec, w =>
    let built := spec.build w.host
    ((Session.registerType built.1).run { w with host := built.2 }).1.value?
  | _, _ => none

/-- All descriptors that a run of commands registers, also where types are registered again. -/
def Command.registrations (c : Caller) : List Command → World → List TypeDescriptor
  | [], _ => []
  | command :: rest, w =>
    (command.registered? w).toList ++
      match (command.answer c).run w with
      | (.value _, w') => registrations c rest w'
      | _ => []

/-- The tags of what was registered count up from one, and the next one follows. -/
structure TypeDirectory.Counts (r : TypeDirectory) (past : List TypeDescriptor) : Prop where
  tags : past.map (·.tag) = (List.range' 1 past.length).map UInt32.ofNat
  next : r.nextTag = UInt32.ofNat (past.length + 1)

namespace TypeDirectory

theorem counts_empty : empty.Counts [] := ⟨rfl, rfl⟩

theorem Counts.register {r : TypeDirectory} {past : List TypeDescriptor} (counts : r.Counts past)
    (d : TypeDescriptor) : (r.register d).2.Counts (past ++ [(r.register d).1]) where
  tags := by
    have last : (r.register d).1.tag = UInt32.ofNat (1 + past.length) := by
      rw [Nat.add_comm]
      exact counts.next
    rw [List.length_append, List.length_singleton, List.range'_concat, List.map_append, List.map_append,
      counts.tags, Nat.one_mul, List.map_singleton, List.map_singleton, last]
  next := by
    show r.nextTag + 1 = _
    rw [counts.next, List.length_append, List.length_singleton, ← UInt32.ofNat_one, ← UInt32.ofNat_add]

variable {r : TypeDirectory} {past : List TypeDescriptor}

/-- Fewer than 2³² tags are all different. -/
theorem Counts.nodup (counts : r.Counts past) (few : past.length < UInt32.size) :
    (past.map (·.tag)).Nodup := by
  rw [counts.tags]
  refine List.Nodup.map_on (fun x inside y inside' same => ?_) (List.nodup_range' 1)
  rw [List.mem_range'_1] at inside inside'
  have same := congrArg UInt32.toNat same
  rwa [UInt32.toNat_ofNat_of_lt' (by omega), UInt32.toNat_ofNat_of_lt' (by omega)] at same

/-- Zero would come up only after all other tags. -/
theorem Counts.ne_zero (counts : r.Counts past) (few : past.length < UInt32.size) {d : TypeDescriptor}
    (member : d ∈ past) : d.tag ≠ 0 := by
  have listed : d.tag ∈ past.map (·.tag) := List.mem_map_of_mem member
  rw [counts.tags] at listed
  obtain ⟨x, inside, tag⟩ := List.mem_map.1 listed
  rw [List.mem_range'_1] at inside
  intro zero
  rw [zero] at tag
  have same := congrArg UInt32.toNat tag
  rw [UInt32.toNat_ofNat_of_lt' (by omega), UInt32.toNat_zero] at same
  omega

end TypeDirectory

/-! ## Worlds with a past -/

section

variable (foreign : TypeDescriptor → Prop) (past : List TypeDescriptor)

/-- A descriptor that the session has registered, or one that the host has from elsewhere. -/
def Known (d : TypeDescriptor) : Prop := d ∈ past ∨ foreign d

structure World.Remembers (w : World) : Prop where
  isFrom : w.IsFrom (Known foreign past)
  counts : w.session.types.Counts past

/-- An action has ended in a world with the given past, and what it gives is good. -/
structure Files {ε α : Type} (good : α → Prop) (ended : Outcome ε α × World) : Prop where
  remembers : ended.2.Remembers foreign past
  good : ∀ a, ended.1 = .value a → good a

end

variable {foreign : TypeDescriptor → Prop} {past : List TypeDescriptor} {ε ε' α β : Type} {good : α → Prop}
  {good' : β → Prop} {w : World}

theorem Yields.files {x : Action World ε α} (yields : Yields (Known foreign past) good x)
    (remembers : w.Remembers foreign past) : Files foreign past good (x.run w) := by
  obtain ⟨isFrom, types, isGood⟩ := yields w remembers.isFrom
  exact ⟨⟨isFrom, by rw [types]; exact remembers.counts⟩, isGood⟩

namespace Files

theorem seq {x : Action World ε α} {f : α → Action World ε β} (first : Files foreign past good (x.run w))
    (second : ∀ a, good a → Yields (Known foreign past) good' (f a)) :
    Files foreign past good' ((x >>= f).run w) := by
  obtain ⟨remembers, isGood⟩ := first
  rw [Action.run_bind]
  rcases ran : x.run w with ⟨a | e | _, w₁⟩ <;> rw [ran] at remembers isGood
  · exact (second a (isGood a rfl)).files remembers
  · exact ⟨remembers, fun _ same => by cases same⟩
  · exact ⟨remembers, fun _ same => by cases same⟩

theorem attempt {x : Action World ε α} (files : Files foreign past good (x.run w)) :
    Files foreign past (fun _ => True) ((Action.attempt x : Action World ε' (Except ε α)).run w) := by
  rw [Action.run_attempt_eq]
  exact ⟨files.remembers, fun _ _ => trivial⟩

end Files

theorem Known.mono {d : TypeDescriptor} (isKnown : Known foreign past d) (new : List TypeDescriptor) :
    Known foreign (past ++ new) d :=
  isKnown.imp_left (List.mem_append_left new)

/-- A type is registered under the next tag, which makes its descriptor known. -/
theorem World.Remembers.registered (remembers : w.Remembers foreign past) (d : TypeDescriptor) :
    (Session.registered w d).Remembers foreign (past ++ [{ d with tag := w.session.types.nextTag }]) where
  isFrom := by
    obtain ⟨host, session⟩ := remembers.isFrom.mono fun _ isKnown =>
      isKnown.mono [{ d with tag := w.session.types.nextTag }]
    refine ⟨host, ⟨fun type d' found => ?_, session.surfaces, session.handles⟩⟩
    -- Another type keeps the descriptor that it was last registered with.
    have found : (w.session.types.types.insert d.type
      { d with tag := w.session.types.nextTag }).get? type = some d' := found
    rw [Dict.get?_insert] at found
    split at found
    · cases found
      exact .inl (List.mem_append_right past (List.mem_singleton_self _))
    · exact session.types type d' found
  counts := remembers.counts.register d

/-! ## Operations of sessions -/

namespace Yields

variable {known : TypeDescriptor → Prop}

theorem checkOpen : KeepsTo known Session.checkOpen :=
  (lookAtSession _).seq fun isTornDown _ => whenTrue isTornDown (fail _) (value trivial)

theorem sessionNow {ε : Type} : KeepsTo known (World.sessionNow : Action World ε Session) :=
  lookAtSession fun s => s

theorem hostNow {ε : Type} : KeepsTo known (World.hostNow : Action World ε HostStore) :=
  lookAtHost fun h => h

theorem releaseToken (t : Token) : KeepsTo known (Session.releaseToken t) := by
  have released : KeepsTo known (World.changeSession fun s =>
      { s with handles := (s.handles.release t).2, proxies := s.proxies.erase t } : Bridge Unit) :=
    changeSession (fun _ isFrom => ⟨isFrom.types, isFrom.surfaces, isFrom.handles.release t⟩) fun _ => rfl
  refine (lookAtSession _).seq fun proxy _ => released.seq fun _ _ => ?_
  cases proxy with
  | some reference => exact changeMachine _
  | none => exact value trivial

theorem setGlobal (name : String) {v : HostValue} (good : v.IsFrom known) :
    KeepsTo known (Session.setGlobal name v) :=
  checkOpen.seq fun _ _ => (push good).seq fun _ _ => changeMachine _

theorem getGlobal (name : String) : Yields known (HostValue.IsFrom known) (Session.getGlobal name) :=
  checkOpen.seq fun _ _ => global name

theorem pushObject (name : String) (type : RecordType) (i : Nat) :
    Yields known (HostValue.IsFrom known) (Session.pushObject name type i) := by
  refine checkOpen.seq fun _ _ => (wrap type i).seq fun _ isKnown => (ofRules isKnown).seq fun o isKnown => ?_
  have good : (HostValue.object o).IsFrom known := isKnown
  exact (setGlobal name good).seq fun _ _ => value good

theorem withdraw (previous : Surface) (name : String) : KeepsTo known (Session.withdraw previous name) := by
  have renamed : KeepsTo known (if previous.typeName ≠ name then
      World.changeMachine fun m => (m.push .nil).setGlobal previous.typeName else pure () : Bridge Unit) := by
    split
    · exact changeMachine _
    · exact value trivial
  refine (lookAtHost _).seq fun t _ => ?_
  cases t with
  | some t => exact (releaseToken t).seq fun _ _ => renamed
  | none => exact renamed

theorem report {α : Type} (e : VmError) : KeepsTo known (Session.report e : Bridge α) :=
  (emit _).seq fun _ _ => fail _

theorem reporting {α : Type} {x : Vm α} (keeps : KeepsTo known x) : KeepsTo known (Session.reporting x) := by
  refine keeps.attempt.seq fun result _ => ?_
  cases result with
  | ok a => exact value trivial
  | error e => exact report e

theorem setChunk (chunk : Option Nat) :
    KeepsTo known (World.changeSession fun s => { s with chunk } : Bridge Unit) :=
  changeSession (fun _ isFrom => isFrom.of_same rfl rfl rfl) fun _ => rfl

theorem loadText (chunk source : String) : KeepsTo known (Session.loadText chunk source) := by
  refine checkOpen.seq fun _ _ => (reporting (tryMachine _)).seq fun _ _ => (onMachine _).seq fun _ _ =>
    (changeMachine _).seq fun _ _ => (lookAtSession _).seq fun stale _ => (setChunk _).seq fun _ _ => ?_
  cases stale with
  | some stale => exact changeMachine _
  | none => exact value trivial

theorem takeChunk : KeepsTo known Session.takeChunk := by
  refine (lookAtSession _).seq fun chunk _ => ?_
  cases chunk with
  | none => exact value trivial
  | some reference => exact (setChunk _).seq fun _ _ => (changeMachine _).seq fun _ _ => value trivial

theorem teardown : KeepsTo known Session.teardown := by
  refine sessionNow.seq fun s _ => whenTrue s.isTornDown (value trivial) ?_
  have cleared : KeepsTo known (World.changeSession fun s =>
      { s with
        handles := s.handles.releaseAll.2, proxies := .empty, surfaces := .empty, chunk := none,
        isTornDown := true } : Bridge Unit) :=
    changeSession (fun s isFrom => ⟨isFrom.types, (fun _ _ found => by cases found),
      HandleStore.IsFrom.releaseAll s.handles⟩) fun _ => rfl
  cases s.chunk with
  | some reference =>
    exact (changeMachine _).seq fun _ _ => cleared.seq fun _ _ => changeMachine _
  | none => exact cleared.seq fun _ _ => changeMachine _

end Yields

namespace Caller.Minds

variable {known : TypeDescriptor → Prop} {c : Caller} (minds : c.Minds known)

include minds

theorem execute : KeepsTo known (Session.execute c) :=
  checkOpen.seq fun _ _ => takeChunk.seq fun isLoaded _ =>
    whenTrue isLoaded (reporting (minds.call 0 0 true)) (report _)

theorem callGlobal (name : String) {args : List HostValue} (good : ∀ v ∈ args, v.IsFrom known) :
    Yields known (HostValue.IsFrom known) (Session.callGlobal c name args) :=
  checkOpen.seq fun _ _ => (askMachine _).seq fun size _ => (changeMachine _).seq fun _ _ =>
    (pushAll size good).seq fun _ _ => minds.finishCall size args.length

end Caller.Minds

/-! ## Commands -/

def Reply.IsFrom (known : TypeDescriptor → Prop) : Reply HostValue → Prop
  | .value v => v.IsFrom known
  | .surface s _ => known s.descriptor
  | _ => True

section Replies

variable {known : TypeDescriptor → Prop} {c : Caller}

theorem Command.isFrom_savedValue (command : Command) {reply : Reply HostValue}
    (isFrom : reply.IsFrom known) : (command.savedValue reply).IsFrom known := by
  cases command <;> first
    | exact trivial
    | cases reply <;> first | exact trivial | exact isFrom

theorem Command.isFrom_replyResult {result : Option HostValue} (good : ∀ v ∈ result, v.IsFrom known) :
    (replyResult result).IsFrom known := by
  cases result with
  | some v => exact good v rfl
  | none => trivial

theorem Yields.replySurface {s : Surface} (isKnown : known s.descriptor) :
    Yields known (Reply.IsFrom known) (Command.replySurface s) :=
  (lookAtHost _).seq fun _ _ => value isKnown

theorem Caller.Minds.useMember (minds : c.Minds known) {s : Surface} (isKnown : known s.descriptor)
    (name : String) {args : List HostValue} (good : ∀ v ∈ args, v.IsFrom known) :
    Yields known (Reply.IsFrom known) (Command.useMember c s name args) := by
  rw [Command.useMember]
  cases s.member name with
  | none => exact value trivial
  | some member =>
    cases member with
    | field a | property a =>
      cases args with
      | nil => exact (readStatic a).seq fun _ good => value good
      | cons v rest => exact (writeStatic a name (List.forall_mem_cons.1 good).1).seq fun _ _ => value trivial
    | method | constructor =>
      exact (minds.invokeMember_surface good isKnown name).seq fun _ good =>
        value (Command.isFrom_replyResult good)

end Replies

/-! ## Registering -/

theorem files_registerType (remembers : w.Remembers foreign past) (d : TypeDescriptor) :
    let past' := past ++ ((Session.registerType d).run w).1.value?.toList
    Files foreign past' (Known foreign past') ((Session.registerType d).run w) := by
  have refused {r : Raised} (ran : (Session.registerType d).run w = (.failure r, w)) :
      let past' := past ++ ((Session.registerType d).run w).1.value?.toList
      Files foreign past' (Known foreign past') ((Session.registerType d).run w) := by
    rw [ran]
    show Files foreign (past ++ []) _ _
    rw [List.append_nil]
    exact ⟨remembers, fun _ same => by cases same⟩
  cases isOpen : w.session.isTornDown with
  | true =>
    have ran : (Session.registerType d).run w = (.failure (.error (.vm .closed)), w) := by
      simp [Session.registerType, Session.checkOpen, isOpen, Bridge.fail]
    exact refused ran
  | false =>
    by_cases admits : w.session.Admits d.type
    · rw [Session.run_registerType isOpen admits]
      refine ⟨remembers.registered d, fun d' same => ?_⟩
      cases same
      exact .inl (List.mem_append_right past (List.mem_singleton_self _))
    · obtain ⟨r, ran⟩ := Session.run_registerType_of_not_admits isOpen admits
      exact refused ran

/-- What a forwarding registers stays registered, whether it succeeds or not. -/
theorem files_forwardType (remembers : w.Remembers foreign past) (d : TypeDescriptor) :
    let past' := past ++ ((Session.registerType d).run w).1.value?.toList
    Files foreign past' (fun s : Surface => Known foreign past' s.descriptor)
      ((Session.forwardType d).run w) := by
  intro past'
  refine (files_registerType remembers d).seq fun d' isKnown => ?_
  -- The surface is made of the descriptor that registering yielded, so it is as well known.
  have made : Yields (Known foreign past') (fun s : Surface => Known foreign past' s.descriptor)
      (World.onHost (·.newSurface d') : Bridge Surface) :=
    onHost fun _ isFrom => ⟨isFrom.of_same rfl rfl rfl, isKnown⟩
  refine made.seq fun surface isKnown => ?_
  have good : (HostValue.surface surface).IsFrom (Known foreign past') := isKnown
  have entered : KeepsTo (Known foreign past') (World.changeSession fun s =>
      { s with surfaces := s.surfaces.insert d'.type surface } : Bridge Unit) := by
    refine changeSession (fun s isFrom => ⟨isFrom.types, fun type other found => ?_, isFrom.handles⟩)
      fun _ => rfl
    have found : (s.surfaces.insert d'.type surface).get? type = some other := found
    rw [Dict.get?_insert] at found
    split at found
    · cases found
      exact isKnown
    · exact isFrom.surfaces type other found
  refine (setGlobal d'.name good).seq fun _ _ => (lookAtSession _).seq fun previous _ =>
    entered.seq fun _ _ => ?_
  cases previous with
  | some previous => exact (withdraw previous d'.name).seq fun _ _ => value isKnown
  | none => exact value isKnown

/-! ## Runs -/

section Runs

variable {c : Caller} (minds : ∀ known, c.Minds known)

include minds

theorem files_perform (command : Command) (remembers : w.Remembers foreign past) :
    let past' := past ++ (command.registered? w).toList
    Files foreign past' (Reply.IsFrom (Known foreign past')) ((command.perform c).run w) := by
  have minds := minds (Known foreign past)
  have isFrom : Scope.IsFrom (Known foreign past) Command.scope :=
    Scope.isFrom_unbound fun _ member => by cases member
  -- Types are registered as the host is after it has built their descriptors.
  have built (spec : TypeSpec) :
      { w with host := (spec.build w.host).2 }.Remembers foreign past :=
    ⟨⟨remembers.isFrom.host.build spec, remembers.isFrom.session⟩, remembers.counts⟩
  -- Most commands register nothing, and add nothing to the past.
  have plain {x : Bridge (Reply HostValue)}
      (yields : Yields (Known foreign past) (Reply.IsFrom (Known foreign past)) x) :
      Files foreign (past ++ []) (Reply.IsFrom (Known foreign (past ++ []))) (x.run w) := by
    rw [List.append_nil]
    exact yields.files remembers
  induction command with
  | bind var command ih =>
    exact ih.seq fun reply isFrom => (save var (command.isFrom_savedValue isFrom)).seq fun _ _ =>
      value isFrom
  | forward spec => exact (files_forwardType (built spec) (spec.build w.host).1).seq fun _ isKnown => replySurface isKnown
  | register spec =>
    exact (files_registerType (built spec) (spec.build w.host).1).seq fun _ _ => value trivial
  | surface type =>
    have asked : Yields (Known foreign past) (fun s => ∀ surface, s = some surface →
        Known foreign past surface.descriptor)
        (World.askSession (·.surfaces.get? type) : Bridge (Option Surface)) :=
      askSession fun _ isFrom surface found => isFrom.surfaces type surface found
    refine plain (asked.seq fun published isKnown => ?_)
    cases published with
    | some s => exact replySurface (isKnown s rfl)
    | none => exact value trivial
  | descriptor type =>
    refine plain ((lookAtSession _).seq fun registered _ => ?_)
    cases registered <;> exact value trivial
  | member type name => exact plain ((lookAtSession _).seq fun _ _ => value trivial)
  | staticMember type name =>
    exact plain ((lookAtSession _).seq fun _ _ => value trivial)
  | pushObject name type entries =>
    exact plain ((minds.evalEntries isFrom (Record.isFrom_blank type) entries).seq fun _ good =>
      (newRecord good).seq fun i _ => (pushObject name type i).seq fun _ good => value good)
  | pushFunction name spec =>
    have good (f : HostFunction) : (HostValue.callable f).IsFrom (Known foreign past) := trivial
    exact plain ((newCallable _ _ _).seq fun f _ => (setGlobal name (good f)).seq fun _ _ =>
      value trivial)
  | setGlobal name e =>
    exact plain ((minds.eval isFrom e).seq fun _ good => (setGlobal name good).seq fun _ _ =>
      value trivial)
  | getGlobal name => exact plain ((getGlobal name).seq fun _ good => value good)
  | load chunk source =>
    exact plain ((loadText chunk source).seq fun _ _ => value trivial)
  | execute => exact plain (minds.execute.seq fun _ _ => value trivial)
  | run chunk source =>
    have ran : KeepsTo (Known foreign past) (Session.runText c chunk source) :=
      (loadText chunk source).seq fun _ _ => minds.execute
    exact plain (ran.seq fun _ _ => value trivial)
  | callGlobal name args =>
    exact plain ((minds.evalAll isFrom args).seq fun _ goods =>
      (minds.callGlobal name goods).seq fun _ good => value good)
  | resolve t => exact plain ((resolve t).seq fun _ good => value good)
  | isTornDown => exact plain ((lookAtSession _).seq fun _ _ => value trivial)
  | teardown => exact plain (teardown.seq fun _ _ => value trivial)
  | inspect => exact plain ((lookAtSession _).seq fun _ _ => value trivial)
  | inspectType type =>
    exact plain (sessionNow.seq fun _ _ => hostNow.seq fun _ _ => value trivial)
  | host e => exact plain ((minds.eval isFrom e).seq fun _ good => value good)
  | read e name =>
    refine plain ((minds.eval isFrom e).seq fun _ good => (targetOf good).seq fun target _ =>
      (readMember name target).seq fun result good => ?_)
    cases result with
    | value v => exact Yields.value good
    | callable name => exact Yields.value trivial
  | write e name v =>
    exact plain ((minds.eval isFrom e).seq fun _ good => (targetOf good).seq fun target _ =>
      (minds.eval isFrom v).seq fun _ good => (writeMember name good target).seq fun _ _ =>
        value trivial)
  | invoke e name args =>
    exact plain ((minds.eval isFrom e).seq fun _ good => (targetOf good).seq fun _ target =>
      (minds.evalAll isFrom args).seq fun _ goods => (minds.invokeMember goods name target).seq fun _ good =>
        value (Command.isFrom_replyResult good))
  | thunk e name args =>
    refine plain ((minds.eval isFrom e).seq fun _ good => (targetOf good).seq
      fun target isKnown => (minds.evalAll isFrom args).seq fun _ goods => ?_)
    cases target with
    | surface s => exact minds.useMember isKnown name goods
    | object o => exact value trivial
  | machine ops =>
    exact plain ((reword _ (minds.runEachOp ops)).seq fun _ _ => value trivial)

theorem files_answer (command : Command) (remembers : w.Remembers foreign past) :
    Files foreign (past ++ (command.registered? w).toList) (fun _ => True) ((command.answer c).run w) := by
  have reported (known : TypeDescriptor → Prop) (name : String) (result : Except Raised (Reply HostValue)) :
      KeepsTo known (Command.report name result) :=
    hostNow.seq fun _ _ => sessionNow.seq fun _ _ => (askMachine _).seq fun _ _ => emit _
  refine (files_perform minds command remembers).attempt.seq fun result _ => ?_
  cases command with
  | machine ops => exact value trivial
  | _ => exact reported _ _ result

/-- The past of a run is what it registers, in order. -/
theorem files_runAll (commands : List Command) (remembers : w.Remembers foreign past) :
    Files foreign (past ++ Command.registrations c commands w) (fun _ => True) ((Command.runAll c commands).run w) := by
  induction commands generalizing w past with
  | nil =>
    rw [Command.registrations, List.append_nil]
    exact ⟨remembers, fun _ _ => trivial⟩
  | cons command rest ih =>
    have first := files_answer minds command remembers
    rw [Command.registrations, Command.runAll, Action.run_bind, ← List.append_assoc]
    rcases ran : (command.answer c).run w with ⟨_ | _ | _, w'⟩ <;> rw [ran] at first
    · exact ih first.remembers
    -- A run that has stopped registers nothing more.
    · exact ⟨by rw [List.append_nil]; exact first.remembers, fun _ _ => trivial⟩
    · exact ⟨by rw [List.append_nil]; exact first.remembers, fun _ _ => trivial⟩

end Runs

end ScriptHost
