import ScriptHost.Proofs.Discipline.Natives
import ScriptHost.Session.Command
/-!
# Sessions keep every discipline of sessions

A session adds a few elementary operations to those of the bridge, which run no code of scripts:
registering and forwarding a type, pinning the loaded chunk and taking it out again, and the teardown.
A discipline that has these too is kept by whole runs of commands.
-/

namespace ScriptHost

/-- A discipline that the elementary operations of a session have too. -/
structure SessionDiscipline extends Discipline where
  registerType : ∀ d, Relates (Session.registerType d) (Session.registerType d)
  forwardType : ∀ d, Relates (Session.forwardType d) (Session.forwardType d)
  pinChunk : Relates Session.pinChunk Session.pinChunk
  takeChunk : Relates Session.takeChunk Session.takeChunk
  teardown : Relates Session.teardown Session.teardown

namespace HostStore

theorem Resembles.trans {h₁ h₂ h₃ : HostStore} (first : h₁.Resembles h₂) (second : h₂.Resembles h₃) :
    h₁.Resembles h₃ :=
  ⟨second.functions.trans first.functions, fun s => (second.published s).trans (first.published s),
    Nat.le_trans first.surfaces second.surfaces⟩

theorem isOrdinary_apply (m : MemberSpec) (b : TypeBuilder) : IsOrdinary (m.apply b) := by
  refine ⟨fun h => ?_, fun h => ?_⟩
  · cases m <;> exact ⟨rfl, fun _ => rfl, Nat.le_refl _⟩
  · cases m <;> rfl

theorem isOrdinary_build (spec : TypeSpec) : IsOrdinary spec.build := by
  -- Building folds over the declarations, each of which is ordinary.
  have folded (members : List MemberSpec) (start : TypeBuilder × HostStore) :
      let built := members.foldl (fun built m => m.apply built.1 built.2) start
      start.2.Resembles built.2 ∧ built.2.guards = start.2.guards := by
    induction members generalizing start with
    | nil => exact ⟨⟨rfl, fun _ => rfl, Nat.le_refl _⟩, rfl⟩
    | cons m rest ih =>
      obtain ⟨resembles, guards⟩ := ih (m.apply start.1 start.2)
      have first := isOrdinary_apply m start.1
      exact ⟨(first.plain start.2).trans resembles, guards.trans (first.guards start.2)⟩
  exact ⟨fun h => (folded spec.members (.start spec.name spec.type, h)).1,
    fun h => (folded spec.members (.start spec.name spec.type, h)).2⟩

end HostStore

namespace SessionDiscipline

open Machine World HostStore

variable {D : SessionDiscipline} {c c' : Caller}

/-! ## Globals -/

theorem checkOpen : D.Keeps Session.checkOpen :=
  D.seq (D.askSession _) fun isTornDown =>
    D.whenTrue isTornDown (fun _ => HostDiscipline.fail _) fun _ => D.value _

theorem sessionNow {ε : Type} : D.Keeps (World.sessionNow : Action World ε Session) :=
  D.askSession fun s => s

theorem hostNow {ε : Type} : D.Keeps (World.hostNow : Action World ε HostStore) :=
  D.askHost fun h => h

theorem setGlobal (name : String) (v : HostValue) : D.Keeps (Session.setGlobal name v) :=
  D.seq checkOpen fun _ => D.seq (D.push v) fun _ => D.change (isSteady_setGlobal name)

theorem getGlobal (name : String) : D.Keeps (Session.getGlobal name) :=
  D.seq checkOpen fun _ => Discipline.global name

theorem pushObject (name : String) (type : RecordType) (record : Nat) :
    D.Keeps (Session.pushObject name type record) :=
  D.seq checkOpen fun _ => D.seq (D.askSession _) fun _ => D.seq (HostDiscipline.ofRules _) fun o =>
    D.seq (setGlobal name (.object o)) fun _ => D.value _

/-! ## Running scripts -/

theorem report {α : Type} (e : VmError) : D.Keeps (Session.report e : Bridge α) :=
  D.seq (D.emit _) fun _ => HostDiscipline.fail _

theorem reporting {α : Type} {x y : Vm α} (related : D.Relates x y) :
    D.Relates (Session.reporting x) (Session.reporting y) := by
  refine D.seq (D.attempt related) fun result => ?_
  cases result with
  | ok a => exact D.value a
  | error e => exact report e

theorem loadText (chunk source : String) : D.Keeps (Session.loadText chunk source) :=
  D.seq checkOpen fun _ => D.seq (reporting (D.trySteady (isSteady_load chunk _))) fun _ => D.pinChunk

section Covered

variable (covers : D.Covers c c')

include covers

theorem execute : D.Relates (Session.execute c) (Session.execute c') := by
  refine D.seq checkOpen fun _ => D.seq D.takeChunk fun isLoaded => ?_
  exact D.whenTrue isLoaded (fun _ => reporting (covers.call 0 0 true)) fun _ => report _

theorem runText (chunk source : String) :
    D.Relates (Session.runText c chunk source) (Session.runText c' chunk source) :=
  D.seq (loadText chunk source) fun _ => execute covers

theorem callGlobal (name : String) (args : List HostValue) :
    D.Relates (Session.callGlobal c name args) (Session.callGlobal c' name args) :=
  D.seq checkOpen fun _ => D.look isQuery_top fun _ =>
    D.seq (D.change ((isSteady_getGlobal name).mapAnswer fun _ => ())) fun _ =>
      D.seq (Discipline.pushAll _ args) fun _ => covers.finishCall _ _

/-! ## Commands -/

theorem useMember (s : Surface) (name : String) (args : List HostValue) :
    D.Relates (Command.useMember c s name args) (Command.useMember c' s name args) := by
  rw [Command.useMember, Command.useMember]
  cases s.member name with
  | none => exact D.value _
  | some member =>
    cases member with
    | field a | property a =>
      cases args with
      | nil => exact D.seq (HostDiscipline.readStatic a) fun _ => D.value _
      | cons v rest => exact D.seq (HostDiscipline.writeStatic a name v) fun _ => D.value _
    | method | constructor => exact D.seq (covers.invokeMember name args (.surface s)) fun _ => D.value _

omit covers in
theorem replySurface (s : Surface) : D.Keeps (Command.replySurface s) :=
  D.seq (D.askHost _) fun _ => D.value _

theorem perform (command : Command) : D.Relates (command.perform c) (command.perform c') := by
  induction command with
  | bind var command ih =>
    exact D.seq ih fun reply => D.seq (D.changeHost (isOrdinary_save var _)) fun _ => D.value reply
  -- Building the descriptor is a matter of the host; the session is asked after that.
  | forward spec =>
    exact D.seq (D.ordinary (isOrdinary_build spec)) fun d => D.seq (D.forwardType d) fun s => replySurface s
  | register spec =>
    exact D.seq (D.ordinary (isOrdinary_build spec)) fun d => D.seq (D.registerType d) fun _ => D.value _
  | surface type =>
    refine D.seq (D.askSession _) fun published => ?_
    cases published with
    | some s => exact replySurface s
    | none => exact D.value _
  | descriptor type =>
    refine D.seq (D.askSession _) fun registered => ?_
    cases registered <;> exact D.value _
  | member type name => exact D.seq (D.askSession _) fun _ => D.value _
  | staticMember type name => exact D.seq (D.askSession _) fun _ => D.value _
  | pushObject name type entries =>
    -- The record is made once all of its entries have been evaluated.
    rw [Command.perform, Command.perform, Expr.evalEntries_bind c, Expr.evalEntries_bind c']
    exact D.seq (covers.evalEntries _ _ entries) fun r => D.seq (D.ordinary (isOrdinary_newRecord rfl))
      fun record => D.seq (pushObject name type record) fun _ => D.value _
  | pushFunction name spec =>
    exact D.seq (D.ordinary (isOrdinary_newCallable spec.name spec.returnsValue spec.body)) fun f =>
      D.seq (setGlobal name (.callable f)) fun _ => D.value _
  | setGlobal name e =>
    exact D.seq (covers.eval _ e) fun v => D.seq (setGlobal name v) fun _ => D.value _
  | getGlobal name => exact D.seq (getGlobal name) fun _ => D.value _
  | load chunk source => exact D.seq (loadText chunk source) fun _ => D.value _
  | execute => exact D.seq (execute covers) fun _ => D.value _
  | run chunk source => exact D.seq (runText covers chunk source) fun _ => D.value _
  | callGlobal name args =>
    exact D.seq (covers.evalAll _ args) fun args => D.seq (callGlobal covers name args) fun _ => D.value _
  | resolve t => exact D.seq (HostDiscipline.resolve t) fun _ => D.value _
  | isTornDown => exact D.seq (D.askSession _) fun _ => D.value _
  | teardown => exact D.seq D.teardown fun _ => D.value _
  | inspect => exact D.seq (D.askSession _) fun _ => D.value _
  | inspectType type => exact D.seq sessionNow fun _ => D.seq hostNow fun _ => D.value _
  | host e => exact D.seq (covers.eval _ e) fun _ => D.value _
  | read e name =>
    refine D.seq (covers.eval _ e) fun v => D.seq (HostDiscipline.ofRules _) fun target =>
      D.seq (HostDiscipline.readMember name target) fun result => ?_
    cases result <;> exact D.value _
  | write e name value =>
    exact D.seq (covers.eval _ e) fun v => D.seq (HostDiscipline.ofRules _) fun target =>
      D.seq (covers.eval _ value) fun v => D.seq (HostDiscipline.writeMember name v target) fun _ => D.value _
  -- The receiver is looked up before the arguments are evaluated.
  | invoke e name args =>
    exact D.seq (covers.eval _ e) fun v => D.seq (HostDiscipline.ofRules _) fun target =>
      D.seq (covers.evalAll _ args) fun args =>
        D.seq (covers.invokeMember name args target) fun _ => D.value _
  | thunk e name args =>
    refine D.seq (covers.eval _ e) fun v => D.seq (HostDiscipline.ofRules _) fun target =>
      D.seq (covers.evalAll _ args) fun args => ?_
    cases target with
    | surface s => exact useMember covers s name args
    | object o => exact D.value _
  | machine ops => exact D.seq (D.reword _ (covers.runEachOp ops)) fun _ => D.value _

omit covers in
theorem reportCommand (name : String) (result : Except Raised (Reply HostValue)) :
    D.Keeps (Command.report name result) :=
  D.seq hostNow fun _ => D.seq sessionNow fun _ => D.look isQuery_top fun _ => D.emit _

theorem answer (command : Command) : D.Relates (command.answer c) (command.answer c') := by
  refine D.seq (D.attempt (perform covers command)) fun result => ?_
  cases command with
  | machine ops => exact D.value ()
  | _ => exact reportCommand _ result

theorem runAll (commands : List Command) :
    D.Relates (Command.runAll c commands) (Command.runAll c' commands) := by
  induction commands with
  | nil => exact D.value _
  | cons command rest ih => exact D.seq (answer covers command) fun _ => ih

/-- Runs with the machine alone report of it what no stack program can ask for. -/
theorem runAllProbes (looks : ∀ {α : Type} (f : Machine → α) (event : α → Event),
      D.Keeps (askMachine f >>= fun a => emit (event a) : Vm Unit)) (probes : List Probe) :
    D.Relates (Probe.runAll c probes) (Probe.runAll c' probes) := by
  induction probes with
  | nil => exact D.value _
  | cons p rest ih =>
    refine D.seq ?_ fun _ => ih
    cases p with
    | op o => exact covers.runEachOp [o]
    | referenceCount | depth | inspect => exact looks _ _

end Covered

end SessionDiscipline

end ScriptHost
