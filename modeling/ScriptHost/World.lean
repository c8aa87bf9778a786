import ScriptHost.Action
import ScriptHost.Session.State
import ScriptHost.Session.Trace
/-!
# The world

The state that a run works on: the machine, the session on it, the host's own state, and the events so
far.  The host's state stands beside the session, so that it can outlive one session and be seen by the
next.

Actions on the world come in three kinds, by what they fail with: `Vm` operations of the machine fail
with a machine error, `Bridge` operations with what host code can raise, and `Native` functions, run by
the machine, with the text a script sees.
-/

namespace ScriptHost

structure World where
  machine : Machine
  session : Session
  host : HostStore
  events : Array Event

instance : Inhabited World := ⟨⟨default, default, default, #[]⟩⟩

abbrev Vm (α : Type) := Action World VmError α

abbrev Bridge (α : Type) := Action World Raised α

abbrev Native (α : Type) := Action World String α

namespace World

variable {ε α : Type}

def sessionNow : Action World ε Session := .gets World.session

def hostNow : Action World ε HostStore := .gets World.host

/-- An answer from the machine as it is. -/
def askMachine (f : Machine → α) : Action World ε α := .gets fun w => f w.machine

/-- An answer from the session as it is. -/
def askSession (f : Session → α) : Action World ε α := .gets fun w => f w.session

/-- An answer from the host's state as it is. -/
def askHost (f : HostStore → α) : Action World ε α := .gets fun w => f w.host

def onMachine (f : Machine → α × Machine) : Action World ε α :=
  .step fun w => let (a, machine) := f w.machine; (a, { w with machine })

def changeMachine (f : Machine → Machine) : Action World ε Unit :=
  .modify fun w => { w with machine := f w.machine }

def changeSession (f : Session → Session) : Action World ε Unit :=
  .modify fun w => { w with session := f w.session }

def onSession (f : Session → α × Session) : Action World ε α :=
  .step fun w => let (a, session) := f w.session; (a, { w with session })

def onHost (f : HostStore → α × HostStore) : Action World ε α :=
  .step fun w => let (a, host) := f w.host; (a, { w with host })

def changeHost (f : HostStore → HostStore) : Action World ε Unit :=
  .modify fun w => { w with host := f w.host }

def emit (e : Event) : Action World ε Unit :=
  .modify fun w => { w with events := w.events.push e }

/-- An operation of the machine that may fail. -/
def tryMachine (f : Machine → Except VmError α × Machine) : Vm α := do
  Action.ofExcept (← onMachine f)

section Lemmas

variable (w : World)

@[simp] theorem run_sessionNow :
    Action.run (sessionNow : Action World ε Session) w = (.value w.session, w) := rfl

@[simp] theorem run_hostNow :
    Action.run (hostNow : Action World ε HostStore) w = (.value w.host, w) := rfl

@[simp] theorem run_askMachine (f : Machine → α) :
    Action.run (askMachine f : Action World ε α) w = (.value (f w.machine), w) := rfl

@[simp] theorem run_askSession (f : Session → α) :
    Action.run (askSession f : Action World ε α) w = (.value (f w.session), w) := rfl

@[simp] theorem run_askHost (f : HostStore → α) :
    Action.run (askHost f : Action World ε α) w = (.value (f w.host), w) := rfl

@[simp] theorem run_onMachine (f : Machine → α × Machine) :
    Action.run (onMachine f : Action World ε α) w =
      (.value (f w.machine).1, { w with machine := (f w.machine).2 }) := rfl

@[simp] theorem run_changeMachine (f : Machine → Machine) :
    Action.run (changeMachine f : Action World ε Unit) w =
      (.value (), { w with machine := f w.machine }) := rfl

@[simp] theorem run_onSession (f : Session → α × Session) :
    Action.run (onSession f : Action World ε α) w =
      (.value (f w.session).1, { w with session := (f w.session).2 }) := rfl

@[simp] theorem run_changeSession (f : Session → Session) :
    Action.run (changeSession f : Action World ε Unit) w =
      (.value (), { w with session := f w.session }) := rfl

@[simp] theorem run_onHost (f : HostStore → α × HostStore) :
    Action.run (onHost f : Action World ε α) w =
      (.value (f w.host).1, { w with host := (f w.host).2 }) := rfl

@[simp] theorem run_changeHost (f : HostStore → HostStore) :
    Action.run (changeHost f : Action World ε Unit) w =
      (.value (), { w with host := f w.host }) := rfl

@[simp] theorem run_emit (e : Event) :
    Action.run (emit e : Action World ε Unit) w =
      (.value (), { w with events := w.events.push e }) := rfl

end Lemmas

end World

/-- Raises an error in host code. -/
def Bridge.fail {α : Type} (e : BridgeError) : Bridge α := Action.fail (.error e)

/-- A result of the host's own rules. -/
def Bridge.ofExcept {α : Type} (r : Except BridgeError α) : Bridge α :=
  Action.mapFailure Raised.error (Action.ofExcept r)

/-- An operation of the machine, run by host code. -/
def Vm.inHost {α : Type} (x : Vm α) : Bridge α := Action.mapFailure (fun e => .error (.vm e)) x

/-- An operation of the machine, run by a native function. -/
def Vm.inNative {α : Type} (x : Vm α) : Native α := Action.mapFailure VmError.scriptMessage x

/-- Host code at the boundary to the machine: panics are caught, and every error becomes text. -/
def Bridge.inNative {α : Type} (x : Bridge α) : Native α :=
  Action.mapFailure (fun r => r.caught.scriptMessage) x

end ScriptHost
