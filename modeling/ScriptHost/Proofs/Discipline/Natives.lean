import ScriptHost.Proofs.Discipline.Evaluator
import ScriptHost.Proofs.Discipline.HostCode
/-!
# Native functions keep every discipline

What native functions add to host code, for any discipline and any callers that are covered by it.
`covers_watchedCaller` closes the circle: the callers of runs are covered.
-/

namespace ScriptHost

namespace Discipline

open Machine World HostDiscipline

variable {D : Discipline} {c c' : Caller}

/-! ## Values across the bridge -/

theorem readFrom (first : Int) (count : Nat) : D.Keeps (Bridge.readFrom first count) := by
  induction count generalizing first with
  | zero => exact D.value _
  | succ count ih => exact D.seq (D.read first) fun v => D.seq (ih _) fun vs => D.value _

theorem readArgs (first : Int) : D.Keeps (Bridge.readArgs first) :=
  D.look isQuery_top fun _ => readFrom first _

theorem pushAll (size : Int) (vs : List HostValue) : D.Keeps (Bridge.pushAll size vs) := by
  induction vs with
  | nil => exact D.value _
  | cons v vs ih =>
    refine D.seq (D.attempt (D.push v)) fun result => ?_
    cases result with
    | ok _ => exact ih
    | error r => exact D.seq (D.change (isSteady_setTop size)) fun _ => D.failure r

theorem global (name : String) : D.Keeps (Bridge.global name) :=
  D.seq (D.steady ((isSteady_getGlobal name).mapAnswer fun _ => ())) fun _ =>
    D.seq (D.attempt (D.read (-1))) fun result =>
      D.seq (D.change (isSteady_pop 1)) fun _ => D.ofExcept result

namespace Covers

section Calls

variable (covers : D.Covers c c')

include covers

theorem finishCall (size : Int) (argCount : Nat) :
    D.Relates (Bridge.finishCall c size argCount) (Bridge.finishCall c' size argCount) :=
  D.seq (D.reword _ (covers.call argCount 1 true)) fun _ => D.seq (D.attempt (D.read (-1)))
    fun result => D.seq (D.change (isSteady_setTop size)) fun _ => D.ofExcept result

theorem callFunction (number : Nat) (args : List HostValue) :
    D.Relates (Bridge.callFunction c number args) (Bridge.callFunction c' number args) :=
  D.seq (functionReference number) fun r => D.look isQuery_top fun _ =>
    D.seq (D.steady (isSteady_pushReference r)) fun _ => D.seq (pushAll _ args) fun _ =>
      covers.finishCall _ _

theorem say (text : String) : D.Relates (Bridge.say c text) (Bridge.say c' text) :=
  D.seq (D.steady ((isSteady_getGlobal "print").mapAnswer fun _ => ())) fun _ =>
    D.seq (D.change (isSteady_push (isQuery_const _))) fun _ => D.reword _ (covers.call 1 0 false)

/-- Callers that are covered serve host code in all it does. -/
theorem serves : D.Serves True c c' where
  callFunction := covers.callFunction
  apply := covers.apply
  global := Discipline.global
  say := covers.say
  machine _ := covers.runOps false
  readArg _ := D.read

theorem eval (s : Scope) (e : Expr) : D.Relates (e.eval c s) (e.eval c' s) :=
  covers.serves.eval s e fun _ => trivial

theorem evalAll (s : Scope) (es : List Expr) : D.Relates (Expr.evalAll c s es) (Expr.evalAll c' s es) :=
  covers.serves.evalAll s es fun _ => trivial

theorem evalEntries (s : Scope) (r : Record) (es : List (String × Expr)) :
    D.Relates (Expr.evalEntries c s r es) (Expr.evalEntries c' s r es) :=
  covers.serves.evalEntries s r es fun _ => trivial

theorem invokeFunction (f : HostFunction) (args : List HostValue) :
    D.Relates (HostFunction.invoke c f args) (HostFunction.invoke c' f args) :=
  covers.serves.invokeFunction f args fun _ => trivial

theorem invokeMember (name : String) (args : List HostValue) (target : Target) :
    D.Relates (target.invokeMember c name args) (target.invokeMember c' name args) :=
  covers.serves.invokeMember name args target fun _ => trivial

end Calls

end Covers

/-! ## Native functions -/

theorem memberName : D.Keeps Bridge.memberName := by
  refine D.look (isQuery_valueAt 2) fun m => ?_
  cases m.valueAt 2 with
  | string bytes => exact D.value _
  | number x => exact D.value _
  | _ => exact fail _

theorem readHook (t : Token) : D.Keeps (Bridge.readHook t) := by
  refine D.seq memberName fun name => D.seq (resolveTarget t) fun target =>
    D.seq (readMember name target) fun result => ?_
  cases result with
  | value v => exact D.seq (D.push v) fun _ => D.value _
  | callable name => exact D.seq (D.change (isSteady_push (isQuery_const _))) fun _ => D.value _

theorem writeHook (t : Token) : D.Keeps (Bridge.writeHook t) :=
  D.seq memberName fun name => D.seq (D.read 3) fun v => D.seq (resolveTarget t) fun target =>
    D.seq (writeMember name v target) fun _ => D.value _

namespace Covers

variable (covers : D.Covers c c')

include covers

theorem memberHook (receiver : Token) (name : String) :
    D.Relates (Bridge.memberHook c receiver name) (Bridge.memberHook c' receiver name) := by
  have bound : IsQuery fun m => decide (m.handleOf? 1 = some receiver) := fun bottom frames m fits => by
    simp only [handleOf?_onto fits]
  exact D.look bound fun m => D.seq (readArgs _) fun args => D.seq (resolveTarget receiver)
    fun target => D.seq (covers.invokeMember name args target) fun result => pushResult result

theorem hostHook (f : HostFunction) : D.Relates (Bridge.hostHook c f) (Bridge.hostHook c' f) :=
  D.seq (readArgs 1) fun args => D.seq (covers.invokeFunction f args) fun result => pushResult result

theorem displayFrom {ε : Type} (first : Int) (count : Nat) :
    D.Relates (Vm.displayFrom c first count : Action World ε (List String))
      (Vm.displayFrom c' first count : Action World ε (List String)) := by
  induction count generalizing first with
  | zero => exact D.value _
  | succ count ih => exact D.seq (covers.display first) fun _ => D.seq (ih _) fun _ => D.value _

theorem print : D.Relates (Native.print c) (Native.print c') :=
  D.look (fun _ _ _ fits => frameSize_onto fits) fun _ => D.seq (covers.displayFrom 1 _) fun _ =>
    D.seq (D.emit _) fun _ => D.value _

theorem runNative (code : NativeCode) : D.Relates (code.run c) (code.run c') := by
  cases code with
  | program p => exact covers.runProgram p
  | toText =>
    exact D.seq (D.reword _ (covers.renderValue 1)) fun _ =>
      D.seq (D.change (isSteady_push (isQuery_const _))) fun _ => D.value _
  | typeName =>
    have name : IsQuery fun m => Value.string (utf8Encode (m.valueAt 1).typeName) :=
      (isQuery_valueAt 1).map fun v => Value.string (utf8Encode v.typeName)
    exact D.seq (D.change (isSteady_push name)) fun _ => D.value _
  | raise => exact D.seq (D.reword _ (covers.renderValue 1)) fun text => D.failure text
  | print => exact covers.print
  | readMember t => exact D.reword _ (readHook t)
  | writeMember t => exact D.reword _ (writeHook t)
  | label text => exact D.seq (D.change (isSteady_push (isQuery_const _))) fun _ => D.value _
  | callMember t name => exact D.reword _ (covers.memberHook t name)
  | host f => exact D.reword _ (covers.hostHook f)

end Covers

/-- The callers of runs are covered, however deep they may nest.  Where the second may nest deeper than
    the first, it does anything at all while the first is exhausted already. -/
theorem covers_watchedCaller (D : Discipline) (depth more : Nat)
    (deeper : more ≠ 0 → ∀ {ε α : Type} (y : Action World ε α), D.Relates .exhaust y := by simp) :
    D.Covers (watchedCaller D.before depth) (watchedCaller D.before' (depth + more)) := by
  induction depth with
  | zero =>
    rw [Nat.zero_add]
    cases more with
    | zero => exact ⟨fun _ => D.exhausted, fun _ => D.exhausted, fun _ _ => D.exhausted, rfl, rfl⟩
    | succ more =>
      have differ := more.succ_ne_zero
      exact ⟨fun _ => deeper differ _, fun _ => deeper differ _, fun _ _ => deeper differ _, rfl, rfl⟩
  | succ depth ih =>
    rw [Nat.add_right_comm]
    exact ⟨ih.runNative, ih.renderValue, ih.invokeFunction, rfl, rfl⟩

end Discipline

end ScriptHost
