import ScriptHost.Proofs.Provenance.HostCode
/-!
# Members and native functions keep to known descriptors

An object that is constructed on a surface takes the descriptor that the surface was compiled from, which
is a known one also where its type has been registered again since.  `minds_watchedCaller` closes the
circle: whatever runs, however deep it nests, minds the known descriptors.
-/

namespace ScriptHost

open Yields

variable {known : TypeDescriptor → Prop}

/-! ## Overloads -/

namespace Selection

theorem isFrom_coerceAll? {params : List HostType} {args args' : List HostValue}
    (good : ∀ v ∈ args, v.IsFrom known) (coerced : coerceAll? params args = some args') :
    ∀ v ∈ args', v.IsFrom known := by
  induction params generalizing args args' with
  | nil =>
    cases args with
    | nil =>
      cases coerced
      exact good
    | cons v args => cases coerced
  | cons t params ih =>
    cases args with
    | nil => cases coerced
    | cons v args =>
      obtain ⟨first, rest⟩ := List.forall_mem_cons.1 good
      rw [coerceAll?] at coerced
      obtain ⟨v', coercedFirst, coerced⟩ := Option.bind_eq_some_iff.1 coerced
      obtain ⟨vs, coercedRest, coerced⟩ := Option.bind_eq_some_iff.1 coerced
      cases coerced
      exact List.forall_mem_cons.2 ⟨first.coerce coercedFirst, ih rest coercedRest⟩

theorem isFrom_firstMatch? {args : List HostValue} (good : ∀ v ∈ args, v.IsFrom known) {index : Nat}
    {candidates : List (List HostType)} {s : Selection}
    (found : firstMatch? args index candidates = some s) : ∀ v ∈ s.args, v.IsFrom known := by
  induction candidates generalizing index with
  | nil => cases found
  | cons params rest ih =>
    rw [firstMatch?] at found
    cases coerced : coerceAll? params args with
    | none =>
      rw [coerced] at found
      exact ih found
    | some args' =>
      rw [coerced] at found
      cases found
      exact isFrom_coerceAll? good coerced

theorem mem_of_dropTrailingNil? {args rest : List HostValue} (dropped : dropTrailingNil? args = some rest) :
    ∀ v ∈ rest, v ∈ args := by
  rw [dropTrailingNil?] at dropped
  split at dropped
  · cases dropped
    exact fun v member => List.dropLast_subset args member
  · cases dropped

theorem isFrom_select {member : String} {candidates : List (List HostType)} {args : List HostValue}
    (good : ∀ v ∈ args, v.IsFrom known) {s : Selection} (chosen : select member candidates args = .ok s) :
    ∀ v ∈ s.args, v.IsFrom known := by
  rw [select] at chosen
  cases direct : firstMatch? args 0 candidates with
  | some s' =>
    rw [direct] at chosen
    cases chosen
    exact isFrom_firstMatch? good direct
  | none =>
    rw [direct] at chosen
    cases second : (dropTrailingNil? args).bind fun rest => firstMatch? rest 0 candidates with
    | none =>
      rw [second] at chosen
      cases chosen
    | some s' =>
      rw [second] at chosen
      cases chosen
      obtain ⟨rest, dropped, found⟩ := Option.bind_eq_some_iff.1 second
      exact isFrom_firstMatch? (fun v member => good v (mem_of_dropTrailingNil? dropped v member)) found

end Selection

namespace Yields

theorem select (name : String) (candidates : List (List HostType)) {args : List HostValue}
    (good : ∀ v ∈ args, v.IsFrom known) : Yields known (fun s : Selection => ∀ v ∈ s.args, v.IsFrom known)
      (Bridge.ofExcept (Selection.select name candidates args)) :=
  ofRules fun _ chosen => Selection.isFrom_select good chosen

end Yields

/-! ## Targets -/

def Target.IsFrom (known : TypeDescriptor → Prop) : Target → Prop
  | .object o => known o.descriptor
  | .surface s => known s.descriptor

def MemberRead.IsFrom (known : TypeDescriptor → Prop) : MemberRead → Prop
  | .value v => v.IsFrom known
  | .callable _ => True

namespace Yields

theorem targetOf {v : HostValue} (good : v.IsFrom known) :
    Yields known (Target.IsFrom known) (Bridge.ofExcept (Target.ofValue v)) :=
  ofRules fun target isTarget => by
    cases v with
    | object o | surface s =>
      cases isTarget
      exact good
    | _ => cases isTarget

theorem resolveTarget (t : Token) : Yields known (Target.IsFrom known) (Target.resolve t) := by
  have asked : Yields known (fun r => ∀ entry, r = .ok entry → known entry.descriptor)
      (World.askSession (·.handles.resolve t) : Bridge (Except BridgeError HandleEntry)) :=
    askSession fun _ isFrom _ resolved => isFrom.resolve resolved
  refine asked.seq fun r isKnown => (ofRules isKnown).seq fun entry isKnown => value ?_
  cases entry <;> exact isKnown

theorem readMember_object (o : HostObject) (name : String) :
    Yields known (MemberRead.IsFrom known) (o.readMember name) := by
  refine whenTrue _ ((readEntry o name).seq fun _ good => value good) ?_
  cases (o.accessors name).findSome? Accessor.reads with
  | some key => exact (readEntry o key).seq fun _ good => value good
  | none => exact value trivial

theorem writeDictionary (o : HostObject) (key : String) {v : HostValue} (good : v.IsFrom known) :
    KeepsTo known (o.writeDictionary key v) := by
  refine (checkBorrow true o).seq fun _ _ => (Yields.record o.record).seq fun r isFrom => ?_
  have changed {r' : Record} (good : r'.IsFrom known) : KeepsTo known
      (World.changeHost (·.setRecord o.record r') : Bridge Unit) :=
    changeHost fun _ hostFrom => hostFrom.setRecord o.record good
  have accepted : Yields known (Record.IsFrom known) (Bridge.ofExcept (r.set key v)) :=
    ofRules fun _ accepted => isFrom.set good accepted
  exact accepted.seq fun _ good => (changed good).seq fun _ _ => value trivial

theorem writeAccessor (o : HostObject) (name : String) (a : Accessor) {v : HostValue}
    (good : v.IsFrom known) : KeepsTo known (o.writeAccessor name a v) := by
  obtain ⟨type, reads, writes⟩ := a
  cases writes with
  | none => exact fail _
  | some write =>
    exact (coerce type good).seq fun _ good => (checkBorrow true o).seq fun _ _ =>
      (convert write.2 good).seq fun _ good => writeEntry o write.1 good

theorem writeMember_object (o : HostObject) (name : String) {v : HostValue} (good : v.IsFrom known) :
    KeepsTo known (o.writeMember name v) := by
  refine whenTrue _ (writeDictionary o name good) ?_
  cases o.accessors name with
  | nil => exact value trivial
  | cons a rest => exact (writeAccessor o name a good).seq fun _ _ => value trivial

theorem readStatic (a : StaticAccessor) : Yields known (HostValue.IsFrom known) a.read := by
  obtain ⟨type, reads, writes⟩ := a
  cases reads with
  | none => exact value trivial
  | some reader =>
    cases reader with
    | cell i => exact askHost fun _ isFrom => isFrom.cells i
    | literal l => exact askHost fun _ isFrom => isFrom.literal l
    | panics text => exact failure _

theorem writeStatic (a : StaticAccessor) (name : String) {v : HostValue} (good : v.IsFrom known) :
    KeepsTo known (a.write name v) := by
  obtain ⟨type, reads, writes⟩ := a
  cases writes with
  | none => exact fail _
  | some write =>
    exact (coerce type good).seq fun _ good => (convert write.2 good).seq fun _ good =>
      changeHost fun _ isFrom => isFrom.setCell write.1 good

theorem readMember_surface (s : Surface) (name : String) :
    Yields known (MemberRead.IsFrom known) (s.readMember name) := by
  rw [Surface.readMember]
  rcases s.member name with _ | (a | a | overloads | _)
  · exact value trivial
  · exact (readStatic a).seq fun _ good => value good
  · exact (readStatic a).seq fun _ good => value good
  · exact value trivial
  · exact value trivial

theorem writeMember_surface (s : Surface) (name : String) {v : HostValue} (good : v.IsFrom known) :
    KeepsTo known (s.writeMember name v) := by
  rw [Surface.writeMember]
  rcases s.member name with _ | (a | a | overloads | _)
  · exact value trivial
  · exact (writeStatic a name good).seq fun _ _ => value trivial
  · exact (writeStatic a name good).seq fun _ _ => value trivial
  · exact fail _
  · exact fail _

theorem readMember (name : String) (target : Target) :
    Yields known (MemberRead.IsFrom known) (target.readMember name) := by
  cases target with
  | object o => exact readMember_object o name
  | surface s => exact readMember_surface s name

theorem writeMember (name : String) {v : HostValue} (good : v.IsFrom known) (target : Target) :
    KeepsTo known (target.writeMember name v) := by
  cases target with
  | object o => exact writeMember_object o name good
  | surface s => exact writeMember_surface s name good

end Yields

namespace Caller.Minds

variable {c : Caller} (minds : c.Minds known) {args : List HostValue} (good : ∀ v ∈ args, v.IsFrom known)

include minds good

theorem runMethod {o : HostObject} (isKnown : known o.descriptor) (m : Method) :
    Yields known (HostValue.IsFrom known) (o.runMethod c m args) := by
  have handed : Scope.IsFrom known ⟨args, .object o⟩ := ⟨good, isKnown⟩
  have borrowed : Scope.IsFrom known ⟨args, .borrowed o.record⟩ := ⟨good, trivial⟩
  exact whenTrue _ (minds.eval handed m.body) (holding true o (minds.eval borrowed m.body))

theorem invokeMember_object {o : HostObject} (isKnown : known o.descriptor) (name : String) :
    Yields known (fun result => ∀ v ∈ result, v.IsFrom known) (o.invokeMember c name args) := by
  rw [HostObject.invokeMember]
  cases o.descriptor.methods.get? name with
  | none => exact fail _
  | some overloads =>
    refine (select name _ good).seq fun chosen good => ?_
    cases overloads[chosen.index]? with
    | none => exact fail _
    | some m =>
      exact (minds.runMethod good isKnown m).seq fun _ good => value (good.returned m.signature.returnsValue)

theorem invokeStatic (name : String) (overloads : List StaticMethod) :
    Yields known (fun result => ∀ v ∈ result, v.IsFrom known)
      (StaticMethod.invoke c name overloads args) := by
  refine (select name _ good).seq fun chosen good => ?_
  cases overloads[chosen.index]? with
  | none => exact fail _
  | some m =>
    exact (minds.eval (Scope.isFrom_unbound good) m.body).seq fun _ good =>
      value (good.returned m.signature.returnsValue)

/-- A new instance has the descriptor on which it was constructed. -/
theorem construct {d : TypeDescriptor} (isKnown : known d) :
    Yields known (HostValue.IsFrom known) (d.construct c args) := by
  refine whenTrue _ ((select constructorName _ good).seq fun chosen good => ?_) (fail _)
  cases d.constructors[chosen.index]? with
  | none => exact fail _
  | some k =>
    exact (minds.evalEntries (Scope.isFrom_unbound good) (Record.isFrom_blank d.type) k.entries).seq
      fun _ good => (newRecord good).seq fun i _ => value isKnown

theorem invokeMember_surface {s : Surface} (isKnown : known s.descriptor) (name : String) :
    Yields known (fun result => ∀ v ∈ result, v.IsFrom known) (s.invokeMember c name args) := by
  rw [Surface.invokeMember]
  rcases s.member name with _ | (a | a | overloads | _)
  · exact fail _
  · exact fail _
  · exact fail _
  · exact minds.invokeStatic good name overloads
  · refine (minds.construct good isKnown).seq fun v good => value fun v' same => ?_
    cases same
    exact good

theorem invokeMember (name : String) {target : Target} (isFrom : target.IsFrom known) :
    Yields known (fun result => ∀ v ∈ result, v.IsFrom known) (target.invokeMember c name args) := by
  cases target with
  | object o => exact minds.invokeMember_object good isFrom name
  | surface s => exact minds.invokeMember_surface good isFrom name

end Caller.Minds

/-! ## Native functions -/

namespace Yields

theorem memberName : KeepsTo known Bridge.memberName := by
  refine (askMachine _).seq fun v _ => ?_
  cases v with
  | string bytes => exact value trivial
  | number x => exact value trivial
  | _ => exact fail _

theorem readHook (t : Token) : KeepsTo known (Bridge.readHook t) := by
  refine memberName.seq fun name _ => (resolveTarget t).seq fun target _ =>
    (readMember name target).seq fun result good => ?_
  cases result with
  | value v => exact (push good).seq fun _ _ => Yields.value trivial
  | callable name => exact (changeMachine _).seq fun _ _ => Yields.value trivial

theorem writeHook (t : Token) : KeepsTo known (Bridge.writeHook t) :=
  memberName.seq fun name _ => (read 3).seq fun _ good => (resolveTarget t).seq fun target _ =>
    (writeMember name good target).seq fun _ _ => value trivial

theorem pushResult {result : Option HostValue} (good : ∀ v ∈ result, v.IsFrom known) :
    KeepsTo known (Bridge.pushResult result) := by
  cases result with
  | some v => exact (push (good v rfl)).seq fun _ _ => value trivial
  | none => exact value trivial

end Yields

namespace Caller.Minds

variable {c : Caller} (minds : c.Minds known)

include minds

theorem memberHook (receiver : Token) (name : String) : KeepsTo known (Bridge.memberHook c receiver name) :=
  (askMachine _).seq fun _ _ => (readArgs _).seq fun _ goods => (resolveTarget receiver).seq fun _ isFrom =>
    (minds.invokeMember goods name isFrom).seq fun _ good => pushResult good

theorem hostHook (f : HostFunction) : KeepsTo known (Bridge.hostHook c f) :=
  (readArgs 1).seq fun _ goods => (minds.invokeFunction f goods).seq fun _ good => pushResult good

theorem displayFrom {ε : Type} (first : Int) (count : Nat) :
    KeepsTo known (Vm.displayFrom c first count : Action World ε (List String)) := by
  induction count generalizing first with
  | zero => exact value trivial
  | succ count ih => exact (minds.display first).seq fun _ _ => (ih _).seq fun _ _ => value trivial

theorem print : KeepsTo known (Native.print c) :=
  (askMachine _).seq fun _ _ => (minds.displayFrom 1 _).seq fun _ _ => (emit _).seq fun _ _ => value trivial

theorem runNative (code : NativeCode) : KeepsTo known (code.run c) := by
  cases code with
  | program p => exact minds.runProgram p
  | toText =>
    exact (reword _ (minds.renderValue 1)).seq fun _ _ => (changeMachine _).seq fun _ _ => value trivial
  | typeName => exact (changeMachine _).seq fun _ _ => value trivial
  | raise => exact (reword _ (minds.renderValue 1)).seq fun text _ => failure text
  | print => exact minds.print
  | readMember t => exact reword _ (readHook t)
  | writeMember t => exact reword _ (writeHook t)
  | label text => exact (changeMachine _).seq fun _ _ => value trivial
  | callMember t name => exact reword _ (minds.memberHook t name)
  | host f => exact reword _ (minds.hostHook f)

end Caller.Minds

/-- However deep a run nests, it minds the known descriptors. -/
theorem minds_watchedCaller {before : Op → Vm Unit} (watched : ∀ op, KeepsTo known (before op))
    (depth : Nat) : (watchedCaller before depth).Minds known := by
  induction depth with
  | zero => exact ⟨fun _ => exhausted, fun _ => exhausted, fun _ _ _ => exhausted, watched⟩
  | succ depth ih =>
    exact ⟨ih.runNative, ih.renderValue, fun f _ good => ih.invokeFunction f good, watched⟩

end ScriptHost
