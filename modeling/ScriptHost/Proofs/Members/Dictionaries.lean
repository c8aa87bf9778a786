import ScriptHost.Proofs.Members.Writes
/-!
# Dictionary objects

An object of a dictionary type answers member access from the entries of its record, whatever else its
directory declares.  Over contents of one representation those entries are a finite map: what a key reads
is what the last successful write of it stored, as it comes back from the representation.

`HostObject.Serves` is a history of requests with their replies.  Between two requests anything may
happen, even to the guard of the record, as long as its entries stay (`Record.HasEntriesOf`).
-/

namespace ScriptHost

open World

/-! ## Requests and replies -/

/-- A member access that an object of a dictionary type answers from its entries. -/
inductive EntryRequest where
  | read (key : String)
  | write (key : String) (v : HostValue)

/-- What a request was answered with, or why it failed. -/
inductive EntryReply where
  | read (found : Except Raised MemberRead)
  | write (said : Except Raised WriteOutcome)

namespace HostObject

/-- Answers one request; a failure is a reply as well. -/
def serve (o : HostObject) : EntryRequest → Bridge EntryReply
  | .read key => do return .read (← Action.attempt ((Target.object o).readMember key))
  | .write key v => do return .write (← Action.attempt ((Target.object o).writeMember key v))

end HostObject

/-- The records agree on all but the guard. -/
structure Record.HasEntriesOf (r r' : Record) : Prop where
  type : r.type = r'.type
  entries : r.entries = r'.entries

/-- The requests that an object has served, the newest first. -/
inductive HostObject.Serves (o : HostObject) (start : World) :
    List (EntryRequest × EntryReply) → World → Prop where
  | start : Serves o start [] start
  | request {past : List (EntryRequest × EntryReply)} {w w' : World} {q : EntryRequest}
      {reply : EntryReply} : Serves o start past w → (o.serve q).run w = (.value reply, w') →
      Serves o start ((q, reply) :: past) w'
  | meanwhile {past : List (EntryRequest × EntryReply)} {w w' : World} : Serves o start past w →
      (w'.host.record o.record).HasEntriesOf (w.host.record o.record) → Serves o start past w'

/-- What a request has stored under a key: a value that was written there with success, as it comes back
    from the representation of the entries. -/
def EntryRequest.stored? (c : Conversion) (key : String) : EntryRequest × EntryReply → Option HostValue
  | (.write key' v, .write (.ok _)) => if key' = key then (c.convert v).toOption else none
  | _ => none

/-- What a key holds after some requests: what the last of them stored there, else what it held first. -/
def EntryRequest.heldAfter (c : Conversion) (initial : Dict String HostValue)
    (past : List (EntryRequest × EntryReply)) (key : String) : Option HostValue :=
  (past.findSome? (stored? c key)).or (initial.get? key)

/-- In `w'` the object holds the value under the key, and no other change was made to `w`. -/
def HostObject.HasStored (o : HostObject) (key : String) (v : HostValue) (w w' : World) : Prop :=
  ∃ entries : Dict String HostValue,
    w' = { w with host := w.host.setRecord o.record { w.host.record o.record with entries } } ∧
    w'.host.record o.record = { w.host.record o.record with entries } ∧
    ∀ k, entries.get? k = if key = k then some v else (w.host.record o.record).entries.get? k

/-- The object answers all member access as a finite map would that holds this, unless the guard of its
    record does not admit it. -/
structure HostObject.AnswersAs (o : HostObject) (c : Conversion) (held : String → Option HostValue)
    (w : World) : Prop where
  entries : (w.host.record o.record).entries.get? = held
  read : ∀ key, ((w.host.record o.record).borrow.admit? false).isSome →
    ((Target.object o).readMember key).run w = (.value (.value ((held key).getD .nil)), w)
  write : ∀ key v contents, ((w.host.record o.record).borrow.admit? true).isSome →
    c.fromHost v = .ok contents → ∃ w', o.HasStored key (c.intoHost contents) w w' ∧
      ((Target.object o).writeMember key v).run w =
        (.value (if (held key).isSome then .assigned else .inserted), w')
  rejected : ∀ key v e, ((w.host.record o.record).borrow.admit? true).isSome →
    c.fromHost v = .error e →
    ((Target.object o).writeMember key v).run w = (.failure (.error e), w)
  unread : ∀ key, (w.host.record o.record).borrow.admit? false = none →
    ((Target.object o).readMember key).run w = (.failure (.error (Bridge.conflict o)), w)
  unwritten : ∀ key v, (w.host.record o.record).borrow.admit? true = none →
    ((Target.object o).writeMember key v).run w = (.failure (.error (Bridge.conflict o)), w)

/-! ## One request -/

/-- Entries of one representation are those of a record that exists. -/
theorem HostStore.record_setRecord_of_typed {h : HostStore} {i : Nat} {c : Conversion}
    (typed : (h.record i).type.storage = .typed c) (r : Record) : (h.setRecord i r).record i = r := by
  have inside : i < h.records.size := by
    apply Decidable.byContradiction
    intro outside
    have missing : h.records[i]? = none := Array.getElem?_eq_none (by omega)
    rw [record, missing] at typed
    cases typed
  rw [record, setRecord, Array.getElem?_setIfInBounds_self_of_lt inside]
  rfl

section Requests

variable {o : HostObject} {c : Conversion} {w : World}

theorem HostObject.run_readMember_of_dictionary (isDictionary : o.descriptor.isDictionary = true)
    (key : String) :
    ((Target.object o).readMember key).run w =
      (if ((w.host.record o.record).borrow.admit? false).isSome then
        .value (.value ((w.host.record o.record).read key))
      else .failure (.error (Bridge.conflict o)), w) := by
  simp only [Target.readMember, readMember, isDictionary, if_true, Bridge.readEntry, Bridge.checkBorrow,
    Action.run_bind, run_askHost]
  cases (w.host.record o.record).borrow.admit? false <;> rfl

theorem HostObject.setter?_of_conflict (isDictionary : o.descriptor.isDictionary = true)
    (conflict : (w.host.record o.record).borrow.admit? true = none) (key : String) (v : HostValue) :
    o.setter? key v w.host = .error (Bridge.conflict o) := by
  simp only [setter?, isDictionary, if_true, HostStore.checkClaim, conflict]
  rfl

theorem HostObject.setter?_of_admitted (isDictionary : o.descriptor.isDictionary = true)
    (typed : (w.host.record o.record).type.storage = .typed c)
    (admitted : ((w.host.record o.record).borrow.admit? true).isSome) (key : String) (v : HostValue) :
    o.setter? key v w.host =
      (c.fromHost v).map fun contents => some (.dictionary o key (c.intoHost contents)) := by
  obtain ⟨_, admitted⟩ := Option.isSome_iff_exists.1 admitted
  simp only [setter?, isDictionary, if_true, HostStore.checkClaim, admitted, typed, Storage.accept,
    Conversion.convert, Except.ok_bind]
  cases c.fromHost v <;> rfl

theorem HostObject.answersAs_entries (isDictionary : o.descriptor.isDictionary = true)
    (typed : (w.host.record o.record).type.storage = .typed c) :
    o.AnswersAs c (w.host.record o.record).entries.get? w where
  entries := rfl
  read key admitted := by
    rw [run_readMember_of_dictionary isDictionary, if_pos admitted]
    rfl
  write key v contents admitted accepted := by
    refine ⟨_, ⟨(w.host.record o.record).entries.insert key (c.intoHost contents), rfl, ?_, ?_⟩, ?_⟩
    · exact HostStore.record_setRecord_of_typed typed _
    · intro k
      exact Dict.get?_insert _ key k _
    · rw [Target.run_writeMember, Target.setter?, setter?_of_admitted isDictionary typed admitted, accepted]
      rfl
  rejected key v e admitted refused := by
    rw [Target.run_writeMember, Target.setter?, setter?_of_admitted isDictionary typed admitted, refused]
    rfl
  unread key conflict := by
    rw [run_readMember_of_dictionary isDictionary, conflict]
    rfl
  unwritten key v conflict := by
    rw [Target.run_writeMember, Target.setter?, setter?_of_conflict isDictionary conflict]
    rfl

/-- A request that is served has stored nothing and changed nothing, or has stored one value. -/
theorem HostObject.serve_cases {held : String → Option HostValue} (answers : o.AnswersAs c held w)
    {q : EntryRequest} {reply : EntryReply} {w' : World} (ran : (o.serve q).run w = (.value reply, w')) :
    (w' = w ∧ ∀ k, EntryRequest.stored? c k (q, reply) = none) ∨
      ∃ key stored, o.HasStored key stored w w' ∧
        ∀ k, EntryRequest.stored? c k (q, reply) = if key = k then some stored else none := by
  cases q with
  -- A read never stores, whether the record may be borrowed for it or not.
  | read key =>
    apply Or.inl
    simp only [serve, Action.run_bind, Action.run_attempt] at ran
    cases admitted : (w.host.record o.record).borrow.admit? false with
    | none =>
      rw [answers.unread key admitted] at ran
      cases ran
      exact ⟨rfl, fun _ => rfl⟩
    | some _ =>
      rw [answers.read key (by rw [admitted]; rfl)] at ran
      cases ran
      exact ⟨rfl, fun _ => rfl⟩
  | write key v =>
    simp only [serve, Action.run_bind, Action.run_attempt] at ran
    cases admitted : (w.host.record o.record).borrow.admit? true with
    | none =>
      rw [answers.unwritten key v admitted] at ran
      cases ran
      exact .inl ⟨rfl, fun _ => rfl⟩
    | some _ =>
      cases converted : c.fromHost v with
      | error e =>
        rw [answers.rejected key v e (by rw [admitted]; rfl) converted] at ran
        cases ran
        exact .inl ⟨rfl, fun _ => rfl⟩
      | ok contents =>
        obtain ⟨after, stored, wrote⟩ := answers.write key v contents (by rw [admitted]; rfl) converted
        rw [wrote] at ran
        cases ran
        refine .inr ⟨key, c.intoHost contents, stored, fun k => ?_⟩
        simp only [EntryRequest.stored?, Conversion.convert, converted]
        rfl

end Requests

/-! ## Any number of requests -/

section Histories

variable {o : HostObject} {c : Conversion} {start w : World} {past : List (EntryRequest × EntryReply)}

/-- The entries after some requests, and how they are represented, by induction on the requests. -/
theorem HostObject.Serves.holds (served : o.Serves start past w)
    (isDictionary : o.descriptor.isDictionary = true)
    (typed : (start.host.record o.record).type.storage = .typed c) :
    (w.host.record o.record).type.storage = .typed c ∧
      ∀ key, (w.host.record o.record).entries.get? key =
        EntryRequest.heldAfter c (start.host.record o.record).entries past key := by
  induction served with
  | start => exact ⟨typed, fun _ => rfl⟩
  | @request past w w' q reply _ ran ih =>
    obtain ⟨typed, holds⟩ := ih
    obtain ⟨rfl, nothing⟩ | ⟨key, v, ⟨entries, -, record, stored⟩, said⟩ :=
      serve_cases (answersAs_entries isDictionary typed) ran
    · refine ⟨typed, fun k => ?_⟩
      rw [holds k, EntryRequest.heldAfter, EntryRequest.heldAfter, List.findSome?_cons, nothing k]
    · rw [record]
      refine ⟨typed, fun k => ?_⟩
      rw [EntryRequest.heldAfter, List.findSome?_cons, said k]
      show entries.get? k = _
      rw [stored k]
      by_cases same : key = k
      · rw [if_pos same, if_pos same]
        rfl
      · rw [if_neg same, if_neg same]
        exact holds k
  | meanwhile _ kept ih => rwa [kept.type, kept.entries]

/-- An object of a dictionary type whose contents have one representation is a finite map, whatever its
    directory declares: after any requests it answers the next as a map would that holds under each key
    what the last successful write there stored, and what was there at first under any other. -/
theorem dictionary_answers_as_map (isDictionary : o.descriptor.isDictionary = true)
    (typed : (start.host.record o.record).type.storage = .typed c) (served : o.Serves start past w) :
    o.AnswersAs c (EntryRequest.heldAfter c (start.host.record o.record).entries past) w := by
  obtain ⟨typed, holds⟩ := served.holds isDictionary typed
  have contents : (w.host.record o.record).entries.get? = _ := funext holds
  rw [← contents]
  exact HostObject.answersAs_entries isDictionary typed

end Histories

/-- A shelf holds bytes, and its directory declares a field besides. -/
def byteShelf : HostObject :=
  let type : RecordType := ⟨"Shelf", .typed (.int .u8)⟩
  ⟨0, ((TypeBuilder.start "Shelf" type).field "Count" .double).dictionary.descriptor⟩

/-- The host has an empty shelf. -/
def byteShelfWorld : World :=
  World.openSession {} (.start 1) (HostStore.empty.newRecord (.blank byteShelf.descriptor.type)).2

/-- A byte was stored, and then what is none was refused. -/
def byteShelfPast : List (EntryRequest × EntryReply) :=
  [(.write "Count" (.int 300), .write (.error (.error (.typeMismatch "u8" "300")))),
    (.write "Count" (.int 7), .write (.ok .inserted))]

/-- The shelf still has the byte, which hides the field. -/
theorem dictionary_answers_as_map_of_bytes : ∃ w, byteShelf.Serves byteShelfWorld byteShelfPast w ∧
    ((Target.object byteShelf).readMember "Count").run w = (.value (.value (.int 7)), w) := by
  have first : (byteShelf.serve (.write "Count" (.int 7))).run byteShelfWorld = (.value _, _) := rfl
  have second := HostObject.Serves.start.request first |>.request
    (q := .write "Count" (.int 300)) rfl
  have answers := dictionary_answers_as_map (c := .int .u8) rfl rfl second
  exact ⟨_, second, answers.read "Count" rfl⟩

end ScriptHost
