import ScriptHost.Proofs.Handles.Store
import ScriptHost.Proofs.Machine.References
import ScriptHost.Session.Operations
/-!
# What a session holds

A session keeps references of its machine for three kinds of holders: the proxy of each live handle,
each script function that the host has not disposed, and the chunk that waits to be run.  It keeps
handles, in turn, for objects and surfaces.

`World.IsBacked` is the joint invariant of the stores involved.  That a thing has one live handle is
what makes the index of handles an index; that the proxies are those of the live handles is what makes
pushing a thing twice give one table; and that no two holders share a reference is what makes giving one
up safe for the others, since the machine uses the number again.  If nobody else pins references, then
the holders account for all of them (`World.IsAccounted`).  Each lemma here is about one change of the
world, and says that it keeps the stores in step.
-/

namespace ScriptHost

/-! ## Handles of things -/

/-- The live token of each thing is the one that is recorded for it: by the store for an object, by the
    host for a surface. -/
structure HandleStore.IsRecorded (h : HandleStore) (host : HostStore) : Prop where
  objects : ∀ {t o}, h.get? t = some (.object o) → h.tokens.get? o.record = some t
  surfaces : ∀ {t s}, h.get? t = some (.surface s) → host.publishedToken s = some t

namespace HandleStore

variable {h h' : HandleStore} {host host' : HostStore} {t : Token} {i : Nat}

/-- An object that has a live token has the one that the index gives. -/
theorem IsRecorded.tokenOf?_eq (recorded : h.IsRecorded host) {o live : HostObject}
    (found : h.get? t = some (.object live)) (same : live.record = o.record) :
    h.tokenOf? o = some t := by
  have indexed := recorded.objects found
  rw [same] at indexed
  exact tokenOf?_eq_some_iff.2 ⟨indexed, live, found, same⟩

theorem get?_of_tokenOf? {o : HostObject} (found : h.tokenOf? o = some t) :
    ∃ live, h.get? t = some (.object live) ∧ live.record = o.record :=
  (tokenOf?_eq_some_iff.1 found).2

/-- Issuing a token for an object that has none. -/
theorem IsRecorded.issueObject (recorded : h.IsRecorded host) {o : HostObject}
    (unissued : h.tokenOf? o = none) (issued : h.Issues (.object o) i t h') : h'.IsRecorded host where
  objects {t' o'} live := by
    simp only [issued.tokens, HandleEntry.record?, NumberedDict.get?_insert]
    rcases issued.live_of_after live with ⟨rfl, own⟩ | before
    · cases own
      rw [if_pos rfl]
    · -- A live token for the same record would have been found.
      have different : o.record ≠ o'.record := fun shared => by
        rw [recorded.tokenOf?_eq before shared.symm] at unissued
        cases unissued
      rw [if_neg different, recorded.objects before]
  surfaces {t' s} live := by
    rcases issued.live_of_after live with ⟨_, own⟩ | before
    · cases own
    · exact recorded.surfaces before

/-- Issuing a token for a surface that is not published under a live one. -/
theorem IsRecorded.issueSurface (recorded : h.IsRecorded host) {s : Surface}
    (unpublished : ∀ t', host.publishedToken s = some t' → h.get? t' = none)
    (issued : h.Issues (.surface s) i t h') : h'.IsRecorded (host.setPublishedToken s t) where
  objects {t' o} live := by
    simp only [issued.tokens, HandleEntry.record?]
    rcases issued.live_of_after live with ⟨_, own⟩ | before
    · cases own
    · exact recorded.objects before
  surfaces {t' s'} live := by
    rw [HostStore.publishedToken_setPublishedToken]
    rcases issued.live_of_after live with ⟨rfl, own⟩ | before
    · cases own
      rw [if_pos rfl]
    · have published := recorded.surfaces before
      -- The last token of this surface is dead, so a live one is of another surface.
      have different : s.number ≠ s'.number := fun shared => by
        have alike : host.publishedToken s = some t' := by
          rw [HostStore.publishedToken, shared]
          exact published
        rw [unpublished t' alike] at before
        cases before
      rw [if_neg different, published]

theorem IsRecorded.free (recorded : h.IsRecorded host) {entry : HandleEntry}
    (freed : h.Frees t entry h') : h'.IsRecorded host where
  objects {t' o} live := by
    rw [freed.get?_after] at live
    by_cases same : t' = t
    · rw [if_pos same] at live
      cases live
    · rw [if_neg same] at live
      have indexed := recorded.objects live
      rw [freed.tokens, forget]
      cases entry with
      | surface s => exact indexed
      | object o' =>
        -- The index forgets a record only with the token that is given up.
        by_cases listed : h.tokens.get? o'.record = some t
        · have different : o'.record ≠ o.record := fun shared => by
            rw [shared, indexed, Option.some.injEq] at listed
            exact same listed
          simp [HandleEntry.record?, listed, different, indexed]
        · simp [HandleEntry.record?, listed, indexed]
  surfaces {t' s} live := by
    rw [freed.get?_after] at live
    by_cases same : t' = t
    · rw [if_pos same] at live
      cases live
    · rw [if_neg same] at live
      exact recorded.surfaces live

/-- Nothing has a live token for the entry's object or surface. -/
def Unissued (h : HandleStore) (host : HostStore) : HandleEntry → Prop
  | .object o => h.tokenOf? o = none
  | .surface s => ∀ t, host.publishedToken s = some t → h.get? t = none

end HandleStore

/-- The host's state with a token recorded for a surface; that of an object is recorded elsewhere. -/
def HostStore.recordToken (host : HostStore) (t : Token) : HandleEntry → HostStore
  | .object _ => host
  | .surface s => host.setPublishedToken s t

theorem HostStore.functions_recordToken (host : HostStore) (t : Token) (entry : HandleEntry) :
    (host.recordToken t entry).functions = host.functions := by
  cases entry <;> rfl

theorem HandleStore.IsRecorded.issue {h h' : HandleStore} {host : HostStore} {t : Token} {i : Nat}
    {entry : HandleEntry} (recorded : h.IsRecorded host) (unissued : h.Unissued host entry)
    (issued : h.Issues entry i t h') : h'.IsRecorded (host.recordToken t entry) := by
  cases entry with
  | object o => exact recorded.issueObject unissued issued
  | surface s => exact recorded.issueSurface unissued issued

/-! ## References of holders -/

theorem HostStore.functions_of_reference {host : HostStore} {number r : Nat}
    (held : host.functionReference? number = some r) : host.functions[number]? = some (some r) := by
  rw [functionReference?] at held
  cases listed : host.functions[number]? with
  | none => simp [listed] at held
  | some entry => simpa [listed] using held

theorem HostStore.functionReference?_newFunction (host : HostStore) (r number : Nat) :
    (host.newFunction r).2.functionReference? number =
      if number = host.functions.size then some r else host.functionReference? number := by
  simp only [functionReference?, newFunction, Array.getElem?_push]
  split <;> rfl

theorem HostStore.functionReference?_disposeFunction (host : HostStore) (disposed number : Nat) :
    (host.disposeFunction disposed).functionReference? number =
      if number = disposed then none else host.functionReference? number := by
  simp only [functionReference?, disposeFunction, Array.getElem?_setIfInBounds]
  by_cases same : number = disposed
  · rw [if_pos same, if_pos same.symm]
    split <;> rfl
  · rw [if_neg same, if_neg (Ne.symm same)]

theorem HostStore.functionReference?_newFunction_ne (host : HostStore) (r : Nat) {number : Nat}
    (other : number ≠ host.functions.size) :
    (host.newFunction r).2.functionReference? number = host.functionReference? number := by
  rw [functionReference?_newFunction, if_neg other]

theorem HostStore.functionReference?_disposeFunction_ne (host : HostStore) {disposed number : Nat}
    (other : number ≠ disposed) :
    (host.disposeFunction disposed).functionReference? number = host.functionReference? number := by
  rw [functionReference?_disposeFunction, if_neg other]

/-- A function that was held is counted no more. -/
theorem HostStore.countP_disposeFunction {host : HostStore} {number r : Nat}
    (held : host.functionReference? number = some r) :
    (host.disposeFunction number).functions.countP Option.isSome + 1 =
      host.functions.countP Option.isSome := by
  have counted := countP_setIfInBounds Option.isSome none (functions_of_reference held)
  simpa only [disposeFunction, Option.isSome_some, Option.isSome_none, if_true, Bool.false_eq_true, if_false,
    Nat.add_zero] using counted

/-- What can hold a reference. -/
inductive Holder where
  | proxy (t : Token)
  | function (number : Nat)
  | chunk

/-- The reference of a holder, if it has one. -/
def World.heldBy (w : World) : Holder → Option Nat
  | .proxy t => w.session.proxies.get? t
  | .function number => w.host.functionReference? number
  | .chunk => w.session.chunk

namespace World

variable {w w' : World}

/-! A change of one proxy, of one function or of the chunk leaves the references of all other holders. -/

theorem heldBy_of_proxies {t : Token}
    (proxies : ∀ t', t' ≠ t → w'.session.proxies.get? t' = w.session.proxies.get? t')
    (functions : w'.host.functions = w.host.functions) (chunk : w'.session.chunk = w.session.chunk)
    (y : Holder) (different : y ≠ .proxy t) : w'.heldBy y = w.heldBy y := by
  cases y with
  | proxy t' => exact proxies t' fun same => different (congrArg Holder.proxy same)
  | function number => rw [heldBy, HostStore.functionReference?, functions]; rfl
  | chunk => exact chunk

theorem heldBy_of_functions {number : Nat} (functions : ∀ other, other ≠ number →
      w'.host.functionReference? other = w.host.functionReference? other)
    (proxies : w'.session.proxies = w.session.proxies) (chunk : w'.session.chunk = w.session.chunk)
    (y : Holder) (different : y ≠ .function number) : w'.heldBy y = w.heldBy y := by
  cases y with
  | proxy t => rw [heldBy, proxies]; rfl
  | function other => exact functions other fun same => different (congrArg Holder.function same)
  | chunk => exact chunk

theorem heldBy_of_chunk (proxies : w'.session.proxies = w.session.proxies)
    (functions : w'.host.functions = w.host.functions) (y : Holder) (different : y ≠ .chunk) :
    w'.heldBy y = w.heldBy y := by
  cases y with
  | proxy t => rw [heldBy, proxies]; rfl
  | function number => rw [heldBy, HostStore.functionReference?, functions]; rfl
  | chunk => exact absurd rfl different

end World

/-- The function of the machine that the host holds under a number, until it is disposed. -/
def World.functionOf? (w : World) (number : Nat) : Option Value :=
  (w.host.functionReference? number).bind w.machine.referenced?

namespace Machine

/-- The value is one that the holder holds: a table that carries the token, or a function. -/
def Suits (m : Machine) : Holder → Value → Prop
  | .proxy t, v => ∃ a, v = .table a ∧ m.Carries a t
  | .function _, v => v.isFunction = true
  | .chunk, _ => True

theorem Suits.of_carries {m m' : Machine} {x : Holder} {v : Value} (suits : m.Suits x v)
    (carries : ∀ {t a}, x = .proxy t → v = .table a → m.Carries a t → m'.Carries a t) :
    m'.Suits x v := by
  cases x with
  | proxy t =>
    obtain ⟨a, same, carried⟩ := suits
    exact ⟨a, same, carries rfl same carried⟩
  | function number => exact suits
  | chunk => trivial

theorem Suits.of_tables {m m' : Machine} {x : Holder} {v : Value} (suits : m.Suits x v)
    (same : m'.tables = m.tables) : m'.Suits x v :=
  suits.of_carries fun _ _ carries => carries.of_tables same

/-- No two holders share a reference, and under each of theirs something is kept. -/
structure Owns (m : Machine) (held : Holder → Option Nat) : Prop where
  tidy : m.HasTidyRegistry
  live : ∀ {x r}, held x = some r → ∃ v, m.referenced? r = some v
  distinct : ∀ {x y r}, held x = some r → held y = some r → x = y

namespace Owns

variable {m m' : Machine} {held held' : Holder → Option Nat} {r : Nat}

/-- The registry is not changed. -/
theorem of_registry (owns : m.Owns held) (same : m.SameRegistry m') : m'.Owns held :=
  ⟨same.tidy owns.tidy, fun holds =>
    (owns.live holds).imp fun _ kept => (referenced?_of_eq same.registry _).trans kept, owns.distinct⟩

/-- A new reference that no holder has. -/
theorem pinOwn (owns : m.Owns held) {v : Value} (pins : m.Pins r v m') : m'.Owns held :=
  ⟨pins.tidy, fun holds => (owns.live holds).imp fun _ => pins.kept, owns.distinct⟩

/-- The number of a new reference was free, so no holder can have it. -/
theorem unheld (owns : m.Owns held) {v : Value} (pins : m.Pins r v m') (x : Holder) : held x ≠ some r :=
  fun holds => by
    obtain ⟨u, live⟩ := owns.live holds
    rw [pins.vacant] at live
    cases live

/-- A new reference for a holder, in place of the one that it may have had. -/
theorem pin (owns : m.Owns held) {v : Value} (pins : m.Pins r v m') {x : Holder}
    (taken : held' x = some r) (others : ∀ y, y ≠ x → held' y = held y) : m'.Owns held' := by
  refine ⟨pins.tidy, fun {y q} holds => ?_, fun {y z q} first second => ?_⟩
  · by_cases same : y = x
    · rw [same, taken, Option.some.injEq] at holds
      exact ⟨v, by rw [pins.referenced, if_pos holds.symm]⟩
    · rw [others y same] at holds
      exact (owns.live holds).imp fun _ => pins.kept
  · by_cases same_y : y = x
    · by_cases same_z : z = x
      · exact same_y.trans same_z.symm
      · rw [same_y, taken] at first
        rw [others z same_z] at second
        exact absurd (second.trans first.symm) (owns.unheld pins z)
    · by_cases same_z : z = x
      · rw [same_z, taken] at second
        rw [others y same_y] at first
        exact absurd (first.trans second.symm) (owns.unheld pins y)
      · rw [others y same_y] at first
        rw [others z same_z] at second
        exact owns.distinct first second

/-- Pinned first and given up then, what replaces another reference cannot have got its number. -/
theorem replaced (owns : m.Owns held) {v : Value} (pins : m.Pins r v m') {x : Holder} {stale : Nat}
    (held_before : held x = some stale) (taken : held' x = some r) (others : ∀ y, y ≠ x → held' y = held y)
    (y : Holder) : held' y ≠ some stale := fun holds => by
  by_cases same : y = x
  · rw [same, taken, Option.some.injEq] at holds
    exact owns.unheld pins x (holds ▸ held_before)
  · rw [others y same] at holds
    exact same (owns.distinct holds held_before)

/-- A reference given up that nobody holds any more. -/
theorem unpin (owns : m.Owns held) (unpins : m.Unpins r m')
    (still : ∀ y q, held' y = some q → held y = some q ∧ q ≠ r) : m'.Owns held' := by
  refine ⟨unpins.tidy, fun {y q} holds => ?_, fun {y z q} first second => ?_⟩
  · obtain ⟨held_before, different⟩ := still y q holds
    exact (owns.live held_before).imp fun _ => unpins.kept different
  · exact owns.distinct (still y q first).1 (still z q second).1

/-- What is left of the holders when one of them has given up its reference. -/
theorem dropped (owns : m.Owns held) {x : Holder} (taken : held x = some r) (gone : held' x = none)
    (others : ∀ y, y ≠ x → held' y = held y) (y : Holder) (q : Nat) (holds : held' y = some q) :
    held y = some q ∧ q ≠ r := by
  have different : y ≠ x := fun equal => by
    rw [equal, gone] at holds
    cases holds
  rw [others y different] at holds
  refine ⟨holds, fun same => different ?_⟩
  rw [same] at holds
  exact owns.distinct holds taken

end Owns

/-- What the holders hold is kept, and no two holders share a reference. -/
structure Backs (m : Machine) (held : Holder → Option Nat) : Prop where
  tidy : m.HasTidyRegistry
  kept : ∀ {x r}, held x = some r → ∃ v, m.referenced? r = some v ∧ m.Suits x v
  distinct : ∀ {x y r}, held x = some r → held y = some r → x = y

namespace Backs

variable {m m' : Machine} {held held' : Holder → Option Nat} {r : Nat}

theorem live (backs : m.Backs held) {x : Holder} (holds : held x = some r) :
    ∃ v, m.referenced? r = some v :=
  (backs.kept holds).imp fun _ => And.left

theorem owns (backs : m.Backs held) : m.Owns held := ⟨backs.tidy, backs.live, backs.distinct⟩

/-- A new reference for a holder, in place of the one that it may have had. -/
theorem pin (backs : m.Backs held) {v : Value} (pins : m.Pins r v m') {x : Holder}
    (suits : m.Suits x v) (taken : held' x = some r) (others : ∀ y, y ≠ x → held' y = held y) :
    m'.Backs held' := by
  refine ⟨pins.tidy, fun {y q} holds => ?_, (backs.owns.pin pins taken others).distinct⟩
  by_cases same : y = x
  · rw [same, taken, Option.some.injEq] at holds
    exact ⟨v, by rw [pins.referenced, if_pos holds.symm], same ▸ suits.of_tables pins.tables⟩
  · rw [others y same] at holds
    obtain ⟨u, kept, suits'⟩ := backs.kept holds
    exact ⟨u, pins.kept kept, suits'.of_tables pins.tables⟩

/-- A new reference that no holder has. -/
theorem pinOwn (backs : m.Backs held) {v : Value} (pins : m.Pins r v m') : m'.Backs held := by
  refine ⟨pins.tidy, fun {y q} holds => ?_, backs.distinct⟩
  obtain ⟨u, kept, suits⟩ := backs.kept holds
  exact ⟨u, pins.kept kept, suits.of_tables pins.tables⟩

/-- A reference given up that nobody holds any more. -/
theorem unpin (backs : m.Backs held) (unpins : m.Unpins r m')
    (still : ∀ y q, held' y = some q → held y = some q ∧ q ≠ r) : m'.Backs held' := by
  refine ⟨unpins.tidy, fun {y q} holds => ?_, (backs.owns.unpin unpins still).distinct⟩
  obtain ⟨held_before, different⟩ := still y q holds
  obtain ⟨u, kept, suits⟩ := backs.kept held_before
  exact ⟨u, unpins.kept different kept, suits.of_tables unpins.tables⟩

theorem drop (backs : m.Backs held) (unpins : m.Unpins r m') {x : Holder} (taken : held x = some r)
    (gone : held' x = none) (others : ∀ y, y ≠ x → held' y = held y) : m'.Backs held' :=
  backs.unpin unpins (backs.owns.dropped taken gone others)

/-- Adding to the heap leaves what is held as it is. -/
theorem of_heap (backs : m.Backs held) (registry : m'.registry = m.registry)
    (freeReferences : m'.freeReferences = m.freeReferences)
    (carries : ∀ {t r a}, held (.proxy t) = some r → m.referenced? r = some (.table a) →
      m.Carries a t → m'.Carries a t) : m'.Backs held := by
  refine ⟨backs.tidy.of_eq registry freeReferences, fun {x r} holds => ?_, backs.distinct⟩
  obtain ⟨v, kept, suits⟩ := backs.kept holds
  refine ⟨v, (referenced?_of_eq registry r).trans kept, suits.of_carries fun same table => ?_⟩
  exact carries (same ▸ holds) (table ▸ kept)

end Backs

end Machine

/-! ## The joint invariant -/

/-- One if a chunk is loaded and waits to be run. -/
def Session.pendingChunks (s : Session) : Nat := if s.chunk.isSome then 1 else 0

structure World.IsBacked (w : World) : Prop where
  /-- The frame is there, so that what is pushed is on top of it. -/
  whole : w.machine.base ≤ w.machine.height
  handles : w.session.handles.IsTidy
  recorded : w.session.handles.IsRecorded w.host
  backs : w.machine.Backs w.heldBy
  /-- There is a proxy for each live handle and for no other token. -/
  proxied : ∀ t, (w.session.proxies.get? t).isSome = (w.session.handles.get? t).isSome

/-- What of it does not depend on the machine. -/
structure World.IsFiled (w : World) : Prop where
  handles : w.session.handles.IsTidy
  recorded : w.session.handles.IsRecorded w.host
  proxied : ∀ t, (w.session.proxies.get? t).isSome = (w.session.handles.get? t).isSome

theorem World.IsBacked.isFiled {w : World} (backed : w.IsBacked) : w.IsFiled :=
  ⟨backed.handles, backed.recorded, backed.proxied⟩

/-- Besides, nothing but the session holds a reference. -/
structure World.IsAccounted (w : World) : Prop extends World.IsBacked w where
  functions : w.session.liveFunctions = w.host.functions.countP Option.isSome
  count : w.machine.referenceCount =
    w.session.handles.size + w.session.liveFunctions + w.session.pendingChunks

/-- The second world has what the invariant speaks of as the first one has. -/
structure World.Agrees (w w' : World) : Prop where
  handles : w'.session.handles = w.session.handles
  proxies : ∀ t, w'.session.proxies.get? t = w.session.proxies.get? t
  chunk : w'.session.chunk = w.session.chunk
  liveFunctions : w'.session.liveFunctions = w.session.liveFunctions
  functions : w'.host.functions = w.host.functions
  published : ∀ s, w'.host.publishedToken s = w.host.publishedToken s
  registry : w'.machine.registry = w.machine.registry
  freeReferences : w'.machine.freeReferences = w.machine.freeReferences
  /-- The tables of proxies still carry their tokens. -/
  carries : ∀ {t r a}, w.session.proxies.get? t = some r → w.machine.referenced? r = some (.table a) →
    w.machine.Carries a t → w'.machine.Carries a t
  whole : w'.machine.base ≤ w'.machine.height

namespace World

theorem Agrees.heldBy_eq {w w' : World} (agrees : Agrees w w') : w'.heldBy = w.heldBy := by
  funext x
  cases x with
  | proxy t => rw [heldBy, agrees.proxies, heldBy]
  | function number => rw [heldBy, HostStore.functionReference?, agrees.functions]; rfl
  | chunk => rw [heldBy, agrees.chunk, heldBy]

namespace IsBacked

variable {w w' : World}

theorem of_agrees (backed : w.IsBacked) (agrees : Agrees w w') : w'.IsBacked where
  whole := agrees.whole
  handles := agrees.handles ▸ backed.handles
  recorded := by
    rw [agrees.handles]
    exact ⟨backed.recorded.objects, fun live => (agrees.published _).trans (backed.recorded.surfaces live)⟩
  backs := by
    rw [agrees.heldBy_eq]
    exact backed.backs.of_heap agrees.registry agrees.freeReferences agrees.carries
  proxied t := by rw [agrees.proxies, agrees.handles, backed.proxied]

theorem unpins (backed : w.IsBacked) {x : Holder} {r : Nat} (holds : w.heldBy x = some r) :
    w.machine.Unpins r (w.machine.releaseReference r) := by
  obtain ⟨v, kept⟩ := backed.backs.live holds
  exact Machine.unpins_releaseReference backed.backs.tidy kept

variable {m : Machine} {r : Nat} {v : Value}

/-! ### References of scripts -/

theorem pin (backed : w.IsBacked) (pins : w.machine.Pins r v m) (whole : m.base ≤ m.height) :
    IsBacked { w with machine := m } :=
  ⟨whole, backed.handles, backed.recorded, backed.backs.pinOwn pins, backed.proxied⟩

theorem unpin (backed : w.IsBacked) (unheld : ∀ x, w.heldBy x ≠ some r)
    (unpins : w.machine.Unpins r m) (whole : m.base ≤ m.height) : IsBacked { w with machine := m } := by
  refine ⟨whole, backed.handles, backed.recorded, ?_, backed.proxied⟩
  exact backed.backs.unpin unpins fun y q holds => ⟨holds, fun same => unheld y (same ▸ holds)⟩

/-! ### Script functions -/

theorem pinFunction (backed : w.IsBacked) (pins : w.machine.Pins r v m) (isFunction : v.isFunction = true)
    (whole : m.base ≤ m.height) : IsBacked { w with
      machine := m
      session := { w.session with liveFunctions := w.session.liveFunctions + 1 }
      host := (w.host.newFunction r).2 } := by
  refine ⟨whole, backed.handles, ⟨backed.recorded.objects, backed.recorded.surfaces⟩, ?_,
    backed.proxied⟩
  refine backed.backs.pin pins (x := .function w.host.functions.size) isFunction ?_ (heldBy_of_functions
    (fun _ other => HostStore.functionReference?_newFunction_ne _ r other) rfl rfl)
  simp [heldBy, HostStore.functionReference?_newFunction]

theorem disposeFunction (backed : w.IsBacked) {number : Nat}
    (held : w.host.functionReference? number = some r) (unpins : w.machine.Unpins r m)
    (whole : m.base ≤ m.height) : IsBacked { w with
      machine := m
      session := { w.session with liveFunctions := w.session.liveFunctions - 1 }
      host := w.host.disposeFunction number } := by
  have holds : w.heldBy (.function number) = some r := held
  refine ⟨whole, backed.handles, ⟨backed.recorded.objects, backed.recorded.surfaces⟩, ?_,
    backed.proxied⟩
  refine backed.backs.drop unpins holds ?_ (heldBy_of_functions
    (fun _ other => HostStore.functionReference?_disposeFunction_ne _ other) rfl rfl)
  simp [heldBy, HostStore.functionReference?_disposeFunction]

/-! ### The loaded chunk -/

theorem loadChunk (backed : w.IsBacked) (pins : w.machine.Pins r v m) (whole : m.base ≤ m.height) :
    IsBacked { w with
      machine := m
      session := { w.session with chunk := some r } } := by
  refine ⟨whole, backed.handles, backed.recorded, ?_, backed.proxied⟩
  exact backed.backs.pin pins (x := .chunk) trivial rfl (heldBy_of_chunk rfl rfl)

theorem replaceChunk (backed : w.IsBacked) {stale : Nat} (held : w.session.chunk = some stale)
    (pins : w.machine.Pins r v m) {m' : Machine} (unpins : m.Unpins stale m')
    (whole : m'.base ≤ m'.height) (whole' : m.base ≤ m.height) : IsBacked { w with
      machine := m'
      session := { w.session with chunk := some r } } := by
  have holds : w.heldBy .chunk = some stale := held
  refine ⟨whole, backed.handles, backed.recorded, ?_, backed.proxied⟩
  refine (backed.loadChunk pins whole').backs.unpin unpins fun y q holds' => ⟨holds', ?_⟩
  rintro rfl
  refine backed.backs.owns.replaced pins holds rfl ?_ y holds'
  exact heldBy_of_chunk rfl rfl

theorem takeChunk (backed : w.IsBacked) (held : w.session.chunk = some r)
    (unpins : w.machine.Unpins r m) (whole : m.base ≤ m.height) : IsBacked { w with
      machine := m
      session := { w.session with chunk := none } } := by
  have holds : w.heldBy .chunk = some r := held
  refine ⟨whole, backed.handles, backed.recorded, ?_, backed.proxied⟩
  exact backed.backs.drop unpins holds rfl (heldBy_of_chunk rfl rfl)

/-! ### Handles -/

/-- A handle is issued, and a new proxy is pinned for it. -/
theorem issue (backed : w.IsBacked) {entry : HandleEntry} {i : Nat} {t : Token} {h : HandleStore}
    (unissued : w.session.handles.Unissued w.host entry) (issued : w.session.handles.Issues entry i t h)
    (bound : i < HandleStore.slotCapacity) (tidy : h.IsTidy) (added : w.machine.AddsProxy t m)
    {m' : Machine} (pins : m.Pins r (.table w.machine.tables.size) m') (whole : m'.base ≤ m'.height) :
    IsBacked { w with
      machine := m'
      session := { w.session with handles := h, proxies := w.session.proxies.insert t r }
      host := w.host.recordToken t entry } := by
  -- Adding the tables of the proxy leaves the registry alone; pinning it is a step of its own.
  have backs : m.Backs w.heldBy := backed.backs.of_heap added.registry added.freeReferences
    fun _ _ carries => carries.of_table added.table
  refine ⟨whole, tidy, backed.recorded.issue unissued issued, ?_, fun t' => ?_⟩
  · exact backs.pin pins (x := .proxy t) ⟨_, rfl, added.carries⟩ (by simp [heldBy])
      (heldBy_of_proxies (fun t' other => by simp [Ne.symm other])
        (HostStore.functions_recordToken w.host t entry) rfl)
  · simp only [NumberedDict.get?_insert, issued.get?_after bound]
    by_cases same : t' = t
    · simp [same]
    · simp [same, Ne.symm same, backed.proxied]

theorem releaseToken (backed : w.IsBacked) {entry : HandleEntry} {t : Token} {h : HandleStore}
    (freed : w.session.handles.Frees t entry h) (tidy : h.IsTidy)
    (held : w.session.proxies.get? t = some r) (unpins : w.machine.Unpins r m)
    (whole : m.base ≤ m.height) : IsBacked { w with
      machine := m
      session := { w.session with handles := h, proxies := w.session.proxies.erase t } } := by
  have holds : w.heldBy (.proxy t) = some r := held
  refine ⟨whole, tidy, backed.recorded.free freed, ?_, fun t' => ?_⟩
  · exact backed.backs.drop unpins holds (by simp [heldBy])
      (heldBy_of_proxies (fun t' other => by simp [Ne.symm other]) rfl rfl)
  · simp only [NumberedDict.get?_erase, freed.get?_after]
    by_cases same : t' = t
    · simp [same]
    · simp [same, Ne.symm same, backed.proxied]

end IsBacked

end World

end ScriptHost
