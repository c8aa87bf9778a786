import ScriptHost.Proofs.Machine.Bases
/-!
# The registry keeps a ledger

Whoever sees which values a machine is asked to keep, under which numbers, and which numbers are given
up, can write down what is kept at any time (`RegistryHistory.ledger`).  A `Machine.RegistryRun` is any
interleaving of such requests with whatever else is done with a machine that stays open.

`registry_refines_ledger` is the result: along every such run the registry answers as the ledger demands
(`Machine.AnswersFor`), and whatever code does with a machine is such a run.  The non-trivial ingredient
is `Machine.HasExactRegistry`: the list of numbers to use again names exactly the empty places, each
once.  A number that stood there twice would be given out to two owners.
-/

namespace ScriptHost

open World Machine

/-! ## Histories -/

/-- A request that changes what a registry keeps. -/
inductive RegistryExchange where
  /-- A value was to be kept, and the number was given out for it. -/
  | kept (r : Nat) (v : Value)
  /-- The number was given up, whether anything was kept under it or not. -/
  | givenUp (r : Nat)

/-- The exchanges of a run, the latest first. -/
abbrev RegistryHistory := List RegistryExchange

namespace RegistryHistory

/-- The live numbers, and the values they were given out for. -/
def ledger : RegistryHistory → Dict Nat Value
  | [] => .empty
  | .kept r v :: past => (ledger past).insert r v
  | .givenUp r :: past => (ledger past).erase r

/-- The number was given out for the value, and was not given up since. -/
def Outstanding (past : RegistryHistory) (r : Nat) (v : Value) : Prop :=
  ∃ since earlier : RegistryHistory, past = since ++ .kept r v :: earlier ∧ .givenUp r ∉ since

/-- The greatest number of values that were kept at once. -/
def peak : RegistryHistory → Nat
  | [] => 0
  | x :: past => max (peak past) (ledger (x :: past)).size

theorem peak_le_cons (x : RegistryExchange) (past : RegistryHistory) : peak past ≤ peak (x :: past) :=
  Nat.le_max_left _ _

theorem outstanding_cons (x : RegistryExchange) (past : RegistryHistory) (r : Nat) (v : Value) :
    Outstanding (x :: past) r v ↔ x = .kept r v ∨ (x ≠ .givenUp r ∧ Outstanding past r v) := by
  constructor
  · rintro ⟨since, earlier, split, alive⟩
    cases since with
    | nil => exact .inl (List.cons.inj split).1
    | cons y since =>
      rw [List.cons_append, List.cons.injEq] at split
      obtain ⟨rfl, rfl⟩ := split
      rw [List.mem_cons, not_or] at alive
      exact .inr ⟨Ne.symm alive.1, since, earlier, rfl, alive.2⟩
  · rintro (rfl | ⟨other, since, earlier, rfl, alive⟩)
    · exact ⟨[], past, rfl, List.not_mem_nil⟩
    · exact ⟨x :: since, earlier, rfl, by simp [Ne.symm other, alive]⟩

end RegistryHistory

/-! ## Runs -/

/-- The registry of a machine of which nothing was asked yet. -/
structure Machine.HasNewRegistry (m : Machine) : Prop where
  registry : m.registry = #[]
  freeReferences : m.freeReferences = []

/-- Requests to the registry of a machine, in any order, between any other operations but closing.  Those
    are the tame ones, to which the pushing of a kept value belongs, and the edits by which calls set up
    and clear the stack and stack programs change tables. -/
inductive Machine.RegistryRun (start : Machine) : RegistryHistory → Machine → Prop where
  | start : RegistryRun start [] start
  | reference {past : RegistryHistory} {m : Machine} (i : Int) : RegistryRun start past m →
      RegistryRun start (.kept (m.reference i).1 (m.valueAt i) :: past) (m.reference i).2
  | releaseReference {past : RegistryHistory} {m : Machine} (r : Nat) : RegistryRun start past m →
      RegistryRun start (.givenUp r :: past) (m.releaseReference r)
  | tame {past : RegistryHistory} {m : Machine} {α : Type} {f : Machine → α × Machine} (tame : IsTame f) :
      RegistryRun start past m → RegistryRun start past (f m).2
  | edits {past : RegistryHistory} {m m' : Machine} (edits : m.Edits m') :
      RegistryRun start past m → RegistryRun start past m'

/-- The registry answers as its history demands. -/
structure Machine.AnswersFor (m : Machine) (past : RegistryHistory) : Prop where
  /-- A number that is live is not given out. -/
  fresh : ∀ i v, ¬ past.Outstanding (m.reference i).1 v
  /-- A live number stands for the value that it was given out for. -/
  live : ∀ r v, past.Outstanding r v → m.pushReference r = (true, m.push v)
  /-- Any other number stands for nothing. -/
  dead : ∀ r, (∀ v, ¬ past.Outstanding r v) → m.pushReference r = (false, m.push .nil)
  /-- To give up a number that is not live changes nothing. -/
  idle : ∀ r, (∀ v, ¬ past.Outstanding r v) → m.releaseReference r = m
  /-- The live numbers are those of the ledger. -/
  ledger : ∀ r v, past.ledger.get? r = some v ↔ past.Outstanding r v
  distinct : past.ledger.IsUnique
  count : m.referenceCount = past.ledger.size
  /-- A number that is given out is less than the most values that were kept at once, this one among them. -/
  bound : ∀ i, (m.reference i).1 < max past.peak (past.ledger.size + 1)

/-- The number of words of 32 bits, of which each can be the number of a reference. -/
def Machine.referenceCapacity : Nat := 4294967296

/-! ## Places -/

/-- The numbers to use again are those of the empty places, each once. -/
structure Machine.HasExactRegistry (m : Machine) : Prop extends m.HasTidyRegistry where
  listed : ∀ r, m.registry[r]? = some none → r ∈ m.freeReferences

namespace Machine

variable {m m' : Machine}

theorem referenceCount_le (m : Machine) : m.referenceCount ≤ m.registry.size := Array.countP_le_size

theorem referenceCount_lt {r : Nat} (empty : m.registry[r]? = some none) :
    m.referenceCount < m.registry.size := by
  refine Nat.lt_of_le_of_ne m.referenceCount_le fun full => ?_
  have filled := Array.countP_eq_size.1 full none (Array.mem_of_getElem? empty)
  simp at filled

/-- Whether it was live or not, a number that was given up is dead, and no other is touched. -/
theorem referenced?_releaseReference (tidy : m.HasTidyRegistry) (r q : Nat) :
    (m.releaseReference r).referenced? q = if q = r then none else m.referenced? q := by
  cases kept : m.referenced? r with
  | some v => exact (unpins_releaseReference tidy kept).referenced q
  | none =>
    rw [releaseReference_of_dead kept]
    by_cases same : q = r
    · rw [if_pos same, same, kept]
    · rw [if_neg same]

theorem size_registry_releaseReference (m : Machine) (r : Nat) :
    (m.releaseReference r).registry.size = m.registry.size := by
  rw [releaseReference]
  cases m.referenced? r with
  | some v => exact Array.size_setIfInBounds
  | none => rfl

namespace HasExactRegistry

theorem of_new (new : m.HasNewRegistry) : m.HasExactRegistry where
  nodup := by simp [new.freeReferences]
  vacant := by simp [new.freeReferences]
  listed := by simp [new.registry]

theorem of_same (exactly : m.HasExactRegistry) (same : m.SameRegistry m') : m'.HasExactRegistry where
  toHasTidyRegistry := same.tidy exactly.toHasTidyRegistry
  listed r empty := by
    rw [same.registry] at empty
    rw [same.freeReferences]
    exact exactly.listed r empty

/-- If no number is to be used again, all places are filled. -/
theorem referenceCount_eq (exactly : m.HasExactRegistry) (none_free : m.freeReferences = []) :
    m.referenceCount = m.registry.size := by
  refine Array.countP_eq_size.2 fun entry among => ?_
  obtain ⟨r, found⟩ := Array.mem_iff_getElem?.1 among
  cases entry with
  | some v => rfl
  | none =>
    have free := exactly.listed r found
    simp [none_free] at free

/-- A place is added if all are filled, and only then. -/
theorem size_registry_reference (exactly : m.HasExactRegistry) (i : Int) :
    (m.reference i).2.registry.size = max m.registry.size (m.referenceCount + 1) := by
  rw [Machine.reference]
  cases free : m.freeReferences with
  | cons r rest =>
    have room := referenceCount_lt (exactly.vacant r (by simp [free]))
    simp only [Array.size_setIfInBounds]
    omega
  | nil =>
    have full := exactly.referenceCount_eq free
    simp only [Array.size_push]
    omega

theorem reference_lt (exactly : m.HasExactRegistry) (i : Int) :
    (m.reference i).1 < max m.registry.size (m.referenceCount + 1) := by
  rw [Machine.reference]
  cases free : m.freeReferences with
  | cons r rest =>
    obtain ⟨inside, _⟩ := Array.getElem?_eq_some_iff.1 (exactly.vacant r (by simp [free]))
    show r < _
    omega
  | nil =>
    have full := exactly.referenceCount_eq free
    show m.registry.size < _
    omega

theorem reference (exactly : m.HasExactRegistry) (i : Int) : (m.reference i).2.HasExactRegistry where
  toHasTidyRegistry := (pins_reference exactly.toHasTidyRegistry i).tidy
  listed r empty := by
    rw [Machine.reference] at empty ⊢
    cases free : m.freeReferences with
    | cons q rest =>
      simp only [free, Array.getElem?_setIfInBounds] at empty ⊢
      by_cases same : q = r
      · -- The place that was filled is not empty.
        rw [if_pos same] at empty
        split at empty <;> simp at empty
      · rw [if_neg same] at empty
        have among := exactly.listed r empty
        rw [free, List.mem_cons] at among
        exact among.resolve_left (Ne.symm same)
    | nil =>
      simp only [free, Array.getElem?_push] at empty ⊢
      by_cases last : r = m.registry.size
      · rw [if_pos last] at empty
        simp at empty
      · rw [if_neg last] at empty
        have among := exactly.listed r empty
        rwa [free] at among

theorem releaseReference (exactly : m.HasExactRegistry) (r : Nat) :
    (m.releaseReference r).HasExactRegistry where
  toHasTidyRegistry := exactly.toHasTidyRegistry.releaseReference
  listed q empty := by
    rw [Machine.releaseReference] at empty ⊢
    cases kept : m.referenced? r with
    | none =>
      rw [kept] at empty
      exact exactly.listed q empty
    | some v =>
      simp only [kept, Array.getElem?_setIfInBounds] at empty
      by_cases same : r = q
      · simp [same]
      · rw [if_neg same] at empty
        exact List.mem_cons_of_mem r (exactly.listed q empty)

end HasExactRegistry

end Machine

/-! ## The invariant -/

namespace RegistryHistory

/-- How the history of a run and the registry belong together. -/
structure Describes (past : RegistryHistory) (m : Machine) : Prop where
  registry : m.HasExactRegistry
  live : ∀ r, past.ledger.get? r = m.referenced? r
  distinct : past.ledger.IsUnique
  count : past.ledger.size = m.referenceCount
  outstanding : ∀ r v, past.ledger.get? r = some v ↔ past.Outstanding r v
  /-- Places were added only when all others were filled. -/
  size : m.registry.size = past.peak
  given : ∀ r v, .kept r v ∈ past → r < past.peak

namespace Describes

variable {past : RegistryHistory} {m m' : Machine}

theorem start (new : m.HasNewRegistry) : Describes [] m where
  registry := .of_new new
  live r := by simp [ledger, referenced?, new.registry]
  distinct := Dict.isUnique_empty
  count := by simp [ledger, Dict.size, Dict.empty, referenceCount, new.registry]
  outstanding r v := by simp [ledger, Outstanding]
  size := by simp [peak, new.registry]
  given r v among := by simp at among

/-- What is done with the machine besides does not matter. -/
theorem of_same (describes : past.Describes m) (same : m.SameRegistry m') : past.Describes m' where
  registry := describes.registry.of_same same
  live r := (describes.live r).trans (referenced?_of_eq same.registry r).symm
  distinct := describes.distinct
  count := by rw [describes.count, referenceCount, referenceCount, same.registry]
  outstanding := describes.outstanding
  size := by rw [same.registry, describes.size]
  given := describes.given

theorem reference (describes : past.Describes m) (i : Int) :
    Describes (.kept (m.reference i).1 (m.valueAt i) :: past) (m.reference i).2 := by
  have pins := pins_reference describes.registry.toHasTidyRegistry i
  have absent := (describes.live _).trans pins.vacant
  have size : (ledger (.kept (m.reference i).1 (m.valueAt i) :: past)).size = past.ledger.size + 1 :=
    Dict.size_insert_of_absent absent _
  have places : peak (.kept (m.reference i).1 (m.valueAt i) :: past) =
      max m.registry.size (m.referenceCount + 1) := by
    rw [peak, size, describes.size, describes.count]
  exact {
    registry := describes.registry.reference i
    live := fun r => by
      rw [ledger, Dict.get?_insert, pins.referenced, describes.live]
      simp only [eq_comm]
    distinct := Dict.isUnique_insert describes.distinct _ _
    count := by rw [size, pins.count, describes.count]
    outstanding := fun r v => by
      rw [outstanding_cons, ← describes.outstanding, ledger, Dict.get?_insert]
      by_cases same : (m.reference i).1 = r
      · -- The number was dead before, so the ledger had nothing else for it.
        simp [← same, absent]
      · simp [same]
    size := by rw [describes.registry.size_registry_reference, places]
    given := fun r v among => by
      rcases List.mem_cons.1 among with same | earlier
      · rw [places, (RegistryExchange.kept.inj same).1]
        exact describes.registry.reference_lt i
      · exact Nat.lt_of_lt_of_le (describes.given r v earlier) (peak_le_cons _ past) }

theorem releaseReference (describes : past.Describes m) (r : Nat) :
    Describes (.givenUp r :: past) (m.releaseReference r) := by
  have tidy := describes.registry.toHasTidyRegistry
  have count : (ledger (.givenUp r :: past)).size = (m.releaseReference r).referenceCount := by
    cases kept : m.referenced? r with
    | none =>
      have absent := (describes.live r).trans kept
      rw [ledger, Dict.erase_of_absent absent, releaseReference_of_dead kept, describes.count]
    | some v =>
      have present := (describes.live r).trans kept
      have erased := Dict.size_erase_of_present describes.distinct present
      have unpinned := (unpins_releaseReference tidy kept).count
      have before := describes.count
      rw [ledger]
      omega
  exact {
    registry := describes.registry.releaseReference r
    live := fun q => by
      rw [ledger, Dict.get?_erase, referenced?_releaseReference tidy, describes.live]
      simp only [eq_comm]
    distinct := Dict.isUnique_erase describes.distinct r
    count
    outstanding := fun q v => by
      rw [outstanding_cons, ← describes.outstanding, ledger, Dict.get?_erase]
      by_cases same : r = q <;> simp [same]
    size := by
      -- Fewer values are kept than before, which were not more than there are places.
      have places := (m.releaseReference r).referenceCount_le
      rw [size_registry_releaseReference] at places
      rw [size_registry_releaseReference, peak, count, ← describes.size]
      omega
    given := fun q v among => by
      have earlier : .kept q v ∈ past := by simpa using among
      exact Nat.lt_of_lt_of_le (describes.given q v earlier) (peak_le_cons _ past) }

theorem referenced?_eq_none (describes : past.Describes m) {r : Nat} (dead : ∀ v, ¬ past.Outstanding r v) :
    m.referenced? r = none := by
  refine Option.eq_none_iff_forall_ne_some.2 fun v kept => dead v ?_
  rw [← describes.outstanding, describes.live, kept]

/-- From the ledger the answers follow. -/
theorem answersFor (describes : past.Describes m) : m.AnswersFor past where
  fresh i v outstanding := by
    have vacant := (pins_reference describes.registry.toHasTidyRegistry i).vacant
    have found := (describes.outstanding _ v).2 outstanding
    rw [describes.live, vacant] at found
    cases found
  live r v outstanding := by
    have found := (describes.outstanding r v).2 outstanding
    rw [describes.live] at found
    rw [pushReference, found]
  dead r dead := by
    rw [pushReference, describes.referenced?_eq_none dead]
  idle r dead := releaseReference_of_dead (describes.referenced?_eq_none dead)
  ledger := describes.outstanding
  distinct := describes.distinct
  count := describes.count.symm
  bound i := by
    rw [← describes.size, describes.count]
    exact describes.registry.reference_lt i

/-- A number that was given out is not changed as it is cut to 32 bits, unless more values than there are
    words were kept at once. -/
theorem toNat_word (describes : past.Describes m) (few : past.peak ≤ referenceCapacity) {r : Nat} {v : Value}
    (given : .kept r v ∈ past) : (UInt32.ofNat r).toNat = r :=
  UInt32.toNat_ofNat_of_lt (Nat.lt_of_lt_of_le (describes.given r v given) few)

end Describes

end RegistryHistory

/-! ## What code does with a machine -/

namespace Machine.RegistryRun

variable {start m m' : Machine} {past : RegistryHistory}

theorem trans {since : RegistryHistory} (first : RegistryRun start past m) (second : RegistryRun m since m') :
    RegistryRun start (since ++ past) m' := by
  induction second with
  | start => exact first
  | reference i _ ih => exact ih.reference i
  | releaseReference r _ ih => exact ih.releaseReference r
  | tame tame _ ih => exact ih.tame tame
  | edits edits _ ih => exact ih.edits edits

theorem withField (run : RegistryRun start past m) (name : String) (v : Value) :
    RegistryRun start past (m.withField name v) :=
  (run.tame (isSteady_push (isQuery_const v)).isTame).edits (.rawSet (-2) name)

theorem newProxyMetatable (run : RegistryRun start past m) (t : Token) (typeName : String) :
    RegistryRun start past (m.newProxyMetatable t typeName) :=
  ((((run.tame isSteady_newTable.isTame).withField _ _).withField _ _).withField _ _).withField _ _

theorem newProxy (run : RegistryRun start past m) (t : Token) (typeName : String) :
    RegistryRun start past (m.newProxy t typeName) :=
  ((run.tame isSteady_newTable.isTame).newProxyMetatable t typeName).edits (.setMetatable (-2))

theorem describes (new : start.HasNewRegistry) (run : RegistryRun start past m) : past.Describes m := by
  induction run with
  | start => exact .start new
  | reference i _ ih => exact ih.reference i
  | releaseReference r _ ih => exact ih.releaseReference r
  | tame tame _ ih => exact ih.of_same (.of_tame tame _)
  | edits edits _ ih => exact ih.of_same edits.sameRegistry

end Machine.RegistryRun

/-- A machine that is open in the end was open before, and there is a run of its registry in between. -/
structure Machine.Records (m m' : Machine) : Prop where
  isOpen : m'.isClosed = false → m.isClosed = false
  run : m'.isClosed = false → ∃ past, m.RegistryRun past m'

namespace Machine.Records

variable {m m₁ m' : Machine}

theorem of_run {past : RegistryHistory} (isClosed : m'.isClosed = m.isClosed)
    (run : m.RegistryRun past m') : m.Records m' :=
  ⟨fun isOpen => isClosed ▸ isOpen, fun _ => ⟨past, run⟩⟩

theorem refl (m : Machine) : m.Records m := .of_run rfl .start

theorem trans (first : m.Records m₁) (second : m₁.Records m') : m.Records m' where
  isOpen isOpen := first.isOpen (second.isOpen isOpen)
  run isOpen := by
    obtain ⟨past, run₁⟩ := first.run (second.isOpen isOpen)
    obtain ⟨since, run₂⟩ := second.run isOpen
    exact ⟨since ++ past, run₁.trans run₂⟩

theorem close (m : Machine) : m.Records m.close := by
  have closed := isClosed_close m
  refine ⟨fun isOpen => ?_, fun isOpen => ?_⟩ <;> rw [closed] at isOpen <;> cases isOpen

end Machine.Records

/-- What the bridge does with a machine is a run of its registry. -/
def recording : Drift where
  Leads w w' := w.machine.Records w'.machine
  refl w := .refl w.machine
  trans first second := first.trans second
  tame tame w := .of_run (tame.isClosed w.machine) (.tame tame .start)
  newProxy t typeName w := by
    have run : w.machine.RegistryRun [] (w.machine.newProxy t typeName) := .newProxy .start t typeName
    dsimp only
    exact .of_run ((isRelative_newProxy t typeName).isClosed w.machine) run
  reference i w := .of_run ((isRelative_reference i).isClosed w.machine) (.reference i .start)
  releaseReference r w :=
    .of_run ((isRelative_releaseReference r).isClosed w.machine) (.releaseReference r .start)
  close w := .close w.machine
  alloc _ _ w := .refl w.machine
  release _ w := .refl w.machine
  releaseAll w := .refl w.machine
  session w _ _ _ := .refl w.machine
  host w _ _ := .refl w.machine

namespace World

variable {bars : Op → World → Prop} {w w' : World}

theorem Step.records (step : Step bars w w') : w.machine.Records w'.machine := by
  cases step.goes recording with
  | leads records => exact records
  | edits edits => exact .of_run edits.isClosed (.edits edits .start)
  | plain | emit => exact .refl w.machine

theorem Path.records (path : Path bars w w') : w.machine.Records w'.machine := by
  induction path with
  | refl => exact .refl w.machine
  | tail _ step ih => exact ih.trans step.records

end World

/-- However the requests to a new registry are interleaved, with each other and with anything else that is
    done with an open machine, it answers as the ledger of these requests demands.  As long as no more
    values are kept at once than there are words of 32 bits, every number that is given out is one of these.
    Nothing that code does is left out: what leads from one state to another in the course of a run, of any
    commands or any operations and all that they call, is such an interleaving, as long as the machine is
    open. -/
theorem registry_refines_ledger :
    (∀ {start m : Machine} {past : RegistryHistory}, start.HasNewRegistry →
      RegistryRun start past m → m.AnswersFor past ∧
        (past.peak ≤ referenceCapacity → ∀ r v, .kept r v ∈ past → (UInt32.ofNat r).toNat = r)) ∧
    ∀ {stop : Op → World → Bool} {start w : World}, start.machine.base ≤ start.machine.height →
      World.Attains stop start w → w.machine.isClosed = false →
        ∃ past, RegistryRun start.machine past w.machine := by
  constructor
  · intro start m past new run
    have describes := run.describes new
    exact ⟨describes.answersFor, fun few r v given => describes.toNat_word few given⟩
  · intro stop start w whole attained isOpen
    have records := (attained.path whole).records
    exact records.run isOpen

/-- Two values are kept after the first number was given up twice, and one that was never given out once:
    the first of them gets the first number again. -/
def recycled : RegistryHistory :=
  [.kept 1 (.boolean true), .kept 0 (.boolean false), .givenUp 7, .givenUp 0, .givenUp 0,
    .kept 0 (.boolean true)]

def recycling : Machine :=
  { start 2 with
    stack := #[.boolean true, .boolean false]
    registry := #[some (.boolean false), some (.boolean true)] }

/-- A function that keeps its argument. -/
def keepingProbes : List Probe :=
  [.op (.pushFunction "keep" (.mk [.releaseReference 0, .reference 1] (some 0) none true)),
    .op (.pushBoolean true), .op (.call 1 0)]

def keeping : World := probed (fun _ _ => false) (.start 2) keepingProbes

/-- A number that is given out again stands for the new value, and what a function keeps in the course of a
    call is kept by a run of the registry. -/
theorem registry_refines_ledger_of_recycled :
    RegistryRun (.start 2) recycled recycling ∧
      recycling.pushReference 0 = (true, recycling.push (.boolean false)) ∧
      recycling.pushReference 7 = (false, recycling.push .nil) ∧
      recycling.releaseReference 7 = recycling ∧ recycling.referenceCount = 2 ∧
      (∀ r v, .kept r v ∈ recycled → (UInt32.ofNat r).toNat = r) ∧
      keeping.machine.referenceCount = 1 ∧ ∃ past, RegistryRun (.start 2) past keeping.machine := by
  have filled := (RegistryRun.start : RegistryRun (.start 2) [] _).tame
    (isSteady_push (isQuery_const (.boolean true))).isTame
  have emptied := (((filled.reference (-1)).releaseReference 0).releaseReference 0).releaseReference 7
  have pushed := emptied.tame (isSteady_push (isQuery_const (.boolean false))).isTame
  have run : RegistryRun (.start 2) recycled recycling := by
    exact (pushed.reference (-1)).reference 1
  obtain ⟨answers, words⟩ := registry_refines_ledger.1 ⟨rfl, rfl⟩ run
  have live : recycled.Outstanding 0 (.boolean false) := (answers.ledger 0 _).1 rfl
  have dead : ∀ v, ¬ recycled.Outstanding 7 v := by
    intro v outstanding
    have found := (answers.ledger 7 v).2 outstanding
    cases found
  have whole : (alone (.start 2)).machine.base ≤ (alone (.start 2)).machine.height := Nat.le_refl 0
  have attained : World.Attains _ (alone (.start 2)) keeping := attains_probed _ (.start 2) keepingProbes
  have recorded := registry_refines_ledger.2 whole attained (by decide +kernel)
  exact ⟨run, answers.live 0 _ live, answers.dead 7 dead, answers.idle 7 dead, answers.count,
    words (by decide), by decide +kernel, recorded⟩

end ScriptHost
