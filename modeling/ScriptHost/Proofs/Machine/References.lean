import ScriptHost.Proofs.Counting
import ScriptHost.Proofs.Machine.Frames
import ScriptHost.Bridge.Marshal
/-!
# References and tables

What the operations on the registry do to the view of it: which value is kept under which number, and
how many are kept.  The operations keep the registry tidy: its list of free numbers names empty places,
each once.

Then the same for tables: which tables a new proxy adds to the heap, and what an assignment changes in
those that are there.
-/

namespace ScriptHost

namespace Machine

/-! ## The registry -/

/-- The numbers to use again are of empty places. -/
structure HasTidyRegistry (m : Machine) : Prop where
  nodup : m.freeReferences.Nodup
  vacant : ∀ r ∈ m.freeReferences, m.registry[r]? = some none

/-- What keeping a value does to a registry. -/
structure Pins (m : Machine) (r : Nat) (v : Value) (m' : Machine) : Prop where
  vacant : m.referenced? r = none
  referenced : ∀ q, m'.referenced? q = if q = r then some v else m.referenced? q
  count : m'.referenceCount = m.referenceCount + 1
  tidy : m'.HasTidyRegistry
  tables : m'.tables = m.tables

/-- What giving up a number does to a registry. -/
structure Unpins (m : Machine) (r : Nat) (m' : Machine) : Prop where
  referenced : ∀ q, m'.referenced? q = if q = r then none else m.referenced? q
  count : m'.referenceCount + 1 = m.referenceCount
  tidy : m'.HasTidyRegistry
  tables : m'.tables = m.tables

theorem HasTidyRegistry.of_eq {m m' : Machine} (tidy : m.HasTidyRegistry)
    (registry : m'.registry = m.registry) (free : m'.freeReferences = m.freeReferences) :
    m'.HasTidyRegistry :=
  ⟨by rw [free]; exact tidy.nodup, by rw [free, registry]; exact tidy.vacant⟩

theorem referenced?_of_eq {m m' : Machine} (registry : m'.registry = m.registry) (r : Nat) :
    m'.referenced? r = m.referenced? r := by
  rw [referenced?, registry, referenced?]

variable {m : Machine}

theorem referenced?_eq_some {r : Nat} {v : Value} :
    m.referenced? r = some v ↔ m.registry[r]? = some (some v) := by
  rw [referenced?]
  cases m.registry[r]? with
  | none => simp
  | some kept => simp

/-- What is kept already stays so, as its number was not free. -/
theorem Pins.kept {m m' : Machine} {r q : Nat} {u v : Value} (pins : m.Pins r v m')
    (kept : m.referenced? q = some u) : m'.referenced? q = some u := by
  have different : q ≠ r := fun same => by
    rw [same, pins.vacant] at kept
    cases kept
  rw [pins.referenced, if_neg different, kept]

theorem Unpins.kept {m m' : Machine} {r q : Nat} {u : Value} (unpins : m.Unpins r m')
    (different : q ≠ r) (kept : m.referenced? q = some u) : m'.referenced? q = some u := by
  rw [unpins.referenced, if_neg different, kept]

/-- A value is kept under a number that was free or is the next one. -/
theorem pins_reference (tidy : m.HasTidyRegistry) (i : Int) :
    m.Pins (m.reference i).1 (m.valueAt i) (m.reference i).2 := by
  simp only [reference]
  cases listed : m.freeReferences with
  | cons r free =>
    -- The number leaves the list, where it stood once.
    have distinct := List.nodup_cons.1 (listed ▸ tidy.nodup)
    have empty := tidy.vacant r (by simp [listed])
    obtain ⟨bound, _⟩ := Array.getElem?_eq_some_iff.1 empty
    refine ⟨by rw [referenced?, empty]; rfl, fun q => ?_, ?_, ⟨distinct.2, fun q free_q => ?_⟩, rfl⟩
    · simp only [referenced?, Array.getElem?_setIfInBounds]
      by_cases same : q = r
      · simp [same, bound]
      · simp [same, Ne.symm same]
    · simpa [referenceCount] using
        countP_setIfInBounds Option.isSome (some (m.valueAt i)) empty
    · have different : r ≠ q := fun same => distinct.1 (same ▸ free_q)
      simp only [Array.getElem?_setIfInBounds, if_neg different]
      exact tidy.vacant q (by simp [listed, free_q])
  | nil =>
    refine ⟨by simp [referenced?], fun q => ?_, by simp [referenceCount],
      ⟨List.nodup_nil, fun q free_q => by cases free_q⟩, rfl⟩
    simp only [referenced?, Array.getElem?_push]
    by_cases same : q = m.registry.size
    · simp [same]
    · simp [same]

theorem stack_reference (m : Machine) (i : Int) : (m.reference i).2.stack = m.stack := by
  rw [reference]
  split <;> rfl

/-- Giving up a number under which nothing is kept. -/
theorem releaseReference_of_dead {r : Nat} (dead : m.referenced? r = none) : m.releaseReference r = m := by
  rw [releaseReference, dead]

/-- Giving up a number under which a value is kept. -/
theorem unpins_releaseReference (tidy : m.HasTidyRegistry) {r : Nat} {v : Value}
    (kept : m.referenced? r = some v) : m.Unpins r (m.releaseReference r) := by
  have found := referenced?_eq_some.1 kept
  obtain ⟨bound, _⟩ := Array.getElem?_eq_some_iff.1 found
  have unlisted : r ∉ m.freeReferences := fun listed => by
    have empty := tidy.vacant r listed
    rw [found] at empty
    cases empty
  simp only [releaseReference, kept]
  refine ⟨fun q => ?_, ?_, ⟨List.nodup_cons.2 ⟨unlisted, tidy.nodup⟩, fun q listed => ?_⟩, rfl⟩
  · simp only [referenced?, Array.getElem?_setIfInBounds]
    by_cases same : q = r
    · simp [same, bound]
    · simp [same, Ne.symm same]
  · simpa [referenceCount] using countP_setIfInBounds Option.isSome none found
  · rw [Array.getElem?_setIfInBounds]
    by_cases same : r = q
    · simp [same, same ▸ bound]
    · rw [if_neg same]
      rcases List.mem_cons.1 listed with rfl | listed
      · exact absurd rfl same
      · exact tidy.vacant q listed

theorem HasTidyRegistry.releaseReference (tidy : m.HasTidyRegistry) {r : Nat} :
    (m.releaseReference r).HasTidyRegistry := by
  cases kept : m.referenced? r with
  | none => rwa [releaseReference_of_dead kept]
  | some v => exact (unpins_releaseReference tidy kept).tidy

theorem HasTidyRegistry.close (tidy : m.HasTidyRegistry) : m.close.HasTidyRegistry := by
  rw [Machine.close]
  split
  · exact tidy
  · exact ⟨List.nodup_nil, fun _ absent => absurd absent List.not_mem_nil⟩

/-! ## The top of the stack -/

section Top

variable {below : Array Value} {u v : Value}

theorem valueAt_top (stack : m.stack = below.push v) (whole : m.base ≤ below.size) :
    m.valueAt (-1) = v := by
  have height : m.height = below.size + 1 := by rw [height, stack, Array.size_push]
  have index : m.slotIndex? (-1) = some below.size := by
    simp only [slotIndex?, frameSize, height]
    rw [if_neg (by omega), if_pos (by omega), if_pos (by omega)]
    rfl
  rw [valueAt, index, Option.bind_some, stack, Array.getElem?_push_size]
  rfl

theorem valueAt_second (stack : m.stack = (below.push u).push v) (whole : m.base ≤ below.size) :
    m.valueAt (-2) = u := by
  have height : m.height = below.size + 2 := by simp [height, stack]
  have index : m.slotIndex? (-2) = some below.size := by
    simp only [slotIndex?, frameSize, height]
    rw [if_neg (by omega), if_pos (by omega), if_pos (by omega)]
    rfl
  rw [valueAt, index, Option.bind_some, stack, Array.getElem?_push_lt (by simp),
    Array.getElem_push_eq]
  rfl

theorem popValue_top (stack : m.stack = below.push v) (whole : m.base ≤ below.size) :
    m.popValue = (v, { m with stack := below }) := by
  have filled : m.base < m.height := by
    rw [height, stack, Array.size_push]
    omega
  simp [popValue, filled, stack]

end Top

/-! ### The metatable on the top -/

section Metatable

variable {i : Int} {a b : Nat}

theorem getMetatable_of_table (found : m.valueAt i = .table a)
    (metatable : (m.table a).metatable = some b) : m.getMetatable i = (true, m.push (.table b)) := by
  simp only [getMetatable, metatableAt?, found, metatable]

theorem rawField_push_table (whole : m.base ≤ m.height) (b : Nat) (name : String) :
    (m.push (.table b)).rawField (-1) name = (m.table b).get (utf8Encode name) := by
  have top : (m.push (.table b)).valueAt (-1) = .table b := valueAt_top rfl whole
  rw [rawField, top]
  rfl

end Metatable

/-! ## Tables -/

end Machine

namespace Table

theorem get_set (t : Table) (key key' : Bytes) (v : Value) :
    (t.set key v).get key' = if key = key' then v else t.get key' := by
  cases v with
  | nil => by_cases same : key = key' <;> simp [get, set, Value.isNil, same]
  | _ => by_cases same : key = key' <;> simp [get, set, Value.isNil, same]

@[simp] theorem metatable_set (t : Table) (key : Bytes) (v : Value) :
    (t.set key v).metatable = t.metatable := rfl

end Table

namespace Machine

variable {m : Machine}

theorem table_setTable (m : Machine) {a : Nat} (bound : a < m.tables.size) (t : Table) (b : Nat) :
    (m.setTable a t).table b = if b = a then t else m.table b := by
  simp only [table, setTable, Array.getElem?_setIfInBounds]
  by_cases same : b = a
  · simp [same, bound]
  · simp [same, Ne.symm same]

theorem table_setTable_ne (m : Machine) {a b : Nat} (different : b ≠ a) (t : Table) :
    (m.setTable a t).table b = m.table b := by
  simp only [table, setTable, Array.getElem?_setIfInBounds, if_neg (Ne.symm different)]

/-- A table that is not there has neither fields nor a metatable. -/
theorem table_of_size_le {a : Nat} (outside : m.tables.size ≤ a) : m.table a = .empty := by
  rw [table, Array.getElem?_eq_none outside]
  rfl

/-! ## Proxies -/

/-- A table's metatable holds a token under the reserved key. -/
def Carries (m : Machine) (a : Nat) (t : Token) : Prop :=
  ∃ metatable, (m.table a).metatable = some metatable ∧
    (m.table metatable).get (utf8Encode "__handle") = .light t

/-- A table that carries a token is there, and so is its metatable. -/
theorem Carries.bounds {a : Nat} {t : Token} (carries : m.Carries a t) :
    a < m.tables.size ∧
      ∀ metatable, (m.table a).metatable = some metatable → metatable < m.tables.size := by
  obtain ⟨metatable, found, held⟩ := carries
  constructor
  · refine Nat.lt_of_not_le fun outside => ?_
    rw [table_of_size_le outside] at found
    cases found
  · intro other found'
    rw [found, Option.some.injEq] at found'
    refine Nat.lt_of_not_le fun outside => ?_
    rw [found', table_of_size_le outside] at held
    cases held

theorem Carries.of_table {m m' : Machine} {a : Nat} {t : Token} (carries : m.Carries a t)
    (same : ∀ b, b < m.tables.size → m'.table b = m.table b) : m'.Carries a t := by
  obtain ⟨inside, inside'⟩ := carries.bounds
  obtain ⟨metatable, found, held⟩ := carries
  exact ⟨metatable, by rw [same a inside, found],
    by rw [same metatable (inside' metatable found), held]⟩

/-- Setting a field of another table than the metatable does not change what a table carries. -/
theorem Carries.setTableField {a b : Nat} {t : Token} (carries : m.Carries a t)
    (other : (m.table a).metatable ≠ some b) (key : Bytes) (v : Value) :
    (m.setTableField b key v).Carries a t := by
  have inside := carries.bounds.1
  obtain ⟨metatable, found, held⟩ := carries
  have different : metatable ≠ b := fun same => other (same ▸ found)
  refine ⟨metatable, ?_, by rw [Machine.setTableField, table_setTable_ne m different, held]⟩
  by_cases same : a = b
  · rw [Machine.setTableField, ← same, table_setTable m inside, if_pos rfl, Table.metatable_set, found]
  · rw [Machine.setTableField, table_setTable_ne m same, found]

/-- Setting the metatable of another table does not change what a table carries. -/
theorem Carries.setMetatable {a b : Nat} {t : Token} (carries : m.Carries a t) (other : a ≠ b)
    (new : Option Nat) : (m.setTable b { m.table b with metatable := new }).Carries a t := by
  have inside := carries.bounds.2
  obtain ⟨metatable, found, held⟩ := carries
  refine ⟨metatable, by rw [table_setTable_ne m other, found], ?_⟩
  -- The other table may be the metatable itself; its fields stay.
  by_cases same : metatable = b
  · have inside := inside metatable found
    rw [← same, table_setTable m inside, if_pos rfl]
    exact held
  · rw [table_setTable_ne m same, held]

theorem Carries.of_tables {m m' : Machine} {a : Nat} {t : Token} (carries : m.Carries a t)
    (same : m'.tables = m.tables) : m'.Carries a t :=
  carries.of_table fun b _ => by rw [table, same, table]

theorem isRelative_withField (name : String) (v : Value) : IsRelative fun m => ((), m.withField name v) :=
  (isSteady_push (isQuery_const v)).toIsRelative.seq (isRelative_rawSet (-2) name)

theorem isRelative_newProxyMetatable (t : Token) (typeName : String) :
    IsRelative fun m => ((), m.newProxyMetatable t typeName) := by
  unfold newProxyMetatable
  have handle := isSteady_newTable.toIsRelative.seq (isRelative_withField "__handle" (.light t))
  have index := handle.seq (isRelative_withField "__index" (.function "__index" (.readMember t)))
  have newIndex := index.seq
    (isRelative_withField "__newindex" (.function "__newindex" (.writeMember t)))
  have text := newIndex.seq
    (isRelative_withField "__tostring" (.function "__tostring" (.label typeName)))
  exact text

theorem isRelative_newProxy (t : Token) (typeName : String) :
    IsRelative fun m => ((), m.newProxy t typeName) := by
  unfold newProxy
  have tables := isSteady_newTable.toIsRelative.seq (isRelative_newProxyMetatable t typeName)
  have proxy := (tables.seq (isRelative_setMetatable (-2))).mapAnswer fun _ => ()
  exact proxy

/-! ## Changes beside the registry -/

/-- The registry is as it was. -/
structure SameRegistry (m m' : Machine) : Prop where
  registry : m'.registry = m.registry
  freeReferences : m'.freeReferences = m.freeReferences

namespace SameRegistry

variable {m₁ m₂ m₃ : Machine}

theorem trans (first : m₁.SameRegistry m₂) (second : m₂.SameRegistry m₃) : m₁.SameRegistry m₃ :=
  ⟨second.registry.trans first.registry, second.freeReferences.trans first.freeReferences⟩

theorem of_tame {α : Type} {f : Machine → α × Machine} (tame : IsTame f) (m : Machine) :
    m.SameRegistry (f m).2 :=
  ⟨tame.registry m, tame.freeReferences m⟩

theorem tidy (same : m₁.SameRegistry m₂) (tidy : m₁.HasTidyRegistry) : m₂.HasTidyRegistry :=
  tidy.of_eq same.registry same.freeReferences

theorem rawSet (m : Machine) (i : Int) (name : String) : m.SameRegistry (m.rawSet i name) := by
  have popped := of_tame isSteady_popValue.isTame m
  simp only [Machine.rawSet]
  cases m.valueAt i <;> exact ⟨popped.registry, popped.freeReferences⟩

theorem setMetatable (m : Machine) (i : Int) : m.SameRegistry (m.setMetatable i).2 := by
  have popped := of_tame isSteady_popValue.isTame m
  simp only [Machine.setMetatable]
  cases m.valueAt i <;> cases m.popValue.1 <;> exact ⟨popped.registry, popped.freeReferences⟩

theorem withField (m : Machine) (name : String) (v : Value) : m.SameRegistry (m.withField name v) :=
  (of_tame (isSteady_push (isQuery_const v)).isTame m).trans (rawSet _ (-2) name)

theorem newProxy (m : Machine) (t : Token) (typeName : String) :
    m.SameRegistry (m.newProxy t typeName) := by
  have table := of_tame isSteady_newTable.isTame
  have metatable (m : Machine) : m.SameRegistry (m.newProxyMetatable t typeName) :=
    ((((table m).trans (withField _ _ _)).trans (withField _ _ _)).trans (withField _ _ _)).trans
      (withField _ _ _)
  exact ((table m).trans (metatable _)).trans (setMetatable _ (-2))

end SameRegistry

/-! ## New proxies -/

/-- The operation pushes a new proxy for a token, and otherwise only adds to the heap. -/
structure AddsProxy (m : Machine) (t : Token) (m' : Machine) : Prop where
  stack : m'.stack = m.stack.push (.table m.tables.size)
  frames : m'.frames = m.frames
  registry : m'.registry = m.registry
  freeReferences : m'.freeReferences = m.freeReferences
  table : ∀ b, b < m.tables.size → m'.table b = m.table b
  carries : m'.Carries m.tables.size t

theorem withField_eq {below : Array Value} {a : Nat} (stack : m.stack = below.push (.table a))
    (whole : m.base ≤ below.size) (name : String) (v : Value) :
    m.withField name v = m.setTableField a (utf8Encode name) v := by
  have pushed : (m.push v).stack = (below.push (.table a)).push v := by rw [push, stack]
  have whole' : (m.push v).base ≤ (below.push (.table a)).size := by
    rw [Array.size_push]
    exact Nat.le_succ_of_le whole
  have target : (m.push v).valueAt (-2) = .table a := valueAt_second pushed whole
  have popped := popValue_top pushed whole'
  rw [withField, rawSet, target, popped, ← stack]
  rfl

theorem setMetatable_top {below : Array Value} {a metatable : Nat}
    (stack : m.stack = (below.push (.table a)).push (.table metatable)) (whole : m.base ≤ below.size) :
    m.setMetatable (-2) = (.ok (), { m with stack := below.push (.table a) }.setTable a
      { m.table a with metatable := some metatable }) := by
  have whole' : m.base ≤ (below.push (.table a)).size := by
    rw [Array.size_push]
    exact Nat.le_succ_of_le whole
  rw [setMetatable, valueAt_second stack whole, popValue_top stack whole']
  rfl

/-- Pushes a table that is added to the heap. -/
def addTable (m : Machine) (table : Table) : Machine :=
  { m with tables := m.tables.push table, stack := m.stack.push (.table m.tables.size) }

theorem newTable_eq (m : Machine) : m.newTable = m.addTable .empty := rfl

theorem setTable_addTable (m : Machine) (old new : Table) :
    (m.addTable old).setTable m.tables.size new = m.addTable new := by
  have tables : (m.tables.push old).setIfInBounds m.tables.size new = m.tables.push new := by
    rw [Array.setIfInBounds, dif_pos (by simp), Array.set_push]
    simp
  simp only [addTable, setTable, tables]

theorem table_addTable (m : Machine) (table : Table) :
    (m.addTable table).table m.tables.size = table := by
  simp [addTable, Machine.table]

theorem withField_addTable (whole : m.base ≤ m.height) (table : Table) (name : String) (v : Value) :
    (m.addTable table).withField name v = m.addTable (table.set (utf8Encode name) v) := by
  have stack : (m.addTable table).stack = m.stack.push (.table m.tables.size) := rfl
  rw [withField_eq stack whole, setTableField, table_addTable, setTable_addTable]

/-- The metatable of a proxy. -/
def proxyMetatable (t : Token) (typeName : String) : Table :=
  (((Table.empty.set (utf8Encode "__handle") (.light t)).set (utf8Encode "__index")
    (.function "__index" (.readMember t))).set (utf8Encode "__newindex")
    (.function "__newindex" (.writeMember t))).set (utf8Encode "__tostring")
    (.function "__tostring" (.label typeName))

theorem get_proxyMetatable (t : Token) (typeName : String) :
    (proxyMetatable t typeName).get (utf8Encode "__handle") = .light t := by
  have index : utf8Encode "__index" ≠ utf8Encode "__handle" := by decide
  have newIndex : utf8Encode "__newindex" ≠ utf8Encode "__handle" := by decide
  have text : utf8Encode "__tostring" ≠ utf8Encode "__handle" := by decide
  simp [proxyMetatable, Table.get_set, index, newIndex, text]

theorem newProxyMetatable_eq (whole : m.base ≤ m.height) (t : Token) (typeName : String) :
    m.newProxyMetatable t typeName = m.addTable (proxyMetatable t typeName) := by
  simp only [newProxyMetatable, newTable_eq, withField_addTable whole, proxyMetatable]

theorem getElem?_push_push (ts : Array Table) (first second : Table) :
    ((ts.push first).push second)[ts.size]? = some first := by
  rw [Array.getElem?_push, if_neg (by rw [Array.size_push]; omega), Array.getElem?_push_size]

theorem newProxy_eq (whole : m.base ≤ m.height) (t : Token) (typeName : String) :
    m.newProxy t typeName =
      { m with
        stack := m.stack.push (.table m.tables.size)
        tables := (m.tables.push { Table.empty with metatable := some (m.tables.size + 1) }).push
          (proxyMetatable t typeName) } := by
  have whole' : m.newTable.base ≤ m.newTable.height := by
    show m.base ≤ (m.stack.push (.table m.tables.size)).size
    rw [Array.size_push]
    exact Nat.le_succ_of_le whole
  have stack : (m.newTable.addTable (proxyMetatable t typeName)).stack =
      (m.stack.push (.table m.tables.size)).push (.table (m.tables.size + 1)) := by
    simp [addTable, newTable]
  -- The proxy is added before its metatable, and gets it when both are there.
  have tables (new : Table) : ((m.tables.push .empty).push (proxyMetatable t typeName)).setIfInBounds
      m.tables.size new = (m.tables.push new).push (proxyMetatable t typeName) := by
    have inside : m.tables.size < (m.tables.push .empty).size := by
      rw [Array.size_push]
      exact Nat.lt_succ_self _
    have inside' : m.tables.size < ((m.tables.push .empty).push (proxyMetatable t typeName)).size := by
      rw [Array.size_push]
      exact Nat.lt_succ_of_lt inside
    rw [Array.setIfInBounds, dif_pos inside', Array.set_push, dif_pos inside, Array.set_push,
      dif_neg (Nat.lt_irrefl _)]
  have former : (m.newTable.addTable (proxyMetatable t typeName)).table m.tables.size = .empty := by
    show ((m.tables.push .empty).push (proxyMetatable t typeName))[m.tables.size]?.getD .empty = .empty
    rw [getElem?_push_push]
    rfl
  rw [newProxy, newProxyMetatable_eq whole', setMetatable_top stack whole, former]
  simp only [setTable, addTable, newTable, tables]

theorem addsProxy_newProxy (whole : m.base ≤ m.height) (t : Token) (typeName : String) :
    m.AddsProxy t (m.newProxy t typeName) := by
  rw [newProxy_eq whole]
  refine ⟨rfl, rfl, rfl, rfl, fun b inside => ?_, m.tables.size + 1, ?_, ?_⟩
  · rw [Machine.table, Array.getElem?_push_lt (by rw [Array.size_push]; omega),
      Array.getElem_push_lt (by omega), ← Array.getElem?_eq_getElem, Machine.table]
  · rw [Machine.table, getElem?_push_push]
    rfl
  · rw [Machine.table, Array.getElem?_push, if_pos (Array.size_push _).symm]
    exact get_proxyMetatable t typeName

end Machine

end ScriptHost
