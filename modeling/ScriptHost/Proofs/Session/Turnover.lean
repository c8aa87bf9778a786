import Mathlib.Logic.Function.Iterate
import ScriptHost.Proofs.Discipline.Paths
import ScriptHost.Proofs.Handles.Ledger
import ScriptHost.Proofs.Session.Pushing
/-!
# How often slots move on

A slot moves on to its next generation when its handle is given up.  Once it has gone through all of them
it comes round to the first, and only then may a token that was given up resolve again.  So it is counted
how often handles are given up along a path: at most once for each surface that is made, and once more
for the teardown (`World.Path.ages`).

Nothing is asked of the code that runs on the way.  It may give up references of the session, edit the
tables of proxies or close the machine: the handles do not depend on them.
-/

namespace ScriptHost

open World Machine

/-! ## Generations -/

namespace HandleSlot

/-- The generation after another one. -/
def nextGeneration (g : UInt32) : UInt32 := if g + 1 = 0 then 1 else g + 1

theorem generation_vacated (s : HandleSlot) : s.vacate.generation = nextGeneration s.generation := rfl

variable {g : UInt32} {k : Nat}

theorem toNat_nextGeneration (positive : 0 < g.toNat) :
    (nextGeneration g).toNat = g.toNat % HandleHistory.generationCapacity + 1 := by
  have bound := g.toNat_lt
  have next : (g + 1).toNat = (g.toNat + 1) % 4294967296 := UInt32.toNat_add g 1
  have zero_iff : g + 1 = 0 ↔ (g + 1).toNat = 0 := UInt32.toNat_inj.symm
  rw [HandleHistory.generationCapacity, nextGeneration]
  by_cases last : g + 1 = 0
  · have wrapped := zero_iff.1 last
    rw [if_pos last, UInt32.toNat_one]
    omega
  · have wrapped := mt zero_iff.2 last
    rw [if_neg last]
    omega

theorem toNat_nextGeneration_iterate (positive : 0 < g.toNat) (k : Nat) :
    (nextGeneration^[k] g).toNat = (g.toNat - 1 + k) % HandleHistory.generationCapacity + 1 := by
  have bound := g.toNat_lt
  induction k with
  | zero =>
    rw [HandleHistory.generationCapacity, Function.iterate_zero_apply]
    omega
  | succ k ih =>
    rw [Function.iterate_succ_apply', toNat_nextGeneration (by omega), ih, HandleHistory.generationCapacity]
    omega

/-- A generation does not come back before all the others have had their turn. -/
theorem nextGeneration_iterate_ne (moved : 0 < k) (few : k < HandleHistory.generationCapacity) :
    nextGeneration^[k] g ≠ g := by
  intro same
  have bound := g.toNat_lt
  by_cases positive : 0 < g.toNat
  · have turned := toNat_nextGeneration_iterate positive k
    rw [same, HandleHistory.generationCapacity] at turned
    rw [HandleHistory.generationCapacity] at few
    omega
  · -- Zero is no generation that another one leads to.
    obtain ⟨k, rfl⟩ := Nat.exists_eq_succ_of_ne_zero (Nat.ne_of_gt moved)
    have zero : g = 0 := UInt32.toNat_inj.1 (Nat.eq_zero_of_not_pos positive)
    have turned := toNat_nextGeneration_iterate (g := 1) (by decide) k
    have first : nextGeneration 0 = 1 := by decide
    rw [Function.iterate_succ_apply, zero, first] at same
    rw [same] at turned
    exact Nat.succ_ne_zero _ turned.symm

/-- After that it does. -/
theorem nextGeneration_iterate_all (positive : 0 < g.toNat) :
    nextGeneration^[HandleHistory.generationCapacity] g = g := by
  apply UInt32.toNat_inj.1
  have bound := g.toNat_lt
  rw [toNat_nextGeneration_iterate positive, HandleHistory.generationCapacity]
  omega

end HandleSlot

namespace HandleStore

open HandleSlot

variable {h h₁ h' : HandleStore} {t : Token} {k n n' : Nat}

/-- The slot of the token has moved on so many times since the token was issued.  If it has not at all,
    the token is live. -/
def HasTurned (h : HandleStore) (t : Token) (k : Nat) : Prop :=
  ∃ s, h.slots[t.slot.toNat]? = some s ∧ s.generation = nextGeneration^[k] t.generation ∧
    (k = 0 → s.tag = t.tag ∧ s.entry.isSome = true)

theorem hasTurned_zero : h.HasTurned t 0 ↔ (h.get? t).isSome = true := by
  simp only [Option.isSome_iff_exists, get?_eq_some_iff, HasTurned, Function.iterate_zero_apply,
    forall_const]
  constructor
  · rintro ⟨s, found, generation, tag, entry, filled⟩
    exact ⟨entry, s, found, generation, tag, filled⟩
  · rintro ⟨entry, s, found, generation, tag, filled⟩
    exact ⟨s, found, generation, tag, entry, filled⟩

theorem HasTurned.get?_eq_none (turned : h.HasTurned t k) (moved : 0 < k)
    (few : k < HandleHistory.generationCapacity) : h.get? t = none := by
  obtain ⟨s, found, generation, -⟩ := turned
  have different : s.generation ≠ t.generation := generation ▸ nextGeneration_iterate_ne moved few
  simp [get?, found, different]

/-- Each slot has moved on at most so many times, and has its entry still if it has not at all. -/
structure Turnover (h : HandleStore) (n : Nat) (h' : HandleStore) : Prop where
  tidy : h'.IsTidy
  turned : ∀ {t k}, h.HasTurned t k → ∃ k', k ≤ k' ∧ k' ≤ k + n ∧ h'.HasTurned t k'

namespace Turnover

theorem refl (tidy : h.IsTidy) : h.Turnover 0 h :=
  ⟨tidy, fun {_ k} turned => ⟨k, Nat.le_refl k, Nat.le_refl k, turned⟩⟩

theorem trans (first : h.Turnover n h₁) (second : h₁.Turnover n' h') : h.Turnover (n + n') h' := by
  refine ⟨second.tidy, fun turned => ?_⟩
  obtain ⟨k₁, least₁, most₁, turned₁⟩ := first.turned turned
  obtain ⟨k', least', most', turned'⟩ := second.turned turned₁
  exact ⟨k', by omega, by omega, turned'⟩

/-- Slots are vacated; what happens to the others concerns the empty ones, and not their generation. -/
theorem of_slots (tidy : h'.IsTidy) (slots : ∀ {j : Nat} {s : HandleSlot}, h.slots[j]? = some s →
      ∃ s', h'.slots[j]? = some s' ∧
        (s' = s.vacate ∧ 0 < n ∨ s'.generation = s.generation ∧ (s.entry.isSome = true → s' = s))) :
    h.Turnover n h' := by
  refine ⟨tidy, fun {t k} ⟨s, found, generation, live⟩ => ?_⟩
  obtain ⟨s', found', ⟨rfl, some_given⟩ | ⟨same, kept⟩⟩ := slots found
  · refine ⟨k + 1, Nat.le_succ k, by omega, s.vacate, found', ?_, fun none => by omega⟩
    rw [generation_vacated, generation, Function.iterate_succ_apply']
  · refine ⟨k, Nat.le_refl k, Nat.le_add_right k n, s', found', same.trans generation, fun none => ?_⟩
    obtain ⟨tag, filled⟩ := live none
    rw [kept filled]
    exact ⟨tag, filled⟩

theorem alloc (tidy : h.IsTidy) (entry : HandleEntry) (tag : UInt32) :
    h.Turnover 0 (h.alloc entry tag).2 := by
  rcases alloc_cases tidy entry tag with ⟨_, _, _, refused⟩ | ⟨_, i, t, h', served, _, issues, tidy'⟩
  · rw [refused]
    exact .refl tidy
  · rw [served]
    refine .of_slots tidy' fun {j s} found => ?_
    simp only [issues.slots]
    by_cases same : j = i
    · -- The slot was vacant, and goes on with the generation it had.
      subst same
      refine ⟨_, if_pos rfl, .inr ⟨?_, fun filled => ?_⟩⟩
      · rw [issues.generation, generationAt, found, Option.map_some, Option.getD_some]
      · have vacant := issues.vacant
        rw [entryAt, found, Option.bind_some] at vacant
        rw [vacant] at filled
        cases filled
    · rw [if_neg same]
      exact ⟨s, found, .inr ⟨rfl, fun _ => rfl⟩⟩

theorem release (tidy : h.IsTidy) (t : Token) : h.Turnover 1 (h.release t).2 := by
  rcases release_cases tidy t with ⟨_, refused⟩ | ⟨entry, h', served, freed, tidy'⟩
  · rw [refused]
    exact .of_slots tidy fun {_ s} found => ⟨s, found, .inr ⟨rfl, fun _ => rfl⟩⟩
  · rw [served]
    refine .of_slots tidy' fun {j s} found => ?_
    simp only [freed.slots]
    by_cases same : j = t.slot.toNat
    · exact ⟨s.vacate, by rw [if_pos same, found]; rfl, .inl ⟨rfl, Nat.one_pos⟩⟩
    · exact ⟨s, by rw [if_neg same, found], .inr ⟨rfl, fun _ => rfl⟩⟩

theorem releaseAll (h : HandleStore) : h.Turnover 1 h.releaseAll.2 := by
  refine .of_slots (isTidy_releaseAll h) fun {j s} found => ?_
  simp only [slots_releaseAll, found, Option.map_some, Option.some.injEq, exists_eq_left']
  by_cases filled : s.entry.isSome = true
  · rw [if_pos filled]
    exact .inl ⟨rfl, Nat.one_pos⟩
  · rw [if_neg filled]
    exact .inr ⟨rfl, fun _ => rfl⟩

end Turnover

end HandleStore

/-! ## Courses beside the machine -/

/-- The course takes notice of the handles, their proxies and what surfaces remember, and of nothing
    else. -/
structure Course.IgnoresMachine (C : Course) : Prop where
  same : ∀ {w w' : World}, w'.session.handles = w.session.handles →
    w'.session.proxies = w.session.proxies → w'.session.isTornDown = w.session.isTornDown →
    w.host.published.size ≤ w'.host.published.size →
    (∀ s, w'.host.publishedToken s = w.host.publishedToken s) → C.Leads 0 w w'
  teardown : ∀ w, C.Leads 0 w (Session.teardown.run w).2

namespace Course.IgnoresMachine

variable {C : Course} (ignores : C.IgnoresMachine) {bars : Op → World → Prop} {w w' : World}

include ignores

theorem machine (m : Machine) : C.Leads 0 w { w with machine := m } :=
  ignores.same rfl rfl rfl (Nat.le_refl _) fun _ => rfl

/-- Every step leads along such a course, whatever it does to the machine. -/
theorem step (step : Step bars w w') : C.Leads 0 w w' := by
  cases step with
  | plain plain =>
    have resembles := plain w.host
    exact ignores.same rfl rfl rfl resembles.surfaces resembles.published
  | emit e => exact ignores.same rfl rfl rfl (Nat.le_refl _) fun _ => rfl
  | push v => exact C.push v
  | read i => exact C.read i
  | disposeFunction number =>
    cases held : w.host.functionReference? number with
    | none =>
      exact LeadsBy.of_unchanged (C := C) (by simp [Bridge.disposeFunction, Bridge.run_functionReference, held])
    | some r =>
      rw [Bridge.run_disposeFunction held]
      exact ignores.same rfl rfl rfl (Nat.le_refl _) fun _ => rfl
  | registerType d => exact C.registerType d
  | forwardType d => exact C.forwardType d
  | pinChunk =>
    rw [Session.run_pinChunk]
    exact ignores.same rfl rfl rfl (Nat.le_refl _) fun _ => rfl
  | takeChunk =>
    cases held : w.session.chunk with
    | none => exact LeadsBy.of_unchanged (C := C) (by simp [Session.takeChunk, held])
    | some r =>
      rw [Session.run_takeChunk held]
      exact ignores.same rfl rfl rfl (Nat.le_refl _) fun _ => rfl
  | teardown => exact ignores.teardown w
  | _ => exact ignores.machine _

theorem path (path : Path bars w w') : C.Leads 0 w w' := by
  induction path with
  | refl => exact C.refl w
  | tail _ step ih => exact C.trans ih (ignores.step step)

end Course.IgnoresMachine

/-! ## Ageing -/

namespace World

variable {d e : Int} {w w₁ w' : World}

/-- How many surfaces the host has made, and one more once the session is torn down: so many handles may
    have been given up. -/
def made (w : World) : Nat := w.host.published.size + if w.session.isTornDown then 1 else 0

/-- The handles are turned over.  For all those that are given up, but for as many as the debt, there is a
    new surface or the teardown. -/
def Ages (d : Int) (w w' : World) : Prop :=
  w.session.handles.IsTidy → ∃ n : Nat, w.session.handles.Turnover n w'.session.handles ∧
    n + (w.made : Int) ≤ w'.made + d

namespace Ages

theorem of_same (handles : w'.session.handles = w.session.handles) (made : (w.made : Int) ≤ w'.made + d) :
    Ages d w w' := fun tidy => by
  rw [handles]
  exact ⟨0, .refl tidy, by omega⟩

theorem refl : Ages 0 w w := .of_same rfl (by omega)

theorem mono (ages : Ages d w w') (more : d ≤ e) : Ages e w w' := fun tidy => by
  obtain ⟨n, turnover, paid⟩ := ages tidy
  exact ⟨n, turnover, by omega⟩

theorem trans (first : Ages d w w₁) (second : Ages e w₁ w') : Ages (d + e) w w' := fun tidy => by
  obtain ⟨n, turnover, paid⟩ := first tidy
  obtain ⟨n', turnover', paid'⟩ := second turnover.tidy
  exact ⟨n + n', turnover.trans turnover', by omega⟩

theorem of_machine (m : Machine) : Ages 0 w { w with machine := m } := .of_same rfl (by simp [made])

/-- A change of the session beside its handles. -/
theorem of_session {s : Session} (handles : s.handles = w.session.handles)
    (isTornDown : s.isTornDown = w.session.isTornDown) : Ages 0 w { w with session := s } :=
  .of_same handles (by simp [made, isTornDown])

theorem pushProxy (t : Token) (typeName : String) :
    Ages 0 w ((Bridge.pushProxy t typeName).run w).2 := by
  obtain ⟨handles, isTornDown⟩ := Bridge.session_pushProxy w t typeName
  refine .of_same handles ?_
  rw [made, made, isTornDown, Bridge.host_pushProxy]
  omega

theorem issueProxy (entry : HandleEntry) : Ages 0 w ((Bridge.issueProxy entry).run w).2 := by
  intro tidy
  cases full : w.session.handles.isFull with
  | true =>
    rw [Bridge.run_issueProxy_full full]
    exact refl tidy
  | false =>
    have turnover := HandleStore.Turnover.alloc tidy entry entry.tag
    obtain ⟨t, h, served⟩ := HandleStore.alloc_of_room full entry entry.tag
    rw [served] at turnover
    rw [Bridge.run_issueProxy_served served]
    have recorded := HostStore.size_published_recordToken w.host t entry
    obtain ⟨n, pushed, paid⟩ := pushProxy (w := { w with
      session := { w.session with handles := h }, host := w.host.recordToken t entry }) t entry.typeName
      turnover.tidy
    refine ⟨0 + n, turnover.trans pushed, ?_⟩
    simp only [made] at paid ⊢
    omega

theorem pushEntry (entry : HandleEntry) : Ages 0 w ((Bridge.push entry.toValue).run w).2 := by
  rw [Bridge.run_push_entry]
  cases w.liveToken? entry with
  | some t => exact pushProxy t entry.typeName
  | none => exact issueProxy entry

theorem releaseToken (t : Token) : Ages 1 w ((Session.releaseToken t).run w).2 := by
  intro tidy
  rw [Session.run_releaseToken]
  exact ⟨1, .release tidy t, by simp [made, Int.add_comm]⟩

end Ages

/-- Ageing is a course. -/
def aging : Course where
  Leads := Ages
  refl _ := .refl
  mono := Ages.mono
  trans := Ages.trans
  tame _ _ := .of_machine _
  session _ _ handles _ _ _ isTornDown := .of_session handles isTornDown
  newSurface d w := by
    have size : (w.host.newSurface d).2.published.size = w.host.published.size + 1 := Array.size_push _
    refine .of_same rfl ?_
    simp only [made, size]
    omega
  pushEntry entry _ := .pushEntry entry
  readFunction slot := by
    rw [Bridge.run_read_function_at slot]
    exact .of_same rfl (by simp [made, HostStore.newFunction])
  releaseToken t _ := .releaseToken t

/-! ### Paths -/

section Paths

variable {bars : Op → World → Prop}

theorem aging_ignoresMachine : aging.IgnoresMachine where
  same handles _ isTornDown published _ := .of_same handles (by simp only [made, isTornDown]; omega)
  teardown w := by
    cases tornDown : w.session.isTornDown with
    | true =>
      rw [Session.run_teardown_again tornDown]
      exact .refl
    | false =>
      rw [Session.run_teardown tornDown]
      exact fun _ => ⟨1, .releaseAll _, by simp [made, tornDown, Int.add_comm]⟩

theorem Path.ages (path : Path bars w w') : Ages 0 w w' := aging_ignoresMachine.path path

/-- Along a path that makes fewer surfaces than there are generations, a token that was given up stays
    so. -/
theorem Path.stays_unresolved (tidy : w.session.handles.IsTidy) (before : Path bars w w₁)
    (after : Path bars w₁ w') {t : Token} (live : (w.session.handles.get? t).isSome = true)
    (released : w₁.session.handles.get? t = none)
    (few : w'.made < w.made + HandleHistory.generationCapacity) :
    w'.session.handles.get? t = none := by
  obtain ⟨n, turnover, paid⟩ := before.ages tidy
  obtain ⟨n', turnover', paid'⟩ := after.ages turnover.tidy
  obtain ⟨k, -, most, turned⟩ := turnover.turned (HandleStore.hasTurned_zero.2 live)
  obtain ⟨k', least', most', turned'⟩ := turnover'.turned turned
  have moved : k ≠ 0 := fun none => by
    rw [none, HandleStore.hasTurned_zero, released] at turned
    cases turned
  exact turned'.get?_eq_none (by omega) (by omega)

end Paths

end World

end ScriptHost
