import ScriptHost.Bridge.Handles
import ScriptHost.Proofs.Counting
/-!
# Operations on a handle store

What each operation does to the view of a store: which token it issues or takes back, what every
token refers to afterwards, and how many handles are live.  The operations keep a store tidy: its
list of free slots holds exactly the empty ones, each once, and its counter is the number of the others.

A token names its slot by 32 bits, so the lemmas about issuing ask for a slot number below that.
-/

namespace ScriptHost

namespace HandleStore

/-- The number of different slots a token can name. -/
def slotCapacity : Nat := 4294967296

def entryAt (h : HandleStore) (i : Nat) : Option HandleEntry := h.slots[i]?.bind (·.entry)

/-- The generation of a slot; a slot that is not there yet starts with the first. -/
def generationAt (h : HandleStore) (i : Nat) : UInt32 := (h.slots[i]?.map (·.generation)).getD 1

/-- How many slots are filled, by going over them. -/
def filled (h : HandleStore) : Nat := h.slots.countP (·.entry.isSome)

/-- The slots to use again are the empty ones, and the counter is right about the others. -/
structure IsTidy (h : HandleStore) : Prop where
  nodup : h.free.Nodup
  mem_free : ∀ i, i ∈ h.free ↔ ∃ s, h.slots[i]? = some s ∧ s.entry = none
  counted : h.live = h.filled

theorem isTidy_empty (limit : Option Nat) : (empty limit).IsTidy :=
  ⟨List.nodup_nil, fun i => by simp [empty], rfl⟩

theorem isFull_iff (h : HandleStore) :
    h.isFull = true ↔ ∃ limit, h.limit = some limit ∧ limit ≤ h.size := by
  cases found : h.limit <;> simp [isFull, found, size]

theorem get?_eq_some_iff (h : HandleStore) (t : Token) (entry : HandleEntry) :
    h.get? t = some entry ↔
      ∃ s, h.slots[t.slot.toNat]? = some s ∧ s.generation = t.generation ∧ s.tag = t.tag ∧
        s.entry = some entry := by
  cases found : h.slots[t.slot.toNat]? with
  | none => simp [get?, found]
  | some s =>
    by_cases matched : s.generation = t.generation ∧ s.tag = t.tag
    · simp [get?, found, matched]
    · simp only [get?, found, matched, ↓reduceIte, reduceCtorEq, Option.some.injEq, exists_eq_left',
        false_iff]
      exact fun ⟨generation, tag, _⟩ => matched ⟨generation, tag⟩

theorem resolve_eq (h : HandleStore) (t : Token) :
    h.resolve t = match h.get? t with
      | some entry => .ok entry
      | none => .error (.unresolvedHandle t) := rfl

theorem resolve_eq_ok (h : HandleStore) (t : Token) (entry : HandleEntry) :
    h.resolve t = .ok entry ↔ h.get? t = some entry := by
  rw [resolve_eq]
  cases h.get? t <;> simp

theorem slot_tokenAt (h : HandleStore) {i : Nat} (bound : i < slotCapacity) :
    (h.tokenAt i).slot.toNat = i := by
  rw [tokenAt, UInt32.toNat_ofNat']
  exact Nat.mod_eq_of_lt bound

/-- The token for the contents of a slot refers to them. -/
theorem get?_tokenAt {h : HandleStore} {i : Nat} (bound : i < slotCapacity) {entry : HandleEntry}
    (filled : h.entryAt i = some entry) : h.get? (h.tokenAt i) = some entry := by
  obtain ⟨s, found, filled⟩ := Option.bind_eq_some_iff.1 filled
  rw [get?_eq_some_iff, h.slot_tokenAt bound, tokenAt, found]
  exact ⟨s, rfl, rfl, rfl, filled⟩

/-- The slot that a live token names holds what the token refers to. -/
theorem entryAt_of_get? {h : HandleStore} {t : Token} {entry : HandleEntry}
    (live : h.get? t = some entry) : h.entryAt t.slot.toNat = some entry := by
  obtain ⟨s, found, -, -, filled⟩ := (get?_eq_some_iff h t entry).1 live
  rw [entryAt, found, Option.bind_some, filled]

/-- The index names a token of the object, and the token is live. -/
theorem tokenOf?_eq_some_iff {h : HandleStore} {o : HostObject} {t : Token} :
    h.tokenOf? o = some t ↔ h.tokens.get? o.record = some t ∧
      ∃ live, h.get? t = some (.object live) ∧ live.record = o.record := by
  rw [tokenOf?]
  cases indexed : h.tokens.get? o.record with
  | none => simp
  | some t' =>
    simp only [Option.some.injEq]
    constructor
    · intro found
      split at found
      case h_2 => cases found
      case h_1 live resolved =>
        split at found
        case isFalse => cases found
        case isTrue same =>
          cases found
          exact ⟨rfl, live, resolved, same⟩
    · rintro ⟨rfl, live, resolved, same⟩
      simp [resolved, same]

/-! ## Issuing a token -/

/-- What issuing a token for an entry does to a store. -/
structure Issues (h : HandleStore) (entry : HandleEntry) (i : Nat) (t : Token) (h' : HandleStore) :
    Prop where
  slot : t.slot = UInt32.ofNat i
  generation : t.generation = h.generationAt i
  /-- The slot was empty, or is the next one. -/
  vacant : h.entryAt i = none
  next : i ≤ h.slots.size
  slots : ∀ j, h'.slots[j]? = if j = i then some ⟨t.generation, t.tag, some entry⟩ else h.slots[j]?
  limit : h'.limit = h.limit
  size : h'.size = h.size + 1
  tokens : h'.tokens = match entry.record? with
    | some record => h.tokens.insert record t
    | none => h.tokens

def reuse (h : HandleStore) (i : Nat) (free : List Nat) (entry : HandleEntry) (tag : UInt32) :
    HandleStore :=
  { h with free, slots := h.slots.modify i fun s => { s with tag, entry := some entry } }

def extend (h : HandleStore) (entry : HandleEntry) (tag : UInt32) : HandleStore :=
  { h with slots := h.slots.push ⟨1, tag, some entry⟩ }

theorem occupy_eq (h : HandleStore) (entry : HandleEntry) (tag : UInt32) :
    h.occupy entry tag = match h.free with
      | i :: free => (i, h.reuse i free entry tag)
      | [] => (h.slots.size, h.extend entry tag) := by
  obtain ⟨slots, free, live, limit, tokens⟩ := h
  cases free <;> rfl

/-- The store with one handle more in its counter. -/
def counting (h : HandleStore) : HandleStore := { h with live := h.live + 1 }

/-- The next slot to use, and the store after its use, which is tidy again once the handle is counted. -/
theorem occupy_cases {h : HandleStore} (tidy : h.IsTidy) (entry : HandleEntry) (tag : UInt32) :
    ∃ i h', h.occupy entry tag = (i, h') ∧ h.entryAt i = none ∧ i ≤ h.slots.size ∧
      (∀ j, h'.slots[j]? =
        if j = i then some ⟨h.generationAt i, tag, some entry⟩ else h.slots[j]?) ∧
      h'.limit = h.limit ∧ h'.tokens = h.tokens ∧ h'.live = h.live ∧ h'.counting.IsTidy := by
  rw [occupy_eq]
  cases listed : h.free with
  | cons i free =>
    have distinct := List.nodup_cons.1 (listed ▸ tidy.nodup)
    obtain ⟨s, found, vacant⟩ := (tidy.mem_free i).1 (by simp [listed])
    obtain ⟨bound, _⟩ := Array.getElem?_eq_some_iff.1 found
    have slots (j : Nat) : (h.reuse i free entry tag).slots[j]? =
        if j = i then some ⟨h.generationAt i, tag, some entry⟩ else h.slots[j]? := by
      rw [reuse, Array.getElem?_modify]
      by_cases same : j = i
      · simp [same, found, generationAt]
      · simp [same, Ne.symm same]
    -- The slot leaves the free list as it is filled; it was listed once, so it is listed no more.
    refine ⟨i, h.reuse i free entry tag, rfl, by simp [entryAt, found, vacant], Nat.le_of_lt bound,
      slots, rfl, rfl, rfl, ⟨distinct.2, fun j => ?_, ?_⟩⟩
    · rw [counting, slots]
      have listed_iff := tidy.mem_free j
      rw [listed, List.mem_cons] at listed_iff
      by_cases same : j = i
      · simp [same, reuse, distinct.1]
      · simpa [same, reuse] using listed_iff
    · have filled := countP_modify (·.entry.isSome) (fun s => { s with tag, entry := some entry }) found
      simpa [counting, HandleStore.filled, reuse, vacant, tidy.counted] using filled.symm
  | nil =>
    have slots (j : Nat) : (h.extend entry tag).slots[j]? =
        if j = h.slots.size then some ⟨h.generationAt h.slots.size, tag, some entry⟩
        else h.slots[j]? := by
      rw [extend, Array.getElem?_push]
      simp [generationAt]
    refine ⟨h.slots.size, h.extend entry tag, rfl, by simp [entryAt], Nat.le_refl _, slots, rfl, rfl,
      rfl, ⟨by simp [counting, extend, listed], fun j => ?_, ?_⟩⟩
    · rw [counting, slots]
      by_cases same : j = h.slots.size
      · simp [same, extend, listed]
      · simpa [same, extend] using tidy.mem_free j
    · simp [counting, filled, extend, tidy.counted]

/-- Tidiness does not look at the index of tokens. -/
theorem IsTidy.of_same {h h' : HandleStore} (tidy : h.IsTidy) (slots : h'.slots = h.slots)
    (free : h'.free = h.free) (live : h'.live = h.live) : h'.IsTidy := by
  refine ⟨free ▸ tidy.nodup, by rw [free, slots]; exact tidy.mem_free, ?_⟩
  rw [live, tidy.counted, filled, filled, slots]

theorem remember_slots (h : HandleStore) (entry : HandleEntry) (t : Token) :
    (h.remember entry t).slots = h.slots ∧ (h.remember entry t).free = h.free ∧
      (h.remember entry t).live = h.live ∧ (h.remember entry t).limit = h.limit := by
  cases entry <;> exact ⟨rfl, rfl, rfl, rfl⟩

theorem alloc_of_isFull {h : HandleStore} (full : h.isFull = true) (entry : HandleEntry) (tag : UInt32) :
    h.alloc entry tag = (.error (.handleLimit (h.limit.getD 0)), h) := by
  rw [alloc, if_pos full]

theorem alloc_of_room {h : HandleStore} (room : h.isFull = false) (entry : HandleEntry) (tag : UInt32) :
    ∃ t h', h.alloc entry tag = (.ok t, h') := by
  rw [alloc, if_neg (by rw [room]; exact Bool.false_ne_true)]
  exact ⟨_, _, rfl⟩

/-- Issuing fails exactly at the limit; else it fills an empty slot and changes nothing else. -/
theorem alloc_cases {h : HandleStore} (tidy : h.IsTidy) (entry : HandleEntry) (tag : UInt32) :
    (∃ limit, h.limit = some limit ∧ limit ≤ h.size ∧
        h.alloc entry tag = (.error (.handleLimit limit), h)) ∨
      (¬ h.isFull ∧ ∃ i t h', h.alloc entry tag = (.ok t, h') ∧ t.tag = tag ∧
        h.Issues entry i t h' ∧ h'.IsTidy) := by
  by_cases full : h.isFull
  · obtain ⟨limit, found, reached⟩ := (isFull_iff h).1 full
    exact .inl ⟨limit, found, reached, by simp [alloc, full, found]⟩
  · obtain ⟨i, h₁, occupied, vacant, next, slots, limit, tokens, live, tidy₁⟩ :=
      occupy_cases tidy entry tag
    have token : h₁.counting.tokenAt i = ⟨h.generationAt i, UInt32.ofNat i, tag⟩ := by
      simp [tokenAt, counting, slots]
    obtain ⟨slots', free', live', limit'⟩ := remember_slots h₁.counting entry (h₁.counting.tokenAt i)
    refine .inr ⟨full, i, h₁.counting.tokenAt i, h₁.counting.remember entry (h₁.counting.tokenAt i),
      ?_, ?_, ?_, tidy₁.of_same slots' free' live'⟩
    · simp [alloc, full, occupied, counting]
    · rw [token]
    · refine ⟨by rw [token], by rw [token], vacant, next, fun j => ?_, limit'.trans limit, ?_, ?_⟩
      · rw [slots', token]
        exact slots j
      · rw [HandleStore.size, live', counting, live, HandleStore.size]
      · cases entry <;> simp [remember, HandleEntry.record?, tokens, counting]

namespace Issues

variable {h h' : HandleStore} {entry : HandleEntry} {i : Nat} {t : Token}

theorem slot_toNat (issued : h.Issues entry i t h') (bound : i < slotCapacity) :
    t.slot.toNat = i := by
  rw [issued.slot, UInt32.toNat_ofNat']
  exact Nat.mod_eq_of_lt bound

theorem size_slots (issued : h.Issues entry i t h') :
    h.slots.size ≤ h'.slots.size ∧ i < h'.slots.size := by
  have filled : i < h'.slots.size := by
    apply (Array.getElem?_eq_some_iff.1 _).1
    · exact ⟨t.generation, t.tag, some entry⟩
    · rw [issued.slots, if_pos rfl]
  refine ⟨Nat.le_of_not_lt fun shrunk => ?_, filled⟩
  -- The first slot that would be missing is not the filled one, so it is as it was.
  have missing := issued.slots h'.slots.size
  rw [if_neg (by omega), Array.getElem?_eq_none (Nat.le_refl _)] at missing
  have := Array.getElem?_eq_none_iff.1 missing.symm
  omega

/-- What resolves afterwards is the issued token, or resolved before.  The number of the slot may have
    wrapped. -/
theorem live_of_after (issued : h.Issues entry i t h') {t' : Token} {live : HandleEntry}
    (found : h'.get? t' = some live) : (t' = t ∧ live = entry) ∨ h.get? t' = some live := by
  obtain ⟨s, at_slot, generation, tag, filled⟩ := (get?_eq_some_iff h' t' live).1 found
  rw [issued.slots] at at_slot
  split at at_slot
  · next named =>
    cases at_slot
    have same_slot : t'.slot = t.slot := by
      rw [issued.slot, ← named, UInt32.ofNat_toNat]
    have same : t' = t := by
      rw [Token.mk.injEq]
      exact ⟨generation.symm, same_slot, tag.symm⟩
    exact .inl ⟨same, (Option.some.inj filled).symm⟩
  · exact .inr ((get?_eq_some_iff h t' live).2 ⟨s, at_slot, generation, tag, filled⟩)

/-- No token that names the slot was live. -/
theorem get?_before (issued : h.Issues entry i t h') (bound : i < slotCapacity) {t' : Token}
    (named : t'.slot.toNat = t.slot.toNat) : h.get? t' = none := by
  cases found : h.get? t' with
  | none => rfl
  | some other =>
    obtain ⟨s, at_slot, _, _, filled⟩ := (get?_eq_some_iff h t' other).1 found
    have vacant := issued.vacant
    rw [entryAt, ← issued.slot_toNat bound, ← named, at_slot, Option.bind_some, filled] at vacant
    cases vacant

/-- Afterwards the issued token refers to the entry, and every other token to what it did. -/
theorem get?_after (issued : h.Issues entry i t h') (bound : i < slotCapacity) (t' : Token) :
    h'.get? t' = if t' = t then some entry else h.get? t' := by
  have at_slot := issued.slot_toNat bound
  apply Option.ext
  intro other
  rw [get?_eq_some_iff, issued.slots, ← at_slot]
  by_cases same : t'.slot.toNat = t.slot.toNat
  · have same_slot : t'.slot = t.slot := UInt32.toNat_inj.1 same
    have unresolved := issued.get?_before bound same
    have different_iff : t' = t ↔ t.generation = t'.generation ∧ t.tag = t'.tag := by
      rw [Token.mk.injEq]
      exact ⟨fun ⟨g, _, tag⟩ => ⟨g.symm, tag.symm⟩, fun ⟨g, tag⟩ => ⟨g.symm, same_slot, tag.symm⟩⟩
    -- Another token for the same slot differs in its generation or its tag, and so does not fit it.
    by_cases equal : t' = t
    · simp [equal]
    · have := mt different_iff.2 equal
      simp only [same, ↓reduceIte, Option.some.injEq, exists_eq_left', equal, unresolved, reduceCtorEq,
        iff_false]
      exact fun ⟨generation, tag, _⟩ => this ⟨generation, tag⟩
  · have different : t' ≠ t := fun equal => same (by rw [equal])
    rw [if_neg same, if_neg different, get?_eq_some_iff]

end Issues

/-! ## Giving a token up -/

/-- What giving up a live token does to a store. -/
structure Frees (h : HandleStore) (t : Token) (entry : HandleEntry) (h' : HandleStore) : Prop where
  live : h.get? t = some entry
  slots : ∀ j, h'.slots[j]? =
    if j = t.slot.toNat then h.slots[j]?.map HandleSlot.vacate else h.slots[j]?
  size_slots : h'.slots.size = h.slots.size
  limit : h'.limit = h.limit
  size : h'.size + 1 = h.size
  tokens : h'.tokens = (h.forget entry t).tokens

theorem forget_slots (h : HandleStore) (entry : HandleEntry) (t : Token) :
    (h.forget entry t).slots = h.slots ∧ (h.forget entry t).free = h.free ∧
      (h.forget entry t).live = h.live ∧ (h.forget entry t).limit = h.limit := by
  cases entry with
  | surface s => exact ⟨rfl, rfl, rfl, rfl⟩
  | object o => by_cases indexed : h.tokens.get? o.record = some t <;>
      simp [forget, HandleEntry.record?, indexed]

def vacated (h : HandleStore) (i : Nat) : HandleStore :=
  { h with
    slots := h.slots.modify i HandleSlot.vacate, free := i :: h.free, live := h.live - 1 }

theorem slots_vacated (h : HandleStore) (i j : Nat) :
    (h.vacated i).slots[j]? = if j = i then h.slots[j]?.map HandleSlot.vacate else h.slots[j]? := by
  rw [vacated, Array.getElem?_modify]
  by_cases same : j = i
  · simp [same]
  · simp [same, Ne.symm same]

/-- A filled slot is counted, so that giving it up takes one from a counter that is not zero. -/
theorem filled_vacated {h : HandleStore} {i : Nat} {s : HandleSlot} (found : h.slots[i]? = some s)
    (isFilled : s.entry.isSome) : (h.vacated i).filled + 1 = h.filled := by
  have counted := countP_modify (·.entry.isSome) HandleSlot.vacate found
  simpa [filled, vacated, isFilled, HandleSlot.vacate] using counted

theorem isTidy_vacated {h : HandleStore} (tidy : h.IsTidy) {i : Nat} {s : HandleSlot}
    (found : h.slots[i]? = some s) (isFilled : s.entry.isSome) : (h.vacated i).IsTidy := by
  -- A free slot is empty, so the slot that is vacated was not listed yet.
  have unlisted : i ∉ h.free := by
    rw [tidy.mem_free]
    rintro ⟨s', found', vacant⟩
    rw [found] at found'
    cases found'
    simp [vacant] at isFilled
  refine ⟨List.nodup_cons.2 ⟨unlisted, tidy.nodup⟩, fun j => ?_, ?_⟩
  · rw [slots_vacated, vacated, List.mem_cons]
    by_cases same : j = i
    · simp [same, found, HandleSlot.vacate]
    · simpa [same] using tidy.mem_free j
  · show h.live - 1 = (h.vacated i).filled
    rw [tidy.counted, ← filled_vacated found isFilled, Nat.add_sub_cancel]

/-- Giving up fails exactly for a token that is not live; else it vacates the token's slot and
    changes nothing else. -/
theorem release_cases {h : HandleStore} (tidy : h.IsTidy) (t : Token) :
    (h.get? t = none ∧ h.release t = (.error (.unresolvedHandle t), h)) ∨
      (∃ entry h', h.release t = (.ok entry, h') ∧ h.Frees t entry h' ∧ h'.IsTidy) := by
  cases live : h.get? t with
  | none => exact .inl ⟨rfl, by rw [release, resolve_eq, live]⟩
  | some entry =>
    obtain ⟨s, found, _, _, held⟩ := (get?_eq_some_iff h t entry).1 live
    have isFilled : s.entry.isSome := by rw [held]; rfl
    have tidy' := isTidy_vacated tidy found isFilled
    obtain ⟨slots, free, counter, limit⟩ := forget_slots (h.vacated t.slot.toNat) entry t
    refine .inr ⟨entry, (h.vacated t.slot.toNat).forget entry t, by rw [release, resolve_eq, live]; rfl,
      ⟨live, fun j => ?_, ?_, limit, ?_, ?_⟩, tidy'.of_same slots free counter⟩
    · rw [slots, slots_vacated]
    · rw [slots, vacated, Array.size_modify]
    · rw [size, counter, tidy'.counted, filled_vacated found isFilled, size, tidy.counted]
    · cases entry with
      | surface s => rfl
      | object o => by_cases indexed : h.tokens.get? o.record = some t <;>
          simp [forget, vacated, HandleEntry.record?, indexed]

/-- Afterwards the token is not live, and every other token refers to what it did. -/
theorem Frees.get?_after {h h' : HandleStore} {t : Token} {entry : HandleEntry}
    (freed : h.Frees t entry h') (t' : Token) :
    h'.get? t' = if t' = t then none else h.get? t' := by
  obtain ⟨s, found, generation, tag, filled⟩ := (get?_eq_some_iff h t entry).1 freed.live
  apply Option.ext
  intro other
  rw [get?_eq_some_iff, freed.slots]
  by_cases same : t'.slot.toNat = t.slot.toNat
  · have same_slot : t'.slot = t.slot := UInt32.toNat_inj.1 same
    simp only [same, found, ↓reduceIte, Option.map_some, Option.some.injEq, exists_eq_left',
      HandleSlot.vacate, reduceCtorEq, and_false, false_iff]
    by_cases equal : t' = t
    · simp [equal]
    · rw [if_neg equal, get?_eq_some_iff, same, found]
      rintro ⟨s', found', generation', tag', _⟩
      cases found'
      apply equal
      rw [Token.mk.injEq]
      exact ⟨generation'.symm.trans generation, same_slot, tag'.symm.trans tag⟩
  · have different : t' ≠ t := fun equal => same (by rw [equal])
    rw [if_neg same, if_neg different, get?_eq_some_iff]

theorem get?_release {h : HandleStore} (tidy : h.IsTidy) (t t' : Token) :
    (h.release t).2.get? t' = if t' = t then none else h.get? t' := by
  rcases release_cases tidy t with ⟨dead, refused⟩ | ⟨entry, h', served, freed, _⟩
  · rw [refused]
    by_cases same : t' = t
    · rw [if_pos same, same, dead]
    · rw [if_neg same]
  · rw [served, freed.get?_after]

/-! ## Giving everything up -/

theorem slots_releaseAll (h : HandleStore) (j : Nat) :
    h.releaseAll.2.slots[j]? =
      h.slots[j]?.map fun s => if s.entry.isSome then s.vacate else s := by
  simp [releaseAll]

theorem entry_releaseAll {h : HandleStore} {j : Nat} {s : HandleSlot}
    (found : h.releaseAll.2.slots[j]? = some s) : s.entry = none := by
  rw [slots_releaseAll] at found
  obtain ⟨s₀, _, rfl⟩ := Option.map_eq_some_iff.1 found
  cases filled : s₀.entry <;> simp [filled, HandleSlot.vacate]

theorem get?_releaseAll (h : HandleStore) (t : Token) : h.releaseAll.2.get? t = none := by
  cases found : h.releaseAll.2.get? t with
  | none => rfl
  | some entry =>
    obtain ⟨s, at_slot, _, _, filled⟩ := (get?_eq_some_iff _ t entry).1 found
    rw [entry_releaseAll at_slot] at filled
    cases filled

theorem size_releaseAll (h : HandleStore) : h.releaseAll.2.size = 0 := rfl

theorem filled_releaseAll (h : HandleStore) : h.releaseAll.2.filled = 0 := by
  apply Array.countP_eq_zero.2
  intro s member
  obtain ⟨j, found⟩ := Array.mem_iff_getElem?.1 member
  simp [entry_releaseAll found]

theorem isTidy_releaseAll (h : HandleStore) : h.releaseAll.2.IsTidy := by
  refine ⟨List.nodup_range, fun j => ?_, h.filled_releaseAll.symm⟩
  show j ∈ List.range h.slots.size ↔ _
  rw [List.mem_range]
  constructor
  · intro bound
    cases found : h.releaseAll.2.slots[j]? with
    | none => simp [slots_releaseAll, bound] at found
    | some s => exact ⟨s, rfl, entry_releaseAll found⟩
  · rintro ⟨s, found, _⟩
    rw [slots_releaseAll] at found
    obtain ⟨_, found, _⟩ := Option.map_eq_some_iff.1 found
    exact (Array.getElem?_eq_some_iff.1 found).1

end HandleStore

end ScriptHost
