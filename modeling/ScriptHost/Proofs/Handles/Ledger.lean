import ScriptHost.Proofs.Handles.Store
/-!
# Handle stores refine a ledger of tokens

A `Ledger` is what an outsider can write down about a store who sees only requests and replies: which
tokens were issued, and which of them are live and for what.  `Ledger.Expects` says what the ledger
demands of the next reply.  `HandleStore.Run` is any sequence of requests to a new store.

`run_refines_ledger` is the result: along every run the replies are those the ledger demands, no
identity is ever issued twice, and a refused request changes nothing.  The non-trivial ingredient is
`Tracks`, which ties slots, generations, free list and count to the ledger; that an identity does not
come back rests on the generation of a slot, which counts how often the slot was vacated.
-/

namespace ScriptHost

/-! ## Requests and replies -/

/-- What can be asked of a store of handles.  The tokens presented are arbitrary. -/
inductive HandleRequest where
  | alloc (entry : HandleEntry) (tag : UInt32)
  | resolve (t : Token)
  | release (t : Token)
  | releaseAll

inductive HandleReply where
  | issued (t : Token)
  | entry (e : HandleEntry)
  | count (n : Nat)
  | refused (e : BridgeError)

namespace HandleReply

def ofToken : Except BridgeError Token → HandleReply
  | .ok t => issued t
  | .error e => refused e

def ofEntry : Except BridgeError HandleEntry → HandleReply
  | .ok e => entry e
  | .error e => refused e

end HandleReply

abbrev HandleExchange := HandleRequest × HandleReply

/-- The exchanges of a run, the latest first. -/
abbrev HandleHistory := List HandleExchange

namespace HandleStore

def serve (h : HandleStore) : HandleRequest → HandleReply × HandleStore
  | .alloc entry tag => (.ofToken (h.alloc entry tag).1, (h.alloc entry tag).2)
  | .resolve t => (.ofEntry (h.resolve t), h)
  | .release t => (.ofEntry (h.release t).1, (h.release t).2)
  | .releaseAll => (.count h.releaseAll.1, h.releaseAll.2)

/-- The runs of a new store: the exchanges so far, and the store after them. -/
inductive Run (limit : Option Nat) : HandleHistory → HandleStore → Prop where
  | start : Run limit [] (empty limit)
  | step {past : HandleHistory} {h : HandleStore} (q : HandleRequest) :
      Run limit past h → Run limit ((q, (h.serve q).1) :: past) (h.serve q).2

end HandleStore

/-! ## The ledger -/

structure Ledger where
  issued : List Token
  live : Dict Token HandleEntry

namespace Ledger

def note (l : Ledger) : HandleExchange → Ledger
  | (.alloc entry _, .issued t) => ⟨t :: l.issued, l.live.insert t entry⟩
  | (.release t, .entry _) => { l with live := l.live.erase t }
  | (.releaseAll, _) => { l with live := .empty }
  | _ => l

def of : HandleHistory → Ledger
  | [] => ⟨[], .empty⟩
  | x :: past => (of past).note x

/-- The reply to a token that is looked up or given up. -/
def lookUp (l : Ledger) (t : Token) : HandleReply :=
  match l.live.get? t with
  | some entry => .entry entry
  | none => .refused (.unresolvedHandle t)

/-- The replies to a request that agree with the ledger.  A request for a token is refused exactly at
    the limit, and otherwise answered by a token whose identity was never issued before. -/
def Expects (limit : Option Nat) (l : Ledger) : HandleRequest → HandleReply → Prop
  | .alloc _ tag, reply =>
    (∃ n, limit = some n ∧ n ≤ l.live.size ∧ reply = .refused (.handleLimit n)) ∨
      ((∀ n, limit = some n → l.live.size < n) ∧
        ∃ t, reply = .issued t ∧ t.tag = tag ∧ ∀ old ∈ l.issued, t.id ≠ old.id)
  | .resolve t, reply => reply = l.lookUp t
  | .release t, reply => reply = l.lookUp t
  | .releaseAll, reply => reply = .count l.live.size

end Ledger

/-- The exchange ends the life of a token. -/
def HandleExchange.Ends (t : Token) : HandleExchange → Prop
  | (.release t', .entry _) => t' = t
  | (.releaseAll, _) => True
  | _ => False

namespace HandleHistory

/-- The token was issued for the entry, and its life has not ended since. -/
def Outstanding (past : HandleHistory) (t : Token) (entry : HandleEntry) : Prop :=
  ∃ since tag earlier, past = since ++ (.alloc entry tag, .issued t) :: earlier ∧
    ∀ x ∈ since, ¬ HandleExchange.Ends t x

/-- How often a slot was vacated. -/
def vacations (i : Nat) : HandleHistory → Nat
  | [] => 0
  | (.release t, .entry _) :: past => vacations i past + if t.slot.toNat = i then 1 else 0
  | (.releaseAll, _) :: past =>
    vacations i past + if ∃ t ∈ (Ledger.of past).live.keys, t.slot.toNat = i then 1 else 0
  | _ :: past => vacations i past

/-- The number of generations of a slot.  Zero is none. -/
def generationCapacity : Nat := 4294967295

/-- A run that stays within what a token can express: its slots can be numbered, and no slot is
    vacated so often that its generations start again. -/
structure Fits (past : HandleHistory) (h : HandleStore) : Prop where
  slots : h.slots.size < HandleStore.slotCapacity
  generations : ∀ i, vacations i past < generationCapacity

theorem outstanding_cons (x : HandleExchange) (past : HandleHistory) (t : Token)
    (entry : HandleEntry) :
    Outstanding (x :: past) t entry ↔
      (∃ tag, x = (.alloc entry tag, .issued t)) ∨
        (¬ HandleExchange.Ends t x ∧ Outstanding past t entry) := by
  constructor
  · rintro ⟨since, tag, earlier, split, alive⟩
    cases since with
    | nil => exact .inl ⟨tag, (List.cons.inj split).1⟩
    | cons y since =>
      rw [List.cons_append, List.cons.injEq] at split
      obtain ⟨rfl, split⟩ := split
      exact .inr ⟨alive x (by simp), since, tag, earlier, split,
        fun y member => alive y (by simp [member])⟩
  · rintro (⟨tag, rfl⟩ | ⟨survives, since, tag, earlier, rfl, alive⟩)
    · exact ⟨[], tag, past, rfl, by simp⟩
    · refine ⟨x :: since, tag, earlier, rfl, fun y member => ?_⟩
      cases List.mem_cons.1 member with
      | inl same => rw [same]; exact survives
      | inr later => exact alive y later

theorem vacations_le_cons (i : Nat) (x : HandleExchange) (past : HandleHistory) :
    vacations i past ≤ vacations i (x :: past) := by
  obtain ⟨q, reply⟩ := x
  cases q <;> cases reply <;> simp [vacations]

end HandleHistory

/-! ## The invariant -/

namespace HandleStore

open HandleHistory (Outstanding vacations Fits)

/-- How a store and the history of its run belong together. -/
structure Tracks (limit : Option Nat) (past : HandleHistory) (h : HandleStore) : Prop where
  tidy : h.IsTidy
  limit_eq : h.limit = limit
  bounded : ∀ n, limit = some n → h.size ≤ n
  live : ∀ t, (Ledger.of past).live.get? t = h.get? t
  unique : (Ledger.of past).live.IsUnique
  size : (Ledger.of past).live.size = h.size
  outstanding : ∀ t entry, h.get? t = some entry ↔ Outstanding past t entry
  /-- A generation counts how often its slot was vacated. -/
  generation : ∀ i s, h.slots[i]? = some s → s.generation.toNat = vacations i past + 1
  untouched : ∀ i, h.slots.size ≤ i → vacations i past = 0
  /-- The slot of an issued token has moved on, or is still filled. -/
  issued : ∀ t ∈ (Ledger.of past).issued, ∃ s, h.slots[t.slot.toNat]? = some s ∧
    (t.generation.toNat < s.generation.toNat ∨ t.generation = s.generation ∧ s.entry.isSome)

theorem tracks_start (limit : Option Nat) : Tracks limit [] (empty limit) where
  tidy := isTidy_empty limit
  limit_eq := rfl
  bounded _ _ := Nat.zero_le _
  live _ := rfl
  unique := Dict.isUnique_empty
  size := rfl
  outstanding t entry := by
    constructor
    · intro found
      obtain ⟨s, at_slot, _⟩ := (get?_eq_some_iff _ t entry).1 found
      simp [empty] at at_slot
    · rintro ⟨since, tag, earlier, split, _⟩
      simp at split
  generation i s found := by simp [empty] at found
  untouched _ _ := rfl
  issued t member := by simp [Ledger.of] at member

/-! ## One request -/

/-- The generation of a vacated slot is the next one, as long as there is one. -/
theorem generation_vacate {s : HandleSlot} (room : s.generation.toNat + 1 < 4294967296) :
    s.vacate.generation.toNat = s.generation.toNat + 1 := by
  have next : (s.generation + 1).toNat = s.generation.toNat + 1 := by
    rw [UInt32.toNat_add]
    exact Nat.mod_eq_of_lt room
  have nonzero : s.generation + 1 ≠ 0 := fun zero => by
    rw [zero] at next
    simp at next
  rw [HandleSlot.vacate, if_neg nonzero, next]

/-- An exchange that leaves the store as it was. -/
def IsIdle : HandleExchange → Prop
  | (.alloc .., .refused _) | (.resolve _, _) | (.release _, .refused _) => True
  | _ => False

namespace Tracks

variable {limit : Option Nat} {past : HandleHistory} {h : HandleStore}

theorem idle (tracks : Tracks limit past h) (x : HandleExchange) (isIdle : IsIdle x) :
    Tracks limit (x :: past) h := by
  have ledger : Ledger.of (x :: past) = Ledger.of past := by
    obtain ⟨q, reply⟩ := x
    cases q <;> cases reply <;> first | rfl | exact isIdle.elim
  have vacated (i : Nat) : vacations i (x :: past) = vacations i past := by
    obtain ⟨q, reply⟩ := x
    cases q <;> cases reply <;> first | rfl | exact isIdle.elim
  have outstanding (t : Token) (entry : HandleEntry) :
      Outstanding (x :: past) t entry ↔ Outstanding past t entry := by
    rw [HandleHistory.outstanding_cons]
    obtain ⟨q, reply⟩ := x
    cases q <;> cases reply <;> first | exact isIdle.elim | simp [HandleExchange.Ends]
  exact {
    tidy := tracks.tidy
    limit_eq := tracks.limit_eq
    bounded := tracks.bounded
    live := by rw [ledger]; exact tracks.live
    unique := by rw [ledger]; exact tracks.unique
    size := by rw [ledger]; exact tracks.size
    outstanding := fun t entry => by rw [outstanding]; exact tracks.outstanding t entry
    generation := fun i s found => by rw [vacated]; exact tracks.generation i s found
    untouched := fun i outside => by rw [vacated]; exact tracks.untouched i outside
    issued := by rw [ledger]; exact tracks.issued }

/-- The identity of a token that is about to be issued was never issued before: the slot of every
    earlier token has moved on or is filled, but this one is empty. -/
theorem issues_new (tracks : Tracks limit past h) {entry : HandleEntry} {i : Nat} {t : Token}
    {h' : HandleStore} (issued : h.Issues entry i t h') (bound : i < slotCapacity) :
    ∀ old ∈ (Ledger.of past).issued, t.id ≠ old.id := by
  intro old member same
  obtain ⟨s, found, moved⟩ := tracks.issued old member
  have old_bound := old.slot.toNat_lt
  have t_bound := t.slot.toNat_lt
  simp only [Token.id] at same
  have same_slot : old.slot.toNat = i := by
    rw [← issued.slot_toNat bound]
    omega
  have vacant := issued.vacant
  rw [entryAt, ← same_slot, found, Option.bind_some] at vacant
  have generation := issued.generation
  rw [generationAt, ← same_slot, found, Option.map_some, Option.getD_some] at generation
  -- In the same slot, the new token has the slot's generation, which the old one must fall short of.
  cases moved with
  | inl moved_on => rw [generation] at same; omega
  | inr filled => simp [vacant] at filled

theorem alloc (tracks : Tracks limit past h) {entry : HandleEntry} {i : Nat} {t : Token}
    {h' : HandleStore} (issued : h.Issues entry i t h') (tidy : h'.IsTidy)
    (room : ∀ n, limit = some n → h.size < n) (bound : i < slotCapacity) :
    Tracks limit ((.alloc entry t.tag, .issued t) :: past) h' := by
  have absent := issued.get?_before bound rfl
  have at_slot := issued.slot_toNat bound
  have ledger : Ledger.of ((.alloc entry t.tag, .issued t) :: past) =
      ⟨t :: (Ledger.of past).issued, (Ledger.of past).live.insert t entry⟩ := rfl
  have generation_old : t.generation.toNat = vacations i past + 1 := by
    rw [issued.generation, generationAt]
    -- A slot that is there stands at its vacations; a new one was never vacated.
    cases found : h.slots[i]? with
    | some s => simpa using tracks.generation i s found
    | none => simpa using tracks.untouched i (Array.getElem?_eq_none_iff.1 found)
  exact {
    tidy
    limit_eq := issued.limit.trans tracks.limit_eq
    bounded := fun n found => by rw [issued.size]; exact room n found
    live := fun t' => by
      rw [ledger, Dict.get?_insert, issued.get?_after bound, tracks.live]
      by_cases same : t = t'
      · simp [same]
      · simp [same, Ne.symm same]
    unique := by rw [ledger]; exact Dict.isUnique_insert tracks.unique t entry
    size := by
      rw [ledger, issued.size, ← tracks.size]
      exact Dict.size_insert_of_absent ((tracks.live t).trans absent) entry
    outstanding := fun t' entry' => by
      rw [issued.get?_after bound, HandleHistory.outstanding_cons, ← tracks.outstanding]
      by_cases same : t' = t
      · subst same
        simp [absent, eq_comm]
      · simp [same, Ne.symm same, HandleExchange.Ends]
    generation := fun j s found => by
      rw [issued.slots] at found
      show s.generation.toNat = vacations j past + 1
      by_cases same : j = i
      · rw [if_pos same, Option.some.injEq] at found
        rw [← found, same, generation_old]
      · rw [if_neg same] at found
        exact tracks.generation j s found
    untouched := fun j outside => tracks.untouched j (Nat.le_trans issued.size_slots.1 outside)
    issued := fun old member => by
      rw [ledger] at member
      rw [issued.slots]
      cases List.mem_cons.1 member with
      | inl new => exact ⟨_, by rw [new, at_slot, if_pos rfl], .inr ⟨by rw [new], rfl⟩⟩
      | inr earlier =>
        obtain ⟨s, found, moved⟩ := tracks.issued old earlier
        by_cases same : old.slot.toNat = i
        · -- The slot has been filled again, under the generation it had moved on to.
          refine ⟨_, by rw [if_pos same], .inl ?_⟩
          have vacant := issued.vacant
          rw [entryAt, ← same, found, Option.bind_some] at vacant
          have moved_on := moved.resolve_right fun filled => by simp [vacant] at filled
          have generation := tracks.generation _ s found
          rw [same] at generation
          show old.generation.toNat < t.generation.toNat
          omega
        · exact ⟨s, by rw [if_neg same, found], moved⟩ }

theorem release (tracks : Tracks limit past h) {t : Token} {entry : HandleEntry}
    {h' : HandleStore} (freed : h.Frees t entry h') (tidy : h'.IsTidy)
    (fits : ∀ i, vacations i ((.release t, .entry entry) :: past) < HandleHistory.generationCapacity) :
    Tracks limit ((.release t, .entry entry) :: past) h' := by
  obtain ⟨s₀, found₀, _, _, filled₀⟩ := (get?_eq_some_iff h t entry).1 freed.live
  have ledger : Ledger.of ((.release t, .entry entry) :: past) =
      { Ledger.of past with live := (Ledger.of past).live.erase t } := rfl
  have vacated (i : Nat) : vacations i ((.release t, .entry entry) :: past) =
      vacations i past + if t.slot.toNat = i then 1 else 0 := rfl
  -- The slot has not gone through all generations yet, so the next one is greater.
  have moves_on : s₀.vacate.generation.toNat = s₀.generation.toNat + 1 := by
    have room := fits t.slot.toNat
    rw [vacated, if_pos rfl] at room
    have counted := tracks.generation _ s₀ found₀
    apply generation_vacate
    simp only [HandleHistory.generationCapacity] at room
    omega
  exact {
    tidy
    limit_eq := freed.limit.trans tracks.limit_eq
    bounded := fun n found => by
      have := tracks.bounded n found
      have := freed.size
      omega
    live := fun t' => by
      rw [ledger, Dict.get?_erase, freed.get?_after, tracks.live]
      by_cases same : t = t'
      · simp [same]
      · simp [same, Ne.symm same]
    unique := by rw [ledger]; exact Dict.isUnique_erase tracks.unique t
    size := by
      have erased := Dict.size_erase_of_present tracks.unique ((tracks.live t).trans freed.live)
      have := tracks.size
      have := freed.size
      show ((Ledger.of past).live.erase t).size = h'.size
      omega
    outstanding := fun t' entry' => by
      rw [freed.get?_after, HandleHistory.outstanding_cons, ← tracks.outstanding]
      by_cases same : t' = t
      · simp [same, HandleExchange.Ends]
      · simp [same, Ne.symm same, HandleExchange.Ends]
    generation := fun j s found => by
      rw [freed.slots] at found
      rw [vacated]
      by_cases same : j = t.slot.toNat
      · rw [if_pos same, same, found₀, Option.map_some, Option.some.injEq] at found
        rw [← found, moves_on, same, if_pos rfl, tracks.generation _ s₀ found₀]
      · rw [if_neg same] at found
        rw [if_neg (Ne.symm same), tracks.generation j s found]
    untouched := fun j outside => by
      rw [freed.size_slots] at outside
      have bound := (Array.getElem?_eq_some_iff.1 found₀).1
      rw [vacated, if_neg (by omega), tracks.untouched j outside]
    issued := fun old member => by
      obtain ⟨s, found, moved⟩ := tracks.issued old member
      rw [freed.slots]
      by_cases same : old.slot.toNat = t.slot.toNat
      · -- The slot moves on past every token that was issued for it.
        refine ⟨s₀.vacate, by rw [if_pos same, same, found₀, Option.map_some], .inl ?_⟩
        rw [same, found₀] at found
        cases found
        rw [moves_on]
        cases moved with
        | inl moved_on => omega
        | inr current => rw [current.1]; omega
      · exact ⟨s, by rw [if_neg same, found], moved⟩ }

/-- A slot is filled exactly if a live token names it. -/
theorem filled_iff (tracks : Tracks limit past h) (fits : h.slots.size < slotCapacity) (i : Nat) :
    (∃ t ∈ (Ledger.of past).live.keys, t.slot.toNat = i) ↔ (h.entryAt i).isSome := by
  have live_iff (t : Token) : t ∈ (Ledger.of past).live.keys ↔ (h.get? t).isSome := by
    rw [← tracks.live]
    simp only [Dict.keys, Dict.toList, List.map_reverse, List.mem_reverse]
    exact Dict.mem_keys_iff t _
  constructor
  · rintro ⟨t, member, rfl⟩
    obtain ⟨entry, found⟩ := Option.isSome_iff_exists.1 ((live_iff t).1 member)
    obtain ⟨s, at_slot, _, _, filled⟩ := (get?_eq_some_iff h t entry).1 found
    simp [entryAt, at_slot, filled]
  · intro filled
    obtain ⟨entry, filled⟩ := Option.isSome_iff_exists.1 filled
    obtain ⟨s, found, filled⟩ := Option.bind_eq_some_iff.1 filled
    have named : (UInt32.ofNat i).toNat = i := by
      rw [UInt32.toNat_ofNat']
      have := (Array.getElem?_eq_some_iff.1 found).1
      simp only [slotCapacity] at fits
      omega
    -- The token with the generation and the tag that the slot has now is live.
    refine ⟨⟨s.generation, UInt32.ofNat i, s.tag⟩, (live_iff _).2 ?_, named⟩
    have resolved : h.get? ⟨s.generation, UInt32.ofNat i, s.tag⟩ = some entry :=
      (get?_eq_some_iff h _ entry).2 ⟨s, by rw [named, found], rfl, rfl, filled⟩
    simp [resolved]

theorem releaseAll (tracks : Tracks limit past h) (slots : h.slots.size < slotCapacity)
    (fits : ∀ i, vacations i ((.releaseAll, .count h.releaseAll.1) :: past) <
      HandleHistory.generationCapacity) :
    Tracks limit ((.releaseAll, .count h.releaseAll.1) :: past) h.releaseAll.2 := by
  have ledger : Ledger.of ((.releaseAll, .count h.releaseAll.1) :: past) =
      { Ledger.of past with live := .empty } := rfl
  have vacated (i : Nat) : vacations i ((.releaseAll, .count h.releaseAll.1) :: past) =
      vacations i past + if (h.entryAt i).isSome then 1 else 0 := by
    rw [vacations]
    simp only [tracks.filled_iff slots]
  have same_slots : h.releaseAll.2.slots.size = h.slots.size := Array.size_map
  -- A filled slot moves on to the generation that its vacations count; an empty one stays.
  have generation {i : Nat} {s : HandleSlot} (found : h.slots[i]? = some s) :
      (if s.entry.isSome then s.vacate else s).generation.toNat =
        vacations i ((.releaseAll, .count h.releaseAll.1) :: past) + 1 := by
    have counted := tracks.generation i s found
    have room := fits i
    have at_slot : h.entryAt i = s.entry := by rw [entryAt, found, Option.bind_some]
    rw [vacated, at_slot] at room ⊢
    by_cases filled : s.entry.isSome
    · simp only [filled, if_true, HandleHistory.generationCapacity] at room ⊢
      rw [generation_vacate (by omega), counted]
    · simp only [filled, Bool.false_eq_true, if_false]
      exact counted
  exact {
    tidy := isTidy_releaseAll h
    limit_eq := tracks.limit_eq
    bounded := fun n _ => by rw [size_releaseAll]; exact Nat.zero_le n
    live := fun t => by rw [ledger, get?_releaseAll]; rfl
    unique := Dict.isUnique_empty
    size := by rw [size_releaseAll]; rfl
    outstanding := fun t entry => by
      rw [get?_releaseAll, HandleHistory.outstanding_cons]
      simp [HandleExchange.Ends]
    generation := fun i s found => by
      rw [slots_releaseAll] at found
      obtain ⟨s₀, found₀, rfl⟩ := Option.map_eq_some_iff.1 found
      exact generation found₀
    untouched := fun i outside => by
      rw [same_slots] at outside
      rw [vacated, entryAt, Array.getElem?_eq_none outside, tracks.untouched i outside]
      rfl
    issued := fun old member => by
      obtain ⟨s, found, moved⟩ := tracks.issued old member
      -- Every filled slot moves on, so no token that was ever issued names a current generation.
      refine ⟨_, by rw [slots_releaseAll, found, Option.map_some], .inl ?_⟩
      have counted := tracks.generation _ s found
      have at_slot : h.entryAt old.slot.toNat = s.entry := by rw [entryAt, found, Option.bind_some]
      rw [generation found, vacated, at_slot]
      cases moved with
      | inl moved_on => omega
      | inr current => rw [current.1, if_pos current.2]; omega }

theorem serve (tracks : Tracks limit past h) (q : HandleRequest)
    (fits : Fits ((q, (h.serve q).1) :: past) (h.serve q).2) :
    Tracks limit ((q, (h.serve q).1) :: past) (h.serve q).2 := by
  cases q with
  | alloc entry tag =>
    rcases alloc_cases tracks.tidy entry tag with
      ⟨n, _, _, refused⟩ | ⟨notFull, i, t, h', served, rfl, issued, tidy⟩
    · simp only [HandleStore.serve, refused]
      exact tracks.idle _ trivial
    · simp only [HandleStore.serve, served] at fits ⊢
      refine tracks.alloc issued tidy (fun n found => Nat.lt_of_not_le fun reached => ?_)
        (Nat.lt_trans issued.size_slots.2 fits.slots)
      exact notFull ((isFull_iff h).2 ⟨n, tracks.limit_eq.trans found, reached⟩)
  | resolve t => exact tracks.idle _ trivial
  | release t =>
    rcases release_cases tracks.tidy t with ⟨_, refused⟩ | ⟨entry, h', served, freed, tidy⟩
    · simp only [HandleStore.serve, refused]
      exact tracks.idle _ trivial
    · simp only [HandleStore.serve, served] at fits ⊢
      exact tracks.release freed tidy fits.generations
  | releaseAll =>
    have slots : h.slots.size < slotCapacity := by
      simpa [HandleStore.serve, HandleStore.releaseAll] using fits.slots
    exact tracks.releaseAll slots fits.generations

theorem expects (tracks : Tracks limit past h) (q : HandleRequest)
    (slots : (h.serve q).2.slots.size < slotCapacity) :
    (Ledger.of past).Expects limit q (h.serve q).1 := by
  have look_up (t : Token) : .ofEntry (h.resolve t) = (Ledger.of past).lookUp t := by
    rw [Ledger.lookUp, tracks.live, resolve_eq]
    cases h.get? t <;> rfl
  cases q with
  -- The store counts the live tokens as the ledger does, so the two agree on whether the limit is reached.
  | alloc entry tag =>
    rcases alloc_cases tracks.tidy entry tag with
      ⟨n, found, reached, refused⟩ | ⟨notFull, i, t, h', served, same_tag, issued, _⟩
    · refine .inl ⟨n, tracks.limit_eq.symm.trans found, by rw [tracks.size]; exact reached, ?_⟩
      simp only [HandleStore.serve, refused]
      rfl
    · simp only [HandleStore.serve, served] at slots ⊢
      refine .inr ⟨fun n found => ?_, t, rfl, same_tag,
        tracks.issues_new issued (Nat.lt_trans issued.size_slots.2 slots)⟩
      rw [tracks.size]
      exact Nat.lt_of_not_le fun reached =>
        notFull ((isFull_iff h).2 ⟨n, tracks.limit_eq.trans found, reached⟩)
  | resolve t => exact look_up t
  | release t =>
    show .ofEntry (h.release t).1 = (Ledger.of past).lookUp t
    rw [← look_up, HandleStore.release]
    cases h.resolve t <;> rfl
  | releaseAll =>
    show HandleReply.count h.size = .count (Ledger.of past).live.size
    rw [tracks.size]

end Tracks

/-! ## Whole runs -/

theorem size_slots_serve {h : HandleStore} (tidy : h.IsTidy) (q : HandleRequest) :
    h.slots.size ≤ (h.serve q).2.slots.size := by
  cases q with
  | alloc entry tag =>
    rcases alloc_cases tidy entry tag with ⟨n, _, _, refused⟩ | ⟨_, i, t, h', served, _, issued, _⟩
    · simp only [serve, refused, Nat.le_refl]
    · simp only [serve, served]
      exact issued.size_slots.1
  | resolve t => exact Nat.le_refl _
  | release t =>
    rcases release_cases tidy t with ⟨_, refused⟩ | ⟨entry, h', served, freed, _⟩
    · simp only [serve, refused, Nat.le_refl]
    · simp only [serve, served, freed.size_slots, Nat.le_refl]
  | releaseAll => simp [serve, releaseAll]

theorem isTidy_serve {h : HandleStore} (tidy : h.IsTidy) (q : HandleRequest) :
    (h.serve q).2.IsTidy := by
  cases q with
  | alloc entry tag =>
    rcases alloc_cases tidy entry tag with ⟨n, _, _, refused⟩ | ⟨_, i, t, h', served, _, _, tidy'⟩
    · simpa only [serve, refused] using tidy
    · simpa only [serve, served] using tidy'
  | resolve t => exact tidy
  | release t =>
    rcases release_cases tidy t with ⟨_, refused⟩ | ⟨entry, h', served, _, tidy'⟩
    · simpa only [serve, refused] using tidy
    · simpa only [serve, served] using tidy'
  | releaseAll => exact isTidy_releaseAll h

theorem Run.isTidy {limit : Option Nat} {past : HandleHistory} {h : HandleStore}
    (run : Run limit past h) : h.IsTidy := by
  induction run with
  | start => exact isTidy_empty limit
  | step q _ ih => exact isTidy_serve ih q

theorem Run.tracks {limit : Option Nat} {past : HandleHistory} {h : HandleStore}
    (run : Run limit past h) (fits : Fits past h) : Tracks limit past h := by
  induction run with
  | start => exact tracks_start limit
  | @step past h q before ih =>
    -- Slots and vacations only grow in number, so a run that fits fitted before.
    have fits_before : Fits past h :=
      ⟨Nat.lt_of_le_of_lt (size_slots_serve before.isTidy q) fits.slots, fun i =>
        Nat.lt_of_le_of_lt (HandleHistory.vacations_le_cons i _ past) (fits.generations i)⟩
    exact (ih fits_before).serve q fits

/-- Along every run that stays within what a token can express, a store answers as the ledger of the
    run demands; a token resolves exactly while it is outstanding; the store's counter is the number of
    live tokens, and of filled slots, and never exceeds the limit; and a request that is refused changes
    nothing. -/
theorem run_refines_ledger {limit : Option Nat} {past : HandleHistory} {h : HandleStore}
    (run : Run limit past h) (q : HandleRequest)
    (fits : Fits ((q, (h.serve q).1) :: past) (h.serve q).2) :
    (Ledger.of past).Expects limit q (h.serve q).1 ∧
      (∀ e, (h.serve q).1 = .refused e → (h.serve q).2 = h) ∧
      (∀ t entry, h.resolve t = .ok entry ↔ Outstanding past t entry) ∧
      h.size = (Ledger.of past).live.size ∧ h.size = h.filled ∧ (∀ n, limit = some n → h.size ≤ n) := by
  have slots_before := size_slots_serve run.isTidy q
  have tracks := run.tracks ⟨Nat.lt_of_le_of_lt slots_before fits.slots, fun i =>
    Nat.lt_of_le_of_lt (HandleHistory.vacations_le_cons i _ past) (fits.generations i)⟩
  refine ⟨tracks.expects q fits.slots, fun e refused => ?_, fun t entry => ?_, tracks.size.symm,
    tracks.tidy.counted, tracks.bounded⟩
  · cases q with
    | alloc entry tag =>
      rcases alloc_cases tracks.tidy entry tag with ⟨n, _, _, served⟩ | ⟨_, i, t, h', served, _⟩
      · simp only [serve, served]
      · simp [serve, served, HandleReply.ofToken] at refused
    | resolve t => rfl
    | release t =>
      rcases release_cases tracks.tidy t with ⟨_, served⟩ | ⟨entry, h', served, _⟩
      · simp only [serve, served]
      · simp [serve, served, HandleReply.ofEntry] at refused
    | releaseAll => cases refused
  · rw [← tracks.outstanding, resolve_eq]
    cases h.get? t <;> simp

/-- A slot that is used again after a refusal at the limit and a release: its new token differs from
    the one given up, which stays dead. -/
theorem run_refines_ledger_slot_again :
    let entry : HandleEntry := .surface (.build 0 (.blank "Point" ⟨"Point", .plain⟩))
    let past : HandleHistory :=
      [(.release ⟨1, 0, 7⟩, .entry entry), (.alloc entry 7, .refused (.handleLimit 1)),
        (.alloc entry 7, .issued ⟨1, 0, 7⟩)]
    ∃ h, Run (some 1) past h ∧ (h.serve (.alloc entry 7)).1 = .issued ⟨2, 0, 7⟩ ∧
      Fits ((.alloc entry 7, (h.serve (.alloc entry 7)).1) :: past) (h.serve (.alloc entry 7)).2 ∧
      (Ledger.of past).Expects (some 1) (.alloc entry 7) (h.serve (.alloc entry 7)).1 ∧
      ∀ e, h.resolve ⟨1, 0, 7⟩ = .ok e ↔ Outstanding past ⟨1, 0, 7⟩ e := by
  intro entry past
  -- One slot: filled, left for the next generation, and filled again.
  let filled : HandleStore := ⟨#[⟨1, 7, some entry⟩], [], 1, some 1, .empty⟩
  let vacated : HandleStore := ⟨#[⟨2, 7, none⟩], [0], 0, some 1, .empty⟩
  let again : HandleStore := ⟨#[⟨2, 7, some entry⟩], [], 1, some 1, .empty⟩
  have first : (empty (some 1)).serve (.alloc entry 7) = (.issued ⟨1, 0, 7⟩, filled) := rfl
  have refused : filled.serve (.alloc entry 7) = (.refused (.handleLimit 1), filled) := rfl
  have released : filled.serve (.release ⟨1, 0, 7⟩) = (.entry entry, vacated) := rfl
  have issued : vacated.serve (.alloc entry 7) = (.issued ⟨2, 0, 7⟩, again) := rfl
  have run : Run (some 1) past vacated := by
    have run₁ := Run.step (.alloc entry 7) (Run.start : Run (some 1) [] _)
    rw [first] at run₁
    have run₂ := Run.step (.alloc entry 7) run₁
    rw [refused] at run₂
    have run₃ := Run.step (.release ⟨1, 0, 7⟩) run₂
    rwa [released] at run₃
  have fits : Fits ((.alloc entry 7, (vacated.serve (.alloc entry 7)).1) :: past)
      (vacated.serve (.alloc entry 7)).2 := by
    rw [issued]
    refine ⟨by decide, fun i => ?_⟩
    simp only [past, vacations, HandleHistory.generationCapacity]
    split <;> omega
  have refines := run_refines_ledger run (.alloc entry 7) fits
  exact ⟨vacated, run, by rw [issued], fits, refines.1, refines.2.2.1 ⟨1, 0, 7⟩⟩

end HandleStore

end ScriptHost
