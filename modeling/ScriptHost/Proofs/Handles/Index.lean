import ScriptHost.Proofs.Handles.Ledger
/-!
# Which objects the index finds

A store keeps an index from records to tokens, which is to say whether an object has a token already.
The index has one place for a record, but the same object can be issued any number of tokens.  Each new
one takes the place of the one before, and the place is cleared when the token in it is given up, not
when an older one is.

So what is found for an object is the token that was issued for it last, if that one is still live
(`token_found_iff`).  An object whose last token was given up before another one is live and not found.
-/

namespace ScriptHost

/-- The token that was issued last for an object with the record. -/
def HandleHistory.lastIssued? (record : Nat) : HandleHistory → Option Token
  | [] => none
  | (.alloc (.object o) _, .issued t) :: past =>
    if o.record = record then some t else HandleHistory.lastIssued? record past
  | _ :: past => HandleHistory.lastIssued? record past

namespace HandleStore

variable {h h' : HandleStore} {past : HandleHistory} {entry : HandleEntry} {t : Token}

/-- The token is live and resolves to the object, or to another reference to it. -/
def RefersTo (h : HandleStore) (t : Token) (o : HostObject) : Prop :=
  ∃ live, h.resolve t = .ok (.object live) ∧ live.record = o.record

/-! ## Records in slots -/

/-- The slot holds an object with the record. -/
def HoldsAt (h : HandleStore) (i record : Nat) : Prop :=
  (h.entryAt i).bind HandleEntry.record? = some record

theorem RefersTo.holdsAt {o : HostObject} (refers : h.RefersTo t o) :
    h.HoldsAt t.slot.toNat o.record := by
  obtain ⟨live, resolved, same⟩ := refers
  rw [HoldsAt, entryAt_of_get? ((resolve_eq_ok h t _).1 resolved)]
  exact congrArg some same

theorem Issues.holdsAt_iff {i : Nat} (issued : h.Issues entry i t h') {j record : Nat} :
    h'.HoldsAt j record ↔ if j = i then entry.record? = some record else h.HoldsAt j record := by
  rw [HoldsAt, HoldsAt, entryAt, issued.slots]
  split
  · rfl
  · rfl

theorem Frees.holdsAt_iff (freed : h.Frees t entry h') {j record : Nat} :
    h'.HoldsAt j record ↔ j ≠ t.slot.toNat ∧ h.HoldsAt j record := by
  rw [HoldsAt, HoldsAt, entryAt, entryAt, freed.slots]
  by_cases vacated : j = t.slot.toNat
  · rw [if_pos vacated]
    cases h.slots[j]? <;> simp [vacated, HandleSlot.vacate]
  · simp [vacated]

theorem not_holdsAt_releaseAll (j record : Nat) : ¬ h.releaseAll.2.HoldsAt j record := by
  rw [HoldsAt, entryAt]
  cases found : h.releaseAll.2.slots[j]? with
  | none => simp
  | some s => simp [entry_releaseAll found]

/-! ## The index along a run -/

theorem Frees.tokens_get? (freed : h.Frees t entry h') (record : Nat) :
    h'.tokens.get? record =
      if entry.record? = some record ∧ h.tokens.get? record = some t then none
      else h.tokens.get? record := by
  rw [freed.tokens, forget]
  cases recorded : entry.record? with
  | none => simp
  | some own =>
    by_cases listed : h.tokens.get? own = some t
    · by_cases same : own = record
      · subst same
        simp [listed]
      · simp [listed, same]
    · by_cases same : own = record
      · subst same
        simp [listed]
      · simp [listed, same]

/-- The index and the slots of a store after the exchanges of a run. -/
structure IndexesLast (past : HandleHistory) (h : HandleStore) : Prop where
  indexed : ∀ {record t}, h.tokens.get? record = some t → past.lastIssued? record = some t
  /-- A token is taken out of the index only when its slot is vacated, and after that the slot can only be
      filled with the object again under a token that is issued later. -/
  missed : ∀ {record t}, past.lastIssued? record = some t → h.tokens.get? record ≠ some t →
    ¬ h.HoldsAt t.slot.toNat record
  known : ∀ {record i}, h.HoldsAt i record → ∃ t, past.lastIssued? record = some t

namespace IndexesLast

theorem start (limit : Option Nat) : (empty limit).IndexesLast [] where
  indexed found := by cases found
  missed last := by cases last
  known held := by cases held

/-- Exchanges that issue no token for an object leave what was issued last. -/
theorem idle (indexes : h.IndexesLast past) {x : HandleExchange}
    (same : ∀ record, HandleHistory.lastIssued? record (x :: past) = past.lastIssued? record) :
    h.IndexesLast (x :: past) where
  indexed found := (same _).trans (indexes.indexed found)
  missed last := indexes.missed ((same _).symm.trans last)
  known held := by
    rw [same]
    exact indexes.known held

theorem allocObject (indexes : h.IndexesLast past) {o : HostObject} {i : Nat} {tag : UInt32}
    (issued : h.Issues (.object o) i t h') :
    h'.IndexesLast ((.alloc (.object o) tag, .issued t) :: past) where
  -- The object itself is found under the new token, and for the others nothing has changed.
  indexed {record t'} found := by
    rw [issued.tokens] at found
    simp only [HandleEntry.record?, NumberedDict.get?_insert] at found
    rw [HandleHistory.lastIssued?]
    split at found
    case isTrue same => rw [if_pos same, found]
    case isFalse other => rw [if_neg other, indexes.indexed found]
  missed {record t'} last unlisted := by
    rw [issued.tokens] at unlisted
    simp only [HandleEntry.record?, NumberedDict.get?_insert] at unlisted
    rw [HandleHistory.lastIssued?] at last
    split at last
    -- The object was put in the index just now, so it is not the one that is missed.
    case isTrue same => exact absurd last (by rwa [if_pos same] at unlisted)
    case isFalse other =>
      rw [if_neg other] at unlisted
      rw [issued.holdsAt_iff]
      split
      case isTrue => exact fun own => other (Option.some.inj own)
      case isFalse => exact indexes.missed last unlisted
  known {record j} held := by
    rw [HandleHistory.lastIssued?]
    split
    case isTrue => exact ⟨t, rfl⟩
    case isFalse other =>
      rw [issued.holdsAt_iff] at held
      split at held
      case isTrue => exact absurd (Option.some.inj held) other
      case isFalse => exact indexes.known held

theorem allocSurface (indexes : h.IndexesLast past) {s : Surface} {i : Nat} {tag : UInt32}
    (issued : h.Issues (.surface s) i t h') :
    h'.IndexesLast ((.alloc (.surface s) tag, .issued t) :: past) where
  indexed {record t'} found := by
    rw [issued.tokens] at found
    exact indexes.indexed found
  missed {record t'} last unlisted := by
    rw [issued.tokens] at unlisted
    rw [issued.holdsAt_iff]
    split
    case isTrue =>
      intro own
      cases own
    case isFalse => exact indexes.missed last unlisted
  known {record j} held := by
    rw [issued.holdsAt_iff] at held
    split at held
    case isTrue => cases held
    case isFalse => exact indexes.known held

theorem release (indexes : h.IndexesLast past) (freed : h.Frees t entry h') :
    h'.IndexesLast ((.release t, .entry entry) :: past) where
  indexed {record t'} found := by
    rw [freed.tokens_get?] at found
    split at found
    case isTrue => cases found
    case isFalse => exact indexes.indexed found
  missed {record t'} last unlisted held := by
    obtain ⟨elsewhere, held⟩ := freed.holdsAt_iff.1 held
    rw [freed.tokens_get?] at unlisted
    split at unlisted
    case isTrue given =>
      -- The token that left the index was the last one, and it is its slot that was vacated.
      have listed := indexes.indexed given.2
      cases listed.symm.trans last
      exact elsewhere rfl
    case isFalse => exact indexes.missed last unlisted held
  known held := indexes.known (freed.holdsAt_iff.1 held).2

/-- No object is left, so it does not matter what was issued. -/
theorem releaseAll : h.releaseAll.2.IndexesLast ((.releaseAll, .count h.releaseAll.1) :: past) where
  indexed found := by cases found
  missed _ _ := not_holdsAt_releaseAll _ _
  known held := absurd held (not_holdsAt_releaseAll _ _)

theorem serve (tidy : h.IsTidy) (indexes : h.IndexesLast past) (q : HandleRequest) :
    (h.serve q).2.IndexesLast ((q, (h.serve q).1) :: past) := by
  cases q with
  | alloc entry tag =>
    rcases alloc_cases tidy entry tag with ⟨n, _, _, refused⟩ | ⟨_, i, t, h', served, _, issued, _⟩
    · simp only [HandleStore.serve, refused]
      exact indexes.idle fun record => by cases entry <;> rfl
    · simp only [HandleStore.serve, served]
      cases entry with
      | object o => exact indexes.allocObject issued
      | surface s => exact indexes.allocSurface issued
  | resolve t => exact indexes.idle fun record => rfl
  | release t =>
    rcases release_cases tidy t with ⟨_, refused⟩ | ⟨entry, h', served, freed, _⟩
    · simp only [HandleStore.serve, refused]
      exact indexes.idle fun record => rfl
    · simp only [HandleStore.serve, served]
      exact indexes.release freed
  | releaseAll => exact .releaseAll

/-- The token that the index gives for an object is the last one that was issued for it. -/
theorem tokenOf?_eq_some_iff (indexes : h.IndexesLast past) {o : HostObject} :
    h.tokenOf? o = some t ↔ past.lastIssued? o.record = some t ∧ h.RefersTo t o := by
  have refersTo_iff : h.RefersTo t o ↔ ∃ live, h.get? t = some (.object live) ∧ live.record = o.record :=
    exists_congr fun live => and_congr_left fun _ => resolve_eq_ok h t _
  rw [HandleStore.tokenOf?_eq_some_iff, ← refersTo_iff]
  constructor
  · rintro ⟨listed, refers⟩
    exact ⟨indexes.indexed listed, refers⟩
  · rintro ⟨last, refers⟩
    refine ⟨Decidable.byContradiction fun unlisted => ?_, refers⟩
    exact indexes.missed last unlisted refers.holdsAt

end IndexesLast

theorem Run.indexesLast {limit : Option Nat} (run : Run limit past h) : h.IndexesLast past := by
  induction run with
  | start => exact .start limit
  | step q before ih => exact ih.serve before.isTidy q

/-- In every state of a store, however often objects were issued tokens, the token that is found for an
    object is the last one that was issued for it, as long as that one is live and resolves to the object,
    and otherwise none is found.  So an object is missed although a live token resolves to it exactly if
    the last one that was issued for it does not. -/
theorem token_found_iff {limit : Option Nat} {past : HandleHistory} {h : HandleStore}
    (run : Run limit past h) (o : HostObject) :
    (∀ t, h.tokenOf? o = some t ↔ past.lastIssued? o.record = some t ∧ h.RefersTo t o) ∧
      ((∃ t, h.RefersTo t o) → (h.tokenOf? o = none ↔
        ∃ last, past.lastIssued? o.record = some last ∧ ¬ h.RefersTo last o)) ∧
      ((∀ t, ¬ h.RefersTo t o) → h.tokenOf? o = none) := by
  have found_iff (t : Token) := run.indexesLast.tokenOf?_eq_some_iff (t := t) (o := o)
  refine ⟨found_iff, fun referred => ?_, fun unreferred => ?_⟩
  · obtain ⟨t, refers⟩ := referred
    obtain ⟨last, issued⟩ := run.indexesLast.known refers.holdsAt
    have missed_iff : h.tokenOf? o = none ↔ ¬ h.RefersTo last o := by
      rw [Option.eq_none_iff_forall_ne_some]
      simp [found_iff, issued]
    simp [missed_iff, issued]
  · rw [Option.eq_none_iff_forall_ne_some]
    exact fun t found => unreferred t ((found_iff t).1 found).2

/-- An object was issued two tokens, and the second one was given up.  The first one is live, and none is
    found. -/
theorem token_found_iff_of_two :
    let o : HostObject := ⟨0, .blank "Gauge" ⟨"Gauge", .plain⟩⟩
    let past : HandleHistory :=
      [(.release ⟨1, 1, 1⟩, .entry (.object o)), (.alloc (.object o) 1, .issued ⟨1, 1, 1⟩),
        (.alloc (.object o) 1, .issued ⟨1, 0, 1⟩)]
    ∃ h, Run none past h ∧ h.RefersTo ⟨1, 0, 1⟩ o ∧ h.tokenOf? o = none := by
  intro o past
  -- The index has room for one token of the object: the newer one takes the place of the older.
  let index (t : Token) : NumberedDict Nat Token := ⟨#[⟨[(0, t)]⟩]⟩
  let once : HandleStore := ⟨#[⟨1, 1, some (.object o)⟩], [], 1, none, index ⟨1, 0, 1⟩⟩
  let twice : HandleStore :=
    ⟨#[⟨1, 1, some (.object o)⟩, ⟨1, 1, some (.object o)⟩], [], 2, none, index ⟨1, 1, 1⟩⟩
  let older : HandleStore := ⟨#[⟨1, 1, some (.object o)⟩, ⟨2, 1, none⟩], [1], 1, none, ⟨#[.empty]⟩⟩
  have first : (empty none).serve (.alloc (.object o) 1) = (.issued ⟨1, 0, 1⟩, once) := rfl
  have second : once.serve (.alloc (.object o) 1) = (.issued ⟨1, 1, 1⟩, twice) := rfl
  have released : twice.serve (.release ⟨1, 1, 1⟩) = (.entry (.object o), older) := rfl
  have run : Run none past older := by
    have run₁ := Run.step (.alloc (.object o) 1) (Run.start : Run none [] _)
    rw [first] at run₁
    have run₂ := Run.step (.alloc (.object o) 1) run₁
    rw [second] at run₂
    have run₃ := Run.step (.release ⟨1, 1, 1⟩) run₂
    rwa [released] at run₃
  have refers : older.RefersTo ⟨1, 0, 1⟩ o := ⟨o, rfl, rfl⟩
  refine ⟨older, run, refers, ((token_found_iff run o).2.1 ⟨_, refers⟩).2 ⟨⟨1, 1, 1⟩, rfl, ?_⟩⟩
  rintro ⟨live, resolved, -⟩
  cases resolved

end HandleStore

end ScriptHost
