import ScriptHost.Proofs.Handles.Ledger
import ScriptHost.Proofs.Session.Crossing
/-!
# What a session remembers of a thing

A token that was issued for a thing refers to it until it is given up, and after that to nothing: the
slot has moved on to a later generation.  So whoever keeps a token, as a surface does from one push to
the next, gets back the thing or learns that it is gone (`HandleStore.Keeps`).  While the token is live
its proxy stays where it is pinned, so that it is one table however much happens in between
(`World.Holds`).

A generation is a number of 32 bits.  It moves on only when a surface is replaced, so the number of
surfaces that were made bounds it.
-/

namespace ScriptHost

open World Machine

/-! ## Generations -/

namespace HandleStore

variable {h h' : HandleStore} {n i : Nat} {t t' : Token} {entry entry' : HandleEntry}

/-- No slot was vacated more often than so many times. -/
def IsYoung (h : HandleStore) (n : Nat) : Prop :=
  ∀ {i : Nat} {s : HandleSlot}, h.slots[i]? = some s → s.generation.toNat ≤ n + 1

/-- The slot that the token names has moved on since. -/
def IsPast (h : HandleStore) (t : Token) : Prop :=
  ∃ s, h.slots[t.slot.toNat]? = some s ∧ t.generation.toNat < s.generation.toNat

/-- The token refers to the entry, or never again to anything. -/
def Keeps (h : HandleStore) (t : Token) (entry : HandleEntry) : Prop :=
  h.get? t = some entry ∨ h.IsPast t

theorem IsPast.get?_eq_none (past : h.IsPast t) : h.get? t = none := by
  obtain ⟨s, found, moved⟩ := past
  have different : s.generation ≠ t.generation := fun same => by
    rw [same] at moved
    exact Nat.lt_irrefl _ moved
  simp [get?, found, different]

theorem Keeps.eq_of_live (keeps : h.Keeps t entry) (live : h.get? t = some entry') : entry' = entry := by
  rcases keeps with same | past
  · exact Option.some.inj (live.symm.trans same)
  · rw [past.get?_eq_none] at live
    cases live

/-- In the second store, the tokens of the first one mean what they meant, or nothing any more. -/
structure Precedes (h h' : HandleStore) : Prop where
  keeps : ∀ {t entry}, h.get? t = some entry → h'.Keeps t entry
  past : ∀ {t}, h.IsPast t → h'.IsPast t

theorem Keeps.of_precedes (precedes : h.Precedes h') (keeps : h.Keeps t entry) : h'.Keeps t entry :=
  keeps.elim precedes.keeps fun past => .inr (precedes.past past)

theorem Precedes.refl (h : HandleStore) : h.Precedes h := ⟨.inl, id⟩

theorem Precedes.trans {h₁ : HandleStore} (first : h.Precedes h₁) (second : h₁.Precedes h') :
    h.Precedes h' :=
  ⟨fun live => (first.keeps live).of_precedes second, fun past => second.past (first.past past)⟩

theorem isYoung_empty (limit : Option Nat) : (empty limit).IsYoung 0 := fun {i s} found => by
  simp [empty] at found

namespace Issues

variable (issued : h.Issues entry i t h')

include issued

theorem isYoung (young : h.IsYoung n) : h'.IsYoung n := fun {j s} found => by
  rw [issued.slots] at found
  by_cases same : j = i
  · rw [if_pos same, Option.some.injEq] at found
    rw [← found, issued.generation, generationAt]
    cases listed : h.slots[i]? with
    | none => simp
    | some s₀ =>
      have age := young listed
      exact age
  · rw [if_neg same] at found
    exact young found

theorem isPast (past : h.IsPast t') : h'.IsPast t' := by
  obtain ⟨s, found, moved⟩ := past
  rw [IsPast, issued.slots]
  by_cases same : t'.slot.toNat = i
  · rw [if_pos same]
    rw [same] at found
    refine ⟨_, rfl, ?_⟩
    rw [issued.generation, generationAt, found]
    exact moved
  · rw [if_neg same]
    exact ⟨s, found, moved⟩

theorem precedes (bound : i < slotCapacity) : h.Precedes h' := by
  refine ⟨fun {t' entry'} live => .inl ?_, issued.isPast⟩
  have other : t' ≠ t := fun same => by
    rw [same, issued.get?_before bound rfl] at live
    cases live
  rw [issued.get?_after bound, if_neg other, live]

end Issues

namespace Frees

variable (freed : h.Frees t entry h') (young : h.IsYoung n)
  (room : n + 1 < HandleHistory.generationCapacity)

include freed young room

theorem moved {s : HandleSlot} (found : h.slots[t.slot.toNat]? = some s) :
    h'.slots[t.slot.toNat]? = some s.vacate ∧ s.vacate.generation.toNat = s.generation.toNat + 1 := by
  have age := young found
  rw [HandleHistory.generationCapacity] at room
  exact ⟨by rw [freed.slots, if_pos rfl, found]; rfl, generation_vacate (by omega)⟩

theorem isYoung : h'.IsYoung (n + 1) := fun {j s} found => by
  by_cases same : j = t.slot.toNat
  · subst same
    obtain ⟨s₀, found₀, _⟩ := (get?_eq_some_iff h t entry).1 freed.live
    obtain ⟨vacated, generation⟩ := freed.moved young room found₀
    rw [vacated, Option.some.injEq] at found
    have age := young found₀
    rw [← found, generation]
    omega
  · rw [freed.slots, if_neg same] at found
    exact Nat.le_succ_of_le (young found)

theorem isPast (past : h.IsPast t') : h'.IsPast t' := by
  obtain ⟨s, found, moved⟩ := past
  rw [IsPast]
  by_cases same : t'.slot.toNat = t.slot.toNat
  · rw [same] at found ⊢
    obtain ⟨vacated, generation⟩ := freed.moved young room found
    exact ⟨_, vacated, by omega⟩
  · rw [freed.slots, if_neg same]
    exact ⟨s, found, moved⟩

theorem isPast_freed : h'.IsPast t := by
  obtain ⟨s, found, same, _⟩ := (get?_eq_some_iff h t entry).1 freed.live
  obtain ⟨vacated, generation⟩ := freed.moved young room found
  refine ⟨_, vacated, ?_⟩
  rw [generation, same]
  exact Nat.lt_succ_self _

theorem precedes : h.Precedes h' := by
  refine ⟨fun {t' entry'} live => ?_, freed.isPast young room⟩
  by_cases same : t' = t
  · rw [same]
    exact .inr (freed.isPast_freed young room)
  · left
    rw [freed.get?_after, if_neg same, live]

end Frees

end HandleStore

/-! ## Recollections -/

namespace World

variable {w w₁ w' : World} {n m : Nat} {s : Surface}

/-- Whenever the surface was published under a token, it was as itself. -/
def Recalls (w : World) (s : Surface) : Prop :=
  ∀ t, w.host.publishedToken s = some t →
    ∃ entry : HandleEntry, entry.IsSurface s ∧ w.session.handles.Keeps t entry

theorem Recalls.of_precedes (recalls : w.Recalls s)
    (precedes : w.session.handles.Precedes w'.session.handles)
    (same : w'.host.publishedToken s = w.host.publishedToken s) : w'.Recalls s := by
  intro t published
  obtain ⟨entry, isSurface, keeps⟩ := recalls t (same ▸ published)
  exact ⟨entry, isSurface, keeps.of_precedes precedes⟩

/-- The tokens of the first world mean in the second one what they meant, or nothing any more, and what is
    recalled in the first one is still recalled.  No slot has been vacated more than so many times. -/
structure Recollects (w : World) (n : Nat) (w' : World) : Prop where
  young : w'.session.handles.IsYoung n
  precedes : w.session.handles.Precedes w'.session.handles
  recalls : ∀ {s}, w.Recalls s → w'.Recalls s

namespace Recollects

theorem refl (young : w.session.handles.IsYoung n) : w.Recollects n w :=
  ⟨young, .refl _, id⟩

theorem trans (first : w.Recollects n w₁) (second : w₁.Recollects m w') : w.Recollects m w' :=
  ⟨second.young, first.precedes.trans second.precedes, fun before => second.recalls (first.recalls before)⟩

variable (young : w.session.handles.IsYoung n)

include young

theorem of_same (handles : w'.session.handles = w.session.handles)
    (published : ∀ s, w'.host.publishedToken s = w.host.publishedToken s) : w.Recollects n w' := by
  have precedes : w.session.handles.Precedes w'.session.handles := handles ▸ .refl _
  exact ⟨handles ▸ young, precedes, fun recalls => recalls.of_precedes precedes (published _)⟩

/-- A handle is issued, and recorded. -/
theorem issue {entry : HandleEntry} {i : Nat} {t : Token}
    (issued : w.session.handles.Issues entry i t w'.session.handles) (bound : i < HandleStore.slotCapacity)
    (recorded : ∀ s, w'.host.publishedToken s = (w.host.recordToken t entry).publishedToken s) :
    w.Recollects n w' := by
  have precedes := issued.precedes bound
  refine ⟨issued.isYoung young, precedes, fun {s} recalls => ?_⟩
  cases entry with
  | object o => exact recalls.of_precedes precedes (recorded s)
  | surface s₀ =>
    have published := recorded s
    rw [HostStore.recordToken, HostStore.publishedToken_setPublishedToken] at published
    by_cases same : s₀.number = s.number
    · rw [if_pos same] at published
      intro t' published'
      rw [published, Option.some.injEq] at published'
      refine ⟨.surface s₀, ⟨s₀, rfl, same⟩, .inl ?_⟩
      rw [issued.get?_after bound, if_pos published'.symm]
    · rw [if_neg same] at published
      exact recalls.of_precedes precedes published

theorem release {entry : HandleEntry} {t : Token}
    (freed : w.session.handles.Frees t entry w'.session.handles)
    (room : n + 1 < HandleHistory.generationCapacity)
    (published : ∀ s, w'.host.publishedToken s = w.host.publishedToken s) : w.Recollects (n + 1) w' := by
  have precedes := freed.precedes young room
  exact ⟨freed.isYoung young room, precedes, fun recalls => recalls.of_precedes precedes (published _)⟩

end Recollects

end World

/-! ## Shifts -/

namespace World

variable {own : Prop} {w w' : World} {k n : Nat}

/-- A shift ages the slots by as many generations as it gives up handles. -/
theorem Shift.recollects (shift : Shift own w k w') (young : w.session.handles.IsYoung n)
    (room : n + k < HandleHistory.generationCapacity) : w.Recollects (n + k) w' := by
  cases shift with
  | agrees agrees => exact .of_same young agrees.handles agrees.published
  | issue _ issued bound _ _ _ _ => exact .issue young issued bound fun _ => rfl
  | releaseToken freed _ _ _ _ => exact .release young freed room fun _ => rfl
  | _ => exact .of_same young rfl fun _ => rfl

/-- No other holder has the reference of a proxy. -/
theorem IsBacked.proxy_ne (backed : w.IsBacked) {t : Token} {q r : Nat} {x : Holder}
    (pinned : w.session.proxies.get? t = some q) (held : w.heldBy x = some r) (other : x ≠ .proxy t) :
    q ≠ r := fun same =>
  other (backed.backs.distinct held (same ▸ pinned))

/-- While a token is live, its proxy stays pinned. -/
theorem Shift.hasProxy (shift : Shift own w k w') (backed : w.IsBacked) {t : Token} {a : Nat}
    (hasProxy : w.HasProxy t a) (live : w'.session.handles.get? t ≠ none) : w'.HasProxy t a := by
  obtain ⟨q, pinned, kept⟩ := hasProxy
  cases shift with
  | agrees agrees =>
    exact ⟨q, by rw [agrees.proxies, pinned], (referenced?_of_eq agrees.registry q).trans kept⟩
  | pin _ pins _ => exact ⟨q, pinned, pins.kept kept⟩
  | unpin _ unheld unpins _ =>
    exact ⟨q, pinned, unpins.kept (fun same => unheld (.proxy t) (same ▸ pinned)) kept⟩
  | pinFunction pins _ _ => exact ⟨q, pinned, pins.kept kept⟩
  | @disposeFunction _ _ number held unpins _ =>
    exact ⟨q, pinned, unpins.kept (backed.proxy_ne (x := .function number) pinned held (by simp)) kept⟩
  | loadChunk _ pins _ => exact ⟨q, pinned, pins.kept kept⟩
  | replaceChunk held pins unpins _ _ =>
    have other := backed.proxy_ne (x := .chunk) pinned held (by simp)
    exact ⟨q, pinned, unpins.kept other (pins.kept kept)⟩
  | takeChunk held unpins _ =>
    exact ⟨q, pinned, unpins.kept (backed.proxy_ne (x := .chunk) pinned held (by simp)) kept⟩
  | @issue _ _ r t₀ _ _ _ _ issued bound _ added pins _ =>
    -- The token is not the new one, which had no proxy before.
    have different : t₀ ≠ t := fun same => by
      have unissued := backed.proxied t₀
      rw [issued.get?_before bound rfl, same, pinned] at unissued
      cases unissued
    refine ⟨q, ?_, pins.kept ((referenced?_of_eq added.registry q).trans kept)⟩
    rw [NumberedDict.get?_insert, if_neg different, pinned]
  | @releaseToken _ r t₀ _ _ freed _ held unpins _ =>
    have different : t ≠ t₀ := fun same => by
      rw [freed.get?_after, if_pos same] at live
      exact live rfl
    have other := backed.proxy_ne (x := .proxy t₀) pinned held fun same =>
      different (Holder.proxy.inj same).symm
    refine ⟨q, ?_, unpins.kept other kept⟩
    rw [NumberedDict.get?_erase, if_neg (Ne.symm different), pinned]

/-! ## Runs -/

/-- The token refers to the thing, and the table is its proxy; or it never again refers to anything. -/
def Holds (w : World) (t : Token) (entry : HandleEntry) (a : Nat) : Prop :=
  (w.session.handles.get? t = some entry ∧ w.HasProxy t a) ∨ w.session.handles.IsPast t

theorem Shift.holds (shift : Shift own w k w') (backed : w.IsBacked)
    (precedes : w.session.handles.Precedes w'.session.handles) {t : Token} {entry : HandleEntry}
    {a : Nat} (holds : w.Holds t entry a) : w'.Holds t entry a := by
  rcases holds with ⟨live, hasProxy⟩ | past
  · refine (precedes.keeps live).imp_left fun still => ⟨still, ?_⟩
    exact shift.hasProxy backed hasProxy (by simp [still])
  · exact .inr (precedes.past past)

/-- A number of shifts age the slots by as many generations as they give up handles. -/
theorem Shifts.recollects {m : Nat} (shifts : Shifts own w m w') (young : w.session.handles.IsYoung n)
    (room : n + m < HandleHistory.generationCapacity) : w.Recollects (n + m) w' := by
  induction shifts with
  | refl => exact .refl young
  | tail shifts shift ih =>
    have before := ih (by omega)
    have after := shift.recollects before.young (by omega)
    rw [Nat.add_assoc] at after
    exact before.trans after

theorem Shifts.holds {m : Nat} (shifts : Shifts own w m w') (backed : w.IsBacked)
    (young : w.session.handles.IsYoung n) (room : n + m < HandleHistory.generationCapacity) {t : Token}
    {entry : HandleEntry} {a : Nat} (holds : w.Holds t entry a) : w'.Holds t entry a := by
  induction shifts with
  | refl => exact holds
  | tail shifts shift ih =>
    have recollects := shifts.recollects young (by omega)
    have precedes := (shift.recollects recollects.young (by omega)).precedes
    exact shift.holds (shifts.isBacked backed) precedes (ih (by omega))

/-- What a number of shifts keep, if the slots are young enough. -/
theorem Shifts.remember {m : Nat} (shifts : Shifts own w m w') (backed : w.IsBacked)
    (young : w.session.handles.IsYoung n) (room : n + m < HandleHistory.generationCapacity) :
    w'.session.handles.IsYoung (n + m) ∧
      (∀ {t entry a}, w.Holds t entry a → w'.Holds t entry a) ∧ ∀ {s}, w.Recalls s → w'.Recalls s := by
  have recollects := shifts.recollects young room
  exact ⟨recollects.young, shifts.holds backed young room, recollects.recalls⟩

end World

end ScriptHost
