import ScriptHost.Proofs.Machine.Frames
/-!
# Which slots indices denote

An index denotes a slot of the current frame, or none.  The absolute index made of it is looked up in the
same way, so it has to denote the same slot.  It does, except for an index that lies below the frame by no
more than the size of the frame.  Such an index denotes no slot, but what is made of it is negative still,
and is taken for an index from the top (`slotIndex?_absIndex_iff`).
-/

namespace ScriptHost

namespace Machine

variable {m : Machine} {i : Int} {slot : Nat}

/-- The index lies below the frame, and its absolute index denotes a slot all the same. -/
def Strays (m : Machine) (i : Int) : Prop := -(2 * m.top + 1) ≤ i ∧ i ≤ -(m.top + 2)

instance (m : Machine) (i : Int) : Decidable (m.Strays i) := inferInstanceAs (Decidable (_ ∧ _))

/-! ## Slots -/

theorem slotIndex?_of_pos (positive : 0 < i) :
    m.slotIndex? i = some slot ↔ slot + 1 = m.base + i.toNat ∧ slot < m.height := by
  rw [slotIndex?, if_pos positive, Option.ite_none_right_eq_some, Option.some.injEq]
  omega

theorem slotIndex?_of_neg (negative : i < 0) :
    m.slotIndex? i = some slot ↔ i.natAbs ≤ m.frameSize ∧ m.height - i.natAbs = slot := by
  rw [slotIndex?, if_neg (by omega), if_pos negative, Option.ite_none_right_eq_some, Option.some.injEq]

theorem slotIndex?_zero : m.slotIndex? 0 = none := by simp [slotIndex?]

/-- Only a frame with slots has one that an index denotes. -/
theorem base_lt_of_slotIndex? (denotes : m.slotIndex? i = some slot) : m.base < m.height := by
  rcases Int.lt_trichotomy i 0 with negative | rfl | positive
  · have denoted := (slotIndex?_of_neg negative).1 denotes
    simp only [frameSize] at denoted
    omega
  · rw [slotIndex?_zero] at denotes
    cases denotes
  · have denoted := (slotIndex?_of_pos positive).1 denotes
    omega

theorem valueAt_of_none (denotesNone : m.slotIndex? i = none) : m.valueAt i = .nil := by
  rw [valueAt, denotesNone]
  rfl

/-- Where there is no slot a nil is found. -/
theorem denotes_of_valueAt {v : Value} (found : m.valueAt i = v) (something : v ≠ .nil) :
    ∃ slot, m.slotIndex? i = some slot := by
  cases denotes : m.slotIndex? i with
  | none => exact absurd (found.symm.trans (valueAt_of_none denotes)) something
  | some slot => exact ⟨slot, rfl⟩

/-! ## Absolute indices -/

theorem absIndex_of_pos (positive : 0 < i) : m.absIndex i = i := by rw [absIndex, if_pos positive]

theorem absIndex_of_nonpos (nonpositive : i ≤ 0) : m.absIndex i = m.top + i + 1 := by
  rw [absIndex, if_neg (by omega)]

/-- The index of a slot is made absolute as one that counts from the base. -/
theorem absIndex_pos_of_slotIndex? (denotes : m.slotIndex? i = some slot) : 0 < m.absIndex i := by
  rcases Int.lt_trichotomy i 0 with negative | rfl | positive
  · have denoted := (slotIndex?_of_neg negative).1 denotes
    rw [absIndex_of_nonpos (by omega), top]
    omega
  · rw [slotIndex?_zero] at denotes
    cases denotes
  · rwa [absIndex_of_pos positive]

theorem not_strays_of_slotIndex? (denotes : m.slotIndex? i = some slot) : ¬ m.Strays i := by
  have positive := absIndex_pos_of_slotIndex? denotes
  rintro ⟨-, low⟩
  have negative : i ≤ 0 := by
    rw [top] at low
    omega
  rw [absIndex_of_nonpos negative] at positive
  omega

theorem Strays.slotIndex?_eq (strays : m.Strays i) : m.slotIndex? i = none := by
  cases denotes : m.slotIndex? i with
  | none => rfl
  | some slot => exact absurd strays (not_strays_of_slotIndex? denotes)

theorem Strays.exists_slot (strays : m.Strays i) : ∃ slot, m.slotIndex? (m.absIndex i) = some slot := by
  obtain ⟨high, low⟩ := strays
  rw [top] at high low
  have abs : m.absIndex i = m.frameSize + i + 1 := absIndex_of_nonpos (by omega)
  exact ⟨_, (slotIndex?_of_neg (by omega)).2 ⟨by omega, rfl⟩⟩

theorem slotIndex?_absIndex (straight : ¬ m.Strays i) : m.slotIndex? (m.absIndex i) = m.slotIndex? i := by
  simp only [Strays, top, not_and] at straight
  by_cases positive : 0 < i
  · rw [absIndex_of_pos positive]
  · have abs : m.absIndex i = m.frameSize + i + 1 := absIndex_of_nonpos (by omega)
    ext slot
    by_cases inside : i.natAbs ≤ m.frameSize
    · by_cases zero : i = 0
      · -- The index above the topmost slot stands for it.
        rw [slotIndex?_of_pos (by omega), abs, zero, slotIndex?_zero, frameSize]
        simp only [reduceCtorEq, iff_false, not_and]
        omega
      · rw [slotIndex?_of_pos (by omega), slotIndex?_of_neg (by omega), abs]
        simp only [frameSize] at inside ⊢
        omega
    · rw [slotIndex?_of_neg (show i < 0 by omega)]
      by_cases below : m.absIndex i = 0
      · rw [below, slotIndex?_zero]
        simp only [reduceCtorEq, false_iff, not_and]
        omega
      · rw [slotIndex?_of_neg (by omega)]
        omega

/-- The absolute index denotes the slot of the index, unless that strays. -/
theorem slotIndex?_absIndex_iff : m.slotIndex? (m.absIndex i) = m.slotIndex? i ↔ ¬ m.Strays i := by
  refine ⟨fun same strays => ?_, slotIndex?_absIndex⟩
  obtain ⟨slot, denotes⟩ := strays.exists_slot
  rw [same, strays.slotIndex?_eq] at denotes
  cases denotes

theorem valueAt_absIndex (straight : ¬ m.Strays i) : m.valueAt (m.absIndex i) = m.valueAt i := by
  rw [valueAt, slotIndex?_absIndex straight, valueAt]

/-- An index is absolute once it was made so, unless it lies below the frame. -/
theorem absIndex_absIndex_iff : m.absIndex (m.absIndex i) = m.absIndex i ↔ -m.top ≤ i := by
  have size : 0 ≤ m.top := Int.natCast_nonneg _
  by_cases positive : 0 < m.absIndex i
  · rw [absIndex_of_pos positive, eq_self, true_iff]
    by_cases above : 0 < i
    · omega
    · rw [absIndex_of_nonpos (by omega)] at positive
      omega
  · have nonpositive : i ≤ 0 := Int.not_lt.1 fun above => by
      rw [absIndex_of_pos above] at positive
      exact positive above
    rw [absIndex_of_nonpos (i := m.absIndex i) (by omega)]
    rw [absIndex_of_nonpos nonpositive] at positive ⊢
    omega

end Machine

end ScriptHost
