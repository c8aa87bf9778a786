/-!
# Counting the elements of an array

How replacing one element changes the number of those that satisfy a predicate.  Stores of slots are
counted this way, and one slot changes at a time.
-/

namespace ScriptHost

variable {α : Type}

theorem countP_setIfInBounds (p : α → Bool) {xs : Array α} {i : Nat} {a : α} (b : α)
    (found : xs[i]? = some a) :
    (xs.setIfInBounds i b).countP p + (if p a then 1 else 0) =
      xs.countP p + (if p b then 1 else 0) := by
  obtain ⟨bound, rfl⟩ := Array.getElem?_eq_some_iff.1 found
  have counted : (if p xs[i] then 1 else 0) ≤ xs.countP p := by
    by_cases h : p xs[i]
    · simpa [h] using Array.countP_pos_iff.2 ⟨xs[i], Array.getElem_mem bound, h⟩
    · simp [h]
  rw [Array.setIfInBounds, dif_pos bound, Array.countP_set]
  omega

theorem countP_modify (p : α → Bool) {xs : Array α} {i : Nat} {a : α} (f : α → α)
    (found : xs[i]? = some a) :
    (xs.modify i f).countP p + (if p a then 1 else 0) =
      xs.countP p + (if p (f a) then 1 else 0) := by
  have same : xs.modify i f = xs.setIfInBounds i (f a) := by
    apply Array.ext_getElem?
    intro j
    rw [Array.getElem?_modify, Array.getElem?_setIfInBounds]
    by_cases h : i = j
    · subst h
      obtain ⟨bound, rfl⟩ := Array.getElem?_eq_some_iff.1 found
      simp [bound]
    · simp [h]
  rw [same]
  exact countP_setIfInBounds p (f a) found

/-- The elements are counted by their indices. -/
theorem countP_eq_countP_range (p : α → Bool) (xs : Array α) :
    xs.countP p = (List.range xs.size).countP fun i => xs[i]?.any p := by
  have listed (ys : List α) : ys.countP p = (List.range ys.length).countP fun i => ys[i]?.any p := by
    induction ys with
    | nil => rfl
    | cons y rest ih =>
      rw [List.length_cons, List.range_succ_eq_map, List.countP_cons, List.countP_cons, List.countP_map, ih]
      rfl
  simpa only [Array.countP_toList, Array.length_toList, Array.getElem?_toList] using listed xs.toList

end ScriptHost
