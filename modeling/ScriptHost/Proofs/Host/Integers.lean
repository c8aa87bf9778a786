import ScriptHost.Proofs.Host.Coercion
/-!
# Integers as host values

A host value holds an integer in a signed 64-bit word.  All widths but the unsigned machine word lie
within its range; of that one the upper half does not, and is wrapped around into the negative numbers
on the way in.  The way back, which narrows with a check, then refuses what it finds.  So an integer
comes back, and the value denotes it, exactly if the word can hold it (`integer_survives_iff`).
-/

namespace ScriptHost

/-- The integer that a value denotes, if it is one. -/
def HostValue.asInt? : HostValue → Option Int
  | int n => some n.toInt
  | _ => none

/-! ## Integers in a 64-bit word -/

theorem toInt_ofInt_of_fits {n : Int} (fits : FitsInt64 n) : (Int64.ofInt n).toInt = n :=
  Int64.toInt_ofInt_of_le fits.1 fits.2

theorem fitsInt64_toInt (n : Int64) : FitsInt64 n.toInt := ⟨n.le_toInt, n.toInt_lt⟩

theorem int64?_eq_some_iff {z : Int} {n : Int64} : int64? z = some n ↔ FitsInt64 z ∧ n.toInt = z := by
  rw [int64?]
  by_cases fits : FitsInt64 z
  · rw [if_pos fits, Option.some.injEq, ← Int64.toInt_inj, toInt_ofInt_of_fits fits]
    simp [fits, eq_comm]
  · simp [fits]

/-- What is too great for the word by less than its period is found as a negative number. -/
theorem toInt_ofInt_of_above {n : Int} (low : 9223372036854775808 ≤ n)
    (high : n ≤ 18446744073709551615) : (Int64.ofInt n).toInt = n - 18446744073709551616 := by
  have wrapped := toInt_ofInt_of_fits (n := n - 18446744073709551616) ⟨by omega, by omega⟩
  rw [Int64.toInt_ofInt] at wrapped ⊢
  rw [← wrapped]
  exact (Int.sub_bmod_right n _).symm

namespace IntKind

variable {k : IntKind}

/-- Only the unsigned machine word is wider than the word that values hold. -/
theorem fits_or_above (x : k.Value) :
    FitsInt64 x.val ∨ k = .usize ∧ 9223372036854775808 ≤ x.val ∧ x.val ≤ 18446744073709551615 := by
  obtain ⟨n, low, high⟩ := x
  cases k with
  | usize =>
    by_cases small : n < 9223372036854775808
    · exact .inl ⟨Int.le_trans (by decide) low, small⟩
    · exact .inr ⟨rfl, Int.not_lt.1 small, high⟩
  | _ => exact .inl ⟨Int.le_trans (by decide) low, Int.lt_of_le_of_lt high (by decide)⟩

theorem narrow_of_toInt_eq {n : Int64} {x : k.Value} (same : n.toInt = x.val) : k.narrow n = .ok x := by
  have inside : k.low ≤ n.toInt ∧ n.toInt ≤ k.high := same ▸ x.property
  rw [narrow, dif_pos inside]
  exact congrArg Except.ok (Subtype.ext same)

theorem narrow_of_lt_low {n : Int64} (below : n.toInt < k.low) :
    k.narrow n = .error (.typeMismatch k.name (intText n.toInt)) :=
  dif_neg fun inside => Int.not_le.2 below inside.1

end IntKind

/-! ## There and back -/

namespace Conversion

/-- An integer value is read by narrowing it. -/
theorem fromHost_int (k : IntKind) (n : Int64) : (Conversion.int k).fromHost (.int n) = k.narrow n := rfl

theorem fromHost_optional_int (k : IntKind) (n : Int64) :
    (optional (.int k)).fromHost (.int n) = (k.narrow n).map some := rfl

end Conversion

/-- An integer of any width comes back from the value made of it, by itself and as an optional one, and
    the value denotes it, exactly if it lies in the range of signed 64-bit words.  All integers of all
    widths do but the upper half of the unsigned machine words.  The value made of one of those denotes
    the integer less the period of the word, which is refused on the way back as a mismatch. -/
theorem integer_survives_iff (k : IntKind) (x : k.Value) :
    ((Conversion.int k).fromHost ((Conversion.int k).intoHost x) = .ok x ↔ FitsInt64 x.val) ∧
    ((Conversion.optional (.int k)).fromHost ((Conversion.optional (.int k)).intoHost (some x)) =
      .ok (some x) ↔ FitsInt64 x.val) ∧
    (((Conversion.int k).intoHost x).asInt? = some x.val ↔ FitsInt64 x.val) ∧
    (¬ FitsInt64 x.val ↔ k = .usize ∧ 9223372036854775808 ≤ x.val) ∧
    (¬ FitsInt64 x.val →
      ((Conversion.int k).intoHost x).asInt? = some (x.val - 18446744073709551616) ∧
      (Conversion.int k).fromHost ((Conversion.int k).intoHost x) =
        .error (.typeMismatch "usize" (intText (x.val - 18446744073709551616))) ∧
      (Conversion.optional (.int k)).fromHost ((Conversion.optional (.int k)).intoHost (some x)) =
        .error (.typeMismatch "usize" (intText (x.val - 18446744073709551616)))) := by
  have into : (Conversion.int k).intoHost x = .int (Int64.ofInt x.val) := rfl
  have intoOptional : (Conversion.optional (.int k)).intoHost (some x) = .int (Int64.ofInt x.val) := rfl
  have denotes : (HostValue.int (Int64.ofInt x.val)).asInt? = some (Int64.ofInt x.val).toInt := rfl
  rw [into, intoOptional, Conversion.fromHost_int, Conversion.fromHost_optional_int, denotes]
  -- Beyond the range there are only machine words, and these come out less by one period.
  obtain fits | ⟨rfl, low, high⟩ := IntKind.fits_or_above x
  · have held := toInt_ofInt_of_fits fits
    have narrowed : k.narrow (Int64.ofInt x.val) = .ok x := IntKind.narrow_of_toInt_eq held
    have inRange : ¬ (k = .usize ∧ 9223372036854775808 ≤ x.val) :=
      fun above => Int.not_le.2 fits.2 above.2
    rw [held, narrowed]
    exact ⟨iff_of_true rfl fits, iff_of_true rfl fits, iff_of_true rfl fits,
      iff_of_false (not_not_intro fits) inRange, fun tooGreat => absurd fits tooGreat⟩
  · have tooGreat : ¬ FitsInt64 x.val := fun fits => Int.not_le.2 fits.2 low
    have held := toInt_ofInt_of_above low high
    have refused : IntKind.usize.narrow (Int64.ofInt x.val) =
        .error (.typeMismatch "usize" (intText (x.val - 18446744073709551616))) := by
      rw [IntKind.narrow_of_lt_low (by rw [held]; show _ < (0 : Int); omega), held]
      rfl
    have differs : x.val - 18446744073709551616 ≠ x.val := by omega
    rw [held, refused]
    refine ⟨iff_of_false (fun read => ?_) tooGreat, iff_of_false (fun read => ?_) tooGreat,
      iff_of_false (fun same => differs (Option.some.inj same)) tooGreat,
      iff_of_true tooGreat ⟨rfl, low⟩, fun _ => ⟨rfl, rfl, rfl⟩⟩
    · cases read
    · cases read

end ScriptHost
