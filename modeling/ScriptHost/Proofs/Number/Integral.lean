import Mathlib.Algebra.Order.Field.Basic
import Mathlib.Algebra.Order.Field.Rat
import Mathlib.Algebra.Group.Int.Even
import Mathlib.Tactic.FieldSimp
import Mathlib.Tactic.Linarith
import Mathlib.Tactic.Ring
import ScriptHost.Host.Coercion
import ScriptHost.Proofs.Host.Integers
import ScriptHost.Proofs.Number.Nearest
import ScriptHost.Script.Machine
/-!
# Doubles as integers

A double is read as an integer in two ways.  The machine takes those that are integers, coercion rounds
every finite one, a half to the even neighbour, and both take only what lies in the range of 64-bit words.
What is taken is the number itself, or the nearest integer, and never a limit of the range
(`float_to_integer_exact`).

`Binary64.Denotes` says which rational number a word is, from its sign, exponent and fraction alone.
-/

namespace ScriptHost

/-! ## The number that a word denotes -/

namespace Binary64

def signField (x : Binary64) : ℕ := x.bits.toNat / 2 ^ 63

def exponentField (x : Binary64) : ℕ := x.bits.toNat / 2 ^ 52 % 2 ^ 11

def fractionField (x : Binary64) : ℕ := x.bits.toNat % 2 ^ 52

/-- The absolute value that exponent and fraction stand for.  The least exponent is that of the numbers
    without a hidden bit. -/
def absValue (x : Binary64) : ℚ :=
  if x.exponentField = 0 then x.fractionField * (2 : ℚ) ^ (-1074 : ℤ)
  else (2 ^ 52 + x.fractionField) * (2 : ℚ) ^ ((x.exponentField : ℤ) - 1075)

def toRat (x : Binary64) : ℚ := (-1) ^ x.signField * x.absValue

/-- The word is the number.  One with the greatest exponent is none. -/
structure Denotes (x : Binary64) (q : ℚ) : Prop where
  finite : x.exponentField ≠ 2047
  value : x.toRat = q

variable (x : Binary64)

theorem unsignedWord_eq : x.unsignedWord = x.exponentField * 2 ^ 52 + x.fractionField := by
  rw [unsignedWord, signWeight, exponentField, fractionField]
  omega

theorem isFinite_iff : x.isFinite = true ↔ x.exponentField ≠ 2047 := by
  have exponent : x.exponentField < 2 ^ 11 := Nat.mod_lt _ (by decide)
  have fraction : x.fractionField < 2 ^ 52 := Nat.mod_lt _ (by decide)
  rw [isFinite, decide_eq_true_iff, unsignedWord_eq]
  simp only [Format.infinity, Format.double, Nat.pow_eq]
  omega

theorem signField_eq : x.signField = if x.isNegative then 1 else 0 := by
  have bound := x.bits.toNat_lt
  have negative_iff : x.isNegative = true ↔ 2 ^ 63 ≤ x.bits.toNat := decide_eq_true_iff
  simp only [signField, negative_iff]
  split <;> omega

theorem one_eq : one = 2 ^ Format.double.unit := by
  -- To have an equation for the constant, its value would be computed.
  delta one
  rw [Nat.pow_eq]

theorem one_pos : 0 < one := by
  rw [one_eq]
  exact Nat.two_pow_pos _

/-- The magnitude is the absolute value, counted in the least units. -/
theorem absValue_eq : x.absValue = x.magnitude / one := by
  have fraction : x.fractionField < 2 ^ 52 := Nat.mod_lt _ (by decide)
  have word := x.unsignedWord_eq
  rw [absValue, one_eq, Nat.cast_pow, Nat.cast_ofNat, magnitude]
  split
  case isTrue subnormal =>
    rw [subnormal] at word
    have power : (2 : ℚ) ^ (-1074 : ℤ) = (2 ^ Format.double.unit)⁻¹ := zpow_neg 2 (Format.double.unit : ℤ)
    rw [Format.magnitudeOf_subnormal (by omega), word, Nat.zero_mul, Nat.zero_add, power, div_eq_mul_inv]
  case isFalse normal =>
    obtain ⟨e, exponent⟩ := Nat.exists_eq_succ_of_ne_zero normal
    have shift : x.unsignedWord / 4503599627370496 - 1 = e := by omega
    have rest : x.unsignedWord % 4503599627370496 = x.fractionField := by omega
    have power : (2 : ℚ) ^ ((x.exponentField : ℤ) - 1075) = 2 ^ e / 2 ^ Format.double.unit := by
      have difference : (x.exponentField : ℤ) - 1075 = (e : ℤ) - (Format.double.unit : ℕ) := by
        rw [exponent]
        show ((e + 1 : ℕ) : ℤ) - 1075 = e - 1074
        omega
      rw [difference, zpow_sub₀ two_ne_zero, zpow_natCast, zpow_natCast]
    rw [Format.magnitudeOf_normal (by omega), shift, rest, power, mul_div_assoc']
    norm_num

theorem toRat_eq : x.toRat = if x.isNegative then -(x.magnitude / one : ℚ) else x.magnitude / one := by
  rw [toRat, signField_eq, absValue_eq]
  split
  · rw [pow_one, neg_one_mul]
  · rw [pow_zero, one_mul]

end Binary64

/-! ## The nearest integer -/

/-- No integer is nearer to the number, and if another one is as near then this one is even. -/
structure IsNearestInteger (q : ℚ) (z : ℤ) : Prop where
  least : ∀ w : ℤ, |q - z| ≤ |q - w|
  even : ∀ w : ℤ, |q - w| = |q - z| → w = z ∨ Even z

namespace IsNearestInteger

variable {q : ℚ} {z w : ℤ}

/-- Half way between two even integers lies an integer, which would be nearer than both. -/
theorem unique (isZ : IsNearestInteger q z) (isW : IsNearestInteger q w) : w = z := by
  have asNear : |q - w| = |q - z| := le_antisymm (isW.least z) (isZ.least w)
  rcases isZ.even w asNear with same | ⟨a, evenZ⟩
  · exact same
  rcases isW.even z asNear.symm with same | ⟨b, evenW⟩
  · exact same.symm
  rcases abs_eq_abs.mp asNear with same | opposite
  · exact_mod_cast sub_right_injective same
  have middle : q = (a + b : ℤ) := by
    rw [evenZ, evenW] at opposite
    push_cast at opposite ⊢
    linarith
  have least := isZ.least (a + b)
  rw [← middle, sub_self, abs_zero, abs_nonpos_iff, sub_eq_zero] at least
  rw [← least, sub_self, abs_zero, abs_eq_zero, sub_eq_zero, least] at asNear
  exact_mod_cast asNear.symm

/-- What is half away or less has no nearer integer, for two integers are one apart. -/
theorem of_half (near : |q - z| ≤ 1 / 2) (even : |q - z| = 1 / 2 → Even z) : IsNearestInteger q z := by
  have apart (w : ℤ) (differs : w ≠ z) : 1 / 2 ≤ |q - w| := by
    have one_le : (1 : ℚ) ≤ |(z : ℚ) - w| := by
      exact_mod_cast Int.one_le_abs (sub_ne_zero.mpr differs.symm)
    have triangle := abs_sub_le (z : ℚ) q w
    rw [abs_sub_comm (z : ℚ) q] at triangle
    linarith
  refine ⟨fun w => ?_, fun w asNear => ?_⟩
  · by_cases same : w = z
    · rw [same]
    · exact near.trans (apart w same)
  · refine or_iff_not_imp_left.mpr fun differs => even ?_
    exact le_antisymm near (asNear ▸ apart w differs)

theorem neg (isZ : IsNearestInteger q z) : IsNearestInteger (-q) (-z) := by
  have mirrored (w : ℤ) : |-q - w| = |q - (-w : ℤ)| := by
    rw [← abs_neg, Int.cast_neg]
    ring_nf
  refine ⟨fun w => ?_, fun w asNear => ?_⟩
  · rw [mirrored, mirrored, neg_neg]
    exact isZ.least (-w)
  · rw [mirrored, mirrored, neg_neg] at asNear
    exact (isZ.even (-w) asNear).imp neg_eq_iff_eq_neg.mp even_neg.mpr

/-- An integer is nearest to itself. -/
theorem intCast (z : ℤ) : IsNearestInteger z z :=
  of_half (by simp) (by simp)

end IsNearestInteger

/-! ## Quotients -/

section Quotients

variable {num den : ℕ} (positive : 0 < den)

include positive

theorem RoundsTo.isNearestInteger {q : ℕ} (rounds : RoundsTo num den q) :
    IsNearestInteger (num / den) q := by
  have den_pos : (0 : ℚ) < den := Nat.cast_pos.mpr positive
  have below : (2 * num : ℚ) ≤ 2 * (q * den) + den := mod_cast rounds.below
  have above : (2 * (q * den) : ℚ) ≤ 2 * num + den := mod_cast rounds.above
  have difference : (num / den : ℚ) - (q : ℤ) = (num - q * den) / den := by
    rw [Int.cast_natCast, sub_div, mul_div_cancel_right₀ _ den_pos.ne']
  have distance : |(num / den : ℚ) - (q : ℤ)| = |(num : ℚ) - q * den| / den := by
    rw [difference, abs_div, abs_of_pos den_pos]
  apply IsNearestInteger.of_half
  · rw [distance, div_le_div_iff₀ den_pos two_pos, ← abs_two, ← abs_mul, abs_le]
    constructor <;> linarith
  · intro half
    rw [distance, div_eq_div_iff den_pos.ne' two_ne_zero, one_mul] at half
    have tie := rounds.even ?_
    · exact_mod_cast Nat.even_iff.mpr tie
    rcases abs_cases ((num : ℚ) - q * den) with ⟨up, _⟩ | ⟨down, _⟩
    · have exact : (2 * num : ℚ) = 2 * (q * den) + den := by linarith
      exact .inl (mod_cast exact)
    · have exact : (2 * (q * den) : ℚ) = 2 * num + den := by linarith
      exact .inr (mod_cast exact)

/-- A quotient is an integer exactly if there is no remainder. -/
theorem div_eq_intCast_iff {z : ℤ} : (num / den : ℚ) = z ↔ num % den = 0 ∧ ((num / den : ℕ) : ℤ) = z := by
  have den_pos : (0 : ℚ) < den := Nat.cast_pos.mpr positive
  rw [div_eq_iff den_pos.ne']
  constructor
  · intro equal
    have product : (num : ℤ) = z * den := mod_cast equal
    have rest : (num : ℤ) % den = 0 := by rw [product, Int.mul_emod_left]
    refine ⟨mod_cast rest, ?_⟩
    rw [Int.natCast_ediv, product, Int.mul_ediv_cancel z (mod_cast positive.ne')]
  · rintro ⟨rest, rfl⟩
    have product : num = num / den * den := (Nat.div_mul_cancel (Nat.dvd_of_mod_eq_zero rest)).symm
    exact_mod_cast product

end Quotients

/-! ## Reading a double as an integer -/

namespace Binary64

variable {x : Binary64}

theorem isNearestInteger_roundTiesEven (x : Binary64) : IsNearestInteger x.toRat x.roundTiesEven := by
  have nearest := (roundsTo_divideTiesEven x.magnitude one_pos).isNearestInteger one_pos
  rw [toRat_eq, roundTiesEven]
  split
  · exact nearest.neg
  · exact nearest

theorem toRat_eq_intCast_iff {z : ℤ} : x.toRat = z ↔ x.magnitude % one = 0 ∧ x.truncate = z := by
  rw [toRat_eq, truncate]
  split
  · rw [neg_eq_iff_eq_neg, neg_eq_iff_eq_neg, ← Int.cast_neg]
    exact div_eq_intCast_iff one_pos
  · exact div_eq_intCast_iff one_pos

theorem denotes_intCast_iff {z : ℤ} : x.Denotes z ↔ x.isInteger = true ∧ x.truncate = z := by
  rw [isInteger, Bool.and_eq_true, isFinite_iff, decide_eq_true_iff, and_assoc, ← toRat_eq_intCast_iff]
  exact ⟨fun denotes => ⟨denotes.finite, denotes.value⟩, fun both => ⟨both.1, both.2⟩⟩

/-- The integers taken are those that fit. -/
theorem toInt64?_eq_some_iff {i : Int64} :
    x.toInt64? = some i ↔ ∃ z : ℤ, x.Denotes z ∧ FitsInt64 z ∧ i.toInt = z := by
  simp only [denotes_intCast_iff, toInt64?]
  by_cases integer : x.isInteger = true
  · simp [integer, int64?_eq_some_iff]
  · simp [integer]

/-- The finite doubles are taken whose nearest integers fit. -/
theorem roundToInt64?_eq_some_iff {j : Int64} :
    x.roundToInt64? = some j ↔
      ∃ (q : ℚ) (z : ℤ), x.Denotes q ∧ IsNearestInteger q z ∧ FitsInt64 z ∧ j.toInt = z := by
  have nearest := x.isNearestInteger_roundTiesEven
  rw [roundToInt64?]
  split
  case isTrue finite =>
    rw [int64?_eq_some_iff]
    constructor
    · rintro ⟨fits, value⟩
      exact ⟨_, _, ⟨x.isFinite_iff.mp finite, rfl⟩, nearest, fits, value⟩
    · rintro ⟨_, z, ⟨-, rfl⟩, isZ, fits, value⟩
      rw [nearest.unique isZ] at fits value
      exact ⟨fits, value⟩
  case isFalse infinite =>
    refine iff_of_false (Option.some_ne_none j).symm ?_
    rintro ⟨q, z, denotes, -⟩
    exact infinite (x.isFinite_iff.mpr denotes.finite)

end Binary64

/-- The number in a slot of the machine is read as an integer exactly if it is one that a 64-bit word holds,
    and then it is that integer.  It is coerced to an integer exactly if it is finite and the nearest
    integer, of two the even one, is one that a word holds, and then it is that integer.  So what the
    machine reads is what coercion gives. -/
theorem float_to_integer_exact {m : Machine} {index : Int} {x : Binary64}
    (holds : m.valueAt index = .number x) :
    (∀ i : Int64, m.integerAt? index = some i ↔
      ∃ z : ℤ, x.Denotes z ∧ (-2 ^ 63 ≤ z ∧ z < 2 ^ 63) ∧ i.toInt = z) ∧
    (∀ v, (HostValue.float x).coerce? .int = some v ↔
      ∃ (q : ℚ) (z : ℤ) (j : Int64), x.Denotes q ∧ IsNearestInteger q z ∧
        (-2 ^ 63 ≤ z ∧ z < 2 ^ 63) ∧ j.toInt = z ∧ v = .int j) ∧
    ∀ i, m.integerAt? index = some i → (HostValue.float x).coerce? .int = some (.int i) := by
  have slot : m.integerAt? index = x.toInt64? := by
    rw [Machine.integerAt?, Machine.numberAt?, holds]
    rfl
  have coerced : (HostValue.float x).coerce? .int = x.roundToInt64?.map .int := rfl
  have range (z : ℤ) : (-2 ^ 63 ≤ z ∧ z < 2 ^ 63) ↔ FitsInt64 z := Iff.rfl
  simp only [slot, coerced, range]
  refine ⟨fun i => Binary64.toInt64?_eq_some_iff, fun v => ?_, fun i read => ?_⟩
  · simp only [Option.map_eq_some_iff, Binary64.roundToInt64?_eq_some_iff]
    constructor
    · rintro ⟨j, ⟨q, z, denotes, nearest, fits, value⟩, rfl⟩
      exact ⟨q, z, j, denotes, nearest, fits, value, rfl⟩
    · rintro ⟨q, z, j, denotes, nearest, fits, value, rfl⟩
      exact ⟨j, ⟨q, z, denotes, nearest, fits, value⟩, rfl⟩
  · obtain ⟨z, denotes, fits, value⟩ := Binary64.toInt64?_eq_some_iff.mp read
    rw [Binary64.roundToInt64?_eq_some_iff.mpr ⟨z, z, denotes, .intCast z, fits, value⟩]
    rfl

/-- Minus two to the 63rd is the least integer, and the double that denotes it is read as such. -/
theorem float_to_integer_exact_of_least :
    ((Machine.start 1).push (.number (.ofInt (-2 ^ 63)))).valueAt 1 = .number (.ofInt (-2 ^ 63)) ∧
      ((Machine.start 1).push (.number (.ofInt (-2 ^ 63)))).integerAt? 1 = some Int64.minValue ∧
      (HostValue.float (.ofInt (-2 ^ 63))).coerce? .int = some (.int Int64.minValue) := by
  have holds : ((Machine.start 1).push (.number (.ofInt (-2 ^ 63)))).valueAt 1 =
      .number (.ofInt (-2 ^ 63)) := rfl
  have read : ((Machine.start 1).push (.number (.ofInt (-2 ^ 63)))).integerAt? 1 =
      some Int64.minValue := by decide +kernel
  exact ⟨holds, read, (float_to_integer_exact holds).2.2 Int64.minValue read⟩

/-- The double nearest to the greatest integer is two to the 63rd, and is refused. -/
example : (HostValue.float (.ofInt (2 ^ 63 - 1))).coerce? .int = none := by decide +kernel

end ScriptHost
