import Mathlib.Algebra.Group.Nat.Defs
import ScriptHost.Number.Binary64
/-!
# The double nearest to an integer

`Binary64.ofInt` gives the double nearest to an integer, and of two that are equally near the one with
the even significand (`Binary64.isNearest_ofInt`).

Every finite double is a multiple of some power of two.  Those as coarse as the rounded one are multiples
of the same power, and among these the quotient was rounded.  The finer ones lie below the binade of the
integer, whose least element is nearer.

The significand of a normal double is at least 2 ^ 52 and less than 2 ^ 53.  The powers are written out, so
that the bounds are linear in the rest.
-/

namespace ScriptHost

/-! ## Rounding a quotient -/

/-- A multiple of `den` is as near to a number as any, and if it is half of `den` away it is even. -/
structure RoundsTo (num den q : Nat) : Prop where
  below : 2 * num ≤ 2 * (q * den) + den
  above : 2 * (q * den) ≤ 2 * num + den
  even : 2 * num = 2 * (q * den) + den ∨ 2 * (q * den) = 2 * num + den → q % 2 = 0

theorem roundsTo_divideTiesEven (num : Nat) {den : Nat} (positive : 0 < den) :
    RoundsTo num den (divideTiesEven num den) := by
  have parts := Nat.div_add_mod' num den
  have rest := Nat.mod_lt num positive
  have up : (num / den + 1) * den = num / den * den + den := Nat.succ_mul _ _
  rw [divideTiesEven]
  split
  case isTrue less => exact ⟨by omega, by omega, by omega⟩
  split
  case isTrue more => exact ⟨by omega, by omega, by omega⟩
  case isFalse half =>
    rcases Nat.mod_two_eq_zero_or_one (num / den) with even | odd
    · rw [even, Nat.add_zero]
      exact ⟨by omega, by omega, fun _ => even⟩
    · rw [odd]
      exact ⟨by omega, by omega, fun _ => by omega⟩

/-- How far apart two numbers are. -/
def gap (a b : Nat) : Nat := (a - b) + (b - a)

namespace RoundsTo

variable {num den q : Nat}

theorem least (rounds : RoundsTo num den q) (k : Nat) : gap (q * den) num ≤ gap (k * den) num := by
  have below := rounds.below
  have above := rounds.above
  rw [gap, gap]
  rcases Nat.lt_trichotomy k q with less | rfl | more
  · have next := Nat.mul_le_mul_right den (Nat.succ_le_of_lt less)
    rw [Nat.succ_mul] at next
    omega
  · exact Nat.le_refl _
  · have next := Nat.mul_le_mul_right den (Nat.succ_le_of_lt more)
    rw [Nat.succ_mul] at next
    omega

theorem tie (rounds : RoundsTo num den q) {k : Nat} (asNear : gap (k * den) num = gap (q * den) num) :
    k = q ∨ q % 2 = 0 := by
  have below := rounds.below
  have above := rounds.above
  have even := rounds.even
  rw [gap, gap] at asNear
  rcases Nat.lt_trichotomy k q with less | same | more
  · have next := Nat.mul_le_mul_right den (Nat.succ_le_of_lt less)
    rw [Nat.succ_mul] at next
    exact .inr (even (by omega))
  · exact .inl same
  · have next := Nat.mul_le_mul_right den (Nat.succ_le_of_lt more)
    rw [Nat.succ_mul] at next
    exact .inr (even (by omega))

end RoundsTo

/-! ## Words and their magnitudes -/

namespace Format

theorem magnitudeOf_subnormal {word : Nat} (subnormal : word < 4503599627370496) :
    double.magnitudeOf word = word := by
  have exponent : double.exponentOf word = 0 := Nat.div_eq_of_lt subnormal
  rw [magnitudeOf, significandOf, if_pos exponent, shiftOf, exponent]
  exact (Nat.mul_one _).trans (Nat.mod_eq_of_lt subnormal)

theorem magnitudeOf_normal {word : Nat} (normal : 4503599627370496 ≤ word) :
    double.magnitudeOf word =
      (4503599627370496 + word % 4503599627370496) * 2 ^ (word / 4503599627370496 - 1) := by
  have exponent : double.exponentOf word ≠ 0 :=
    Nat.ne_of_gt (Nat.div_pos normal (by decide : 0 < 4503599627370496))
  rw [magnitudeOf, significandOf, if_neg exponent]
  rfl

/-- The magnitude of a double is a significand of 53 bits times a power of two. -/
theorem magnitudeOf_double (word : Nat) :
    ∃ s e, s < 9007199254740992 ∧ double.magnitudeOf word = s * 2 ^ e := by
  rcases Nat.lt_or_ge word 4503599627370496 with subnormal | normal
  · exact ⟨word, 0, by omega, (magnitudeOf_subnormal subnormal).trans (Nat.mul_one word).symm⟩
  · exact ⟨_, _, by omega, magnitudeOf_normal normal⟩

/-- A word that is put together of a shift and a significand has their product for its magnitude.  The
    greatest significand is a power of two, which carries into the exponent. -/
theorem magnitudeOf_add {shift q : Nat} (q_le : q ≤ 9007199254740992)
    (normal : shift = 0 ∨ 4503599627370496 ≤ q) :
    double.magnitudeOf (shift * 4503599627370496 + q) = q * 2 ^ shift := by
  rcases Nat.lt_or_ge q 4503599627370496 with subnormal | le_q
  · obtain rfl : shift = 0 := by omega
    rw [Nat.zero_mul, Nat.zero_add, magnitudeOf_subnormal subnormal, Nat.pow_zero, Nat.mul_one]
  rw [magnitudeOf_normal (by omega)]
  rcases Nat.lt_or_eq_of_le q_le with q_lt | carries
  · have exponent : (shift * 4503599627370496 + q) / 4503599627370496 - 1 = shift := by omega
    have significand : 4503599627370496 + (shift * 4503599627370496 + q) % 4503599627370496 = q := by
      omega
    rw [exponent, significand]
  · have exponent : (shift * 4503599627370496 + q) / 4503599627370496 - 1 = shift + 1 := by omega
    have fraction : (shift * 4503599627370496 + q) % 4503599627370496 = 0 := by omega
    rw [exponent, fraction, carries, Nat.pow_succ]
    omega

/-- What is known of the word nearest to a number of units. -/
structure IsNearestWord (word units : Nat) : Prop where
  finite : word < double.infinity
  least : ∀ s e, s < 9007199254740992 → gap (double.magnitudeOf word) units ≤ gap (s * 2 ^ e) units
  even : ∀ s e, s < 9007199254740992 → gap (s * 2 ^ e) units = gap (double.magnitudeOf word) units →
    s * 2 ^ e = double.magnitudeOf word ∨ word % 2 = 0

/-- A double is a multiple of the unit in the last place of a binade, or lies below the binade. -/
theorem multiple_or_below {s : Nat} (s_lt : s < 9007199254740992) (e shift : Nat) :
    (∃ k, s * 2 ^ e = k * 2 ^ shift) ∨ (0 < shift ∧ s * 2 ^ e < 4503599627370496 * 2 ^ shift) := by
  rcases Nat.lt_or_ge e shift with finer | coarser
  · right
    have doubled : 2 ^ (e + 1) ≤ 2 ^ shift := Nat.pow_le_pow_right (by decide) finer
    have scaled : s * 2 ^ e < 9007199254740992 * 2 ^ e :=
      Nat.mul_lt_mul_of_pos_right s_lt (Nat.two_pow_pos e)
    rw [Nat.pow_succ] at doubled
    exact ⟨Nat.zero_lt_of_lt finer, by omega⟩
  · left
    obtain ⟨d, rfl⟩ := Nat.exists_eq_add_of_le coarser
    exact ⟨s * 2 ^ d, by rw [Nat.pow_add, Nat.mul_assoc, Nat.mul_comm (2 ^ shift)]⟩

/-- The units lie in the binade that belongs to the shift, or are so few that there is none. -/
structure InBinade (units shift : Nat) : Prop where
  lt : units < 9007199254740992 * 2 ^ shift
  ge : shift = 0 ∨ 4503599627370496 * 2 ^ shift ≤ units

theorem inBinade (units : Nat) : InBinade units (units.log2 - 52) := by
  generalize shift_eq : units.log2 - 52 = shift
  constructor
  · have bound : units < 2 ^ (units.log2 + 1) := Nat.lt_log2_self
    have wider : 2 ^ (units.log2 + 1) ≤ 2 ^ (53 + shift) :=
      Nat.pow_le_pow_right (by decide) (by omega)
    exact Nat.lt_of_lt_of_le bound (Nat.le_trans wider (Nat.le_of_eq (Nat.pow_add 2 53 shift)))
  · rcases Nat.eq_zero_or_pos shift with none | some
    · exact .inl none
    · right
      have nonzero : units ≠ 0 := fun zero => by
        rw [zero, Nat.log2_zero] at shift_eq
        omega
      have bound := Nat.log2_self_le nonzero
      have exponent : units.log2 = 52 + shift := by omega
      rw [exponent, Nat.pow_add] at bound
      exact bound

section Rounding

variable {units shift q : Nat} (binade : InBinade units shift) (rounds : RoundsTo units (2 ^ shift) q)

include binade rounds

/-- What is rounded to is a significand, or the power of two after the greatest one. -/
theorem InBinade.le_rounded : q ≤ 9007199254740992 := by
  refine Nat.le_of_not_lt fun more => ?_
  have scaled := Nat.mul_le_mul_right (2 ^ shift) (Nat.succ_le_of_lt more)
  rw [Nat.succ_mul] at scaled
  have above := rounds.above
  have below := binade.lt
  omega

theorem InBinade.rounded_normal : shift = 0 ∨ 4503599627370496 ≤ q := by
  refine binade.ge.imp_right fun le_units => Nat.le_of_not_lt fun less => ?_
  have scaled := Nat.mul_le_mul_right (2 ^ shift) (Nat.succ_le_of_lt less)
  rw [Nat.succ_mul] at scaled
  have below := rounds.below
  have positive := Nat.two_pow_pos shift
  omega

/-- What lies below the binade is farther away. -/
theorem InBinade.gap_lt_of_below (positive : 0 < shift) {a : Nat} (a_lt : a < 4503599627370496 * 2 ^ shift) :
    gap (q * 2 ^ shift) units < gap a units := by
  have nearer := rounds.least 4503599627370496
  have le_units := binade.ge.resolve_left (Nat.ne_of_gt positive)
  rw [gap, gap] at nearer ⊢
  omega

end Rounding

theorem isNearestWord_nearestWord {units : Nat} (small : units.log2 < 2000) :
    IsNearestWord (double.nearestWord units 1) units := by
  have binade := inBinade units
  generalize shift_eq : units.log2 - 52 = shift at binade
  generalize q_eq : divideTiesEven units (2 ^ shift) = q
  have rounds : RoundsTo units (2 ^ shift) q := q_eq ▸ roundsTo_divideTiesEven units (Nat.two_pow_pos _)
  have q_le := binade.le_rounded rounds
  have word : double.nearestWord units 1 = shift * 4503599627370496 + q := by
    simp only [nearestWord, Nat.div_one, Nat.one_mul, Nat.pow_eq, infinity, double, shift_eq, q_eq,
      Nat.reducePow]
    omega
  have magnitude := magnitudeOf_add q_le (binade.rounded_normal rounds)
  rw [word]
  refine ⟨?_, fun s e s_lt => ?_, fun s e s_lt asNear => ?_⟩
  · simp only [infinity, double, Nat.pow_eq, Nat.reducePow]
    omega
  · rw [magnitude]
    -- Any other magnitude is a multiple of the same step, or lies in a lower binade, which is farther off.
    rcases multiple_or_below s_lt e shift with ⟨k, multiple⟩ | ⟨positive, lower⟩
    · rw [multiple]
      exact rounds.least k
    · exact Nat.le_of_lt (binade.gap_lt_of_below rounds positive lower)
  · rw [magnitude] at asNear ⊢
    rcases multiple_or_below s_lt e shift with ⟨k, multiple⟩ | ⟨positive, lower⟩
    · rw [multiple] at asNear ⊢
      refine (rounds.tie asNear).imp (fun same => by rw [same]) fun even => ?_
      omega
    · have farther := binade.gap_lt_of_below rounds positive lower
      omega

end Format

/-! ## Doubles -/

namespace Binary64

/-- How far a finite double is from a number of units. -/
def distance (x : Binary64) (units : Int) : Nat := (x.scaled - units).natAbs

/-- No finite double is nearer to the number of units, and if another one is as near then the last bit of
    this one is zero. -/
structure IsNearest (x : Binary64) (units : Int) : Prop where
  isFinite : x.isFinite = true
  least : ∀ y : Binary64, y.isFinite = true → x.distance units ≤ y.distance units
  even : ∀ y : Binary64, y.isFinite = true → y.distance units = x.distance units →
    y.scaled = x.scaled ∨ x.unsignedWord % 2 = 0

section Words

variable {word : Nat} (negative : Bool) (finite : word < Format.double.infinity)

include finite

theorem toNat_ofWord :
    (ofWord negative word).bits.toNat = (if negative then signWeight else 0) + word := by
  simp only [Format.infinity, Format.double, Nat.pow_eq, Nat.reducePow] at finite
  rw [ofWord, UInt64.toNat_ofNat']
  apply Nat.mod_eq_of_lt
  cases negative <;> simp [signWeight] <;> omega

theorem unsignedWord_ofWord : (ofWord negative word).unsignedWord = word := by
  rw [unsignedWord, toNat_ofWord negative finite]
  simp only [Format.infinity, Format.double, Nat.pow_eq, Nat.reducePow] at finite
  cases negative <;> simp [signWeight] <;> omega

theorem isNegative_ofWord : (ofWord negative word).isNegative = negative := by
  rw [isNegative, toNat_ofWord negative finite]
  simp only [Format.infinity, Format.double, Nat.pow_eq, Nat.reducePow] at finite
  cases negative <;> simp [signWeight]
  omega

end Words

/-- A double has the sign of the units, or is no nearer to them than zero is. -/
theorem scaled_cases (y : Binary64) (units : Int) :
    (y.scaled = (if units < 0 then -(y.magnitude : Int) else y.magnitude) ∧
      y.distance units = gap y.magnitude units.natAbs) ∨
    y.distance units = y.magnitude + units.natAbs := by
  rw [distance, scaled, gap]
  split <;> split <;> omega

theorem magnitude_eq (y : Binary64) : ∃ s e, s < 9007199254740992 ∧ y.magnitude = s * 2 ^ e :=
  Format.magnitudeOf_double y.unsignedWord

/-- The double nearest to a number of units, which must not be too many. -/
theorem isNearest_ofScaled {units : Int} (small : units.natAbs.log2 < 2000) :
    (ofScaled false units).IsNearest units := by
  have nearest := Format.isNearestWord_nearestWord small
  rw [ofScaled, ofQuotient]
  generalize Format.double.nearestWord units.natAbs 1 = word at nearest
  have negative_iff : (if units = 0 then false else decide (units < 0)) = decide (units < 0) := by
    by_cases zero : units = 0 <;> simp [zero]
  rw [negative_iff]
  generalize x_eq : ofWord (decide (units < 0)) word = x
  have word_eq : x.unsignedWord = word := x_eq ▸ unsignedWord_ofWord _ nearest.finite
  have scaled : x.scaled = if units < 0 then -(x.magnitude : Int) else x.magnitude := by
    rw [Binary64.scaled, ← x_eq, isNegative_ofWord _ nearest.finite]
    simp only [decide_eq_true_eq]
  have distance : x.distance units = gap x.magnitude units.natAbs := by
    rw [Binary64.distance, scaled, gap]
    split <;> omega
  have magnitude : Format.double.magnitudeOf word = x.magnitude := by rw [Binary64.magnitude, word_eq]
  have least := nearest.least
  have even := nearest.even
  rw [magnitude] at least even
  have le_zero : gap x.magnitude units.natAbs ≤ units.natAbs := by
    refine Nat.le_trans (least 0 0 (by decide)) ?_
    rw [gap]
    omega
  refine ⟨by rw [isFinite, word_eq]; exact decide_eq_true nearest.finite, fun y _ => ?_,
    fun y _ asNear => ?_⟩
  · obtain ⟨s, e, s_lt, y_eq⟩ := y.magnitude_eq
    rw [distance]
    rcases scaled_cases y units with ⟨_, apart⟩ | apart
    · rw [apart, y_eq]
      exact least s e s_lt
    · omega
  · obtain ⟨s, e, s_lt, y_eq⟩ := y.magnitude_eq
    rw [distance] at asNear
    rw [word_eq]
    rcases scaled_cases y units with ⟨sameSign, apart⟩ | apart
    · rw [apart, y_eq] at asNear
      refine (even s e s_lt asNear).imp_left fun same => ?_
      rw [sameSign, scaled, y_eq, same]
    -- No nearer than zero and as near as this one, the other is zero.
    · have zero : y.magnitude = 0 := by omega
      have nearZero : gap (0 * 2 ^ 0) units.natAbs = gap x.magnitude units.natAbs := by
        rw [← asNear, apart, gap]
        omega
      refine (even 0 0 (by decide) nearZero).imp_left fun same => ?_
      rw [Binary64.scaled, zero, scaled, ← same]
      simp

theorem log2_mul_lt {n unit : Nat} (n_lt : n < 2 ^ 64) (unit_lt : unit.log2 < 1100) :
    (n * unit).log2 < 2000 := by
  by_cases zero : n * unit = 0
  · rw [zero]
    decide
  · rw [Nat.log2_lt zero]
    have positive : 0 < unit := Nat.pos_of_ne_zero fun none => zero (by rw [none, Nat.mul_zero])
    calc n * unit < 2 ^ 64 * unit := Nat.mul_lt_mul_of_pos_right n_lt positive
      _ ≤ 2 ^ 64 * 2 ^ (unit.log2 + 1) := Nat.mul_le_mul_left _ (Nat.le_of_lt Nat.lt_log2_self)
      _ = 2 ^ (64 + (unit.log2 + 1)) := (Nat.pow_add 2 64 _).symm
      _ ≤ 2 ^ 2000 := Nat.pow_le_pow_right (by decide) (by omega)

/-- The double nearest to an integer. -/
theorem isNearest_ofInt {n : Int} (fits : FitsInt64 n) : (ofInt n).IsNearest (n * one) := by
  have small : n.natAbs < 2 ^ 64 := by
    rw [FitsInt64] at fits
    omega
  refine isNearest_ofScaled ?_
  rw [Int.natAbs_mul, Int.natAbs_natCast]
  exact log2_mul_lt small (by decide +kernel)

/-- Two to the 53rd and one is half way between two doubles, and goes to the even one. -/
example : ofInt 9007199254740993 = ofInt 9007199254740992 := by decide +kernel

end Binary64

end ScriptHost
