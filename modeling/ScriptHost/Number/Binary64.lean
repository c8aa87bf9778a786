/-!
# Double-precision words

A double is its 64-bit word.  Nothing here uses machine floating point: a finite word denotes an
integer multiple of `2 ^ (-1074)`, its *scaled* value, so that comparison, truncation and rounding
are integer arithmetic and every later statement about a number is a statement about integers.

* `Format.nearestWord` rounds an exact quotient to the nearest word of a format, ties to even;
* `Binary64.ofScaled` and `Binary64.ofInt` build the nearest double;
* `Binary64.toInt?`, `Binary64.roundTiesEven` read integers back;
* `Binary64.add`, `Binary64.toSingle` and the comparison `Binary64.eq` complete the arithmetic.
-/

namespace ScriptHost

/-- The nearest integer to `num / den`, a half going to the even neighbour. -/
def divideTiesEven (num den : Nat) : Nat :=
  let quotient := num / den
  let twice := 2 * (num % den)
  if twice < den then quotient
  else if den < twice then quotient + 1
  else quotient + quotient % 2

/-- The parameters of a binary interchange format. -/
structure Format where
  /-- Stored bits of the significand. -/
  fractionBits : Nat
  /-- The least positive value is `2 ^ (-unit)`. -/
  unit : Nat
  /-- The exponent field of infinities and of words that are no number. -/
  topExponent : Nat

namespace Format

def double : Format := ⟨52, 1074, 2047⟩

def single : Format := ⟨23, 149, 255⟩

def infinity (f : Format) : Nat := f.topExponent * Nat.pow 2 f.fractionBits

/-- The word, without its sign, nearest to `num / den` units; a value past the greatest finite word
    becomes infinity.  The exponent field and the significand are added, so that a significand that
    rounds up to the next power of two carries into the exponent. -/
def nearestWord (f : Format) (num den : Nat) : Nat :=
  let shift := Nat.log2 (num / den) - f.fractionBits
  min (shift * Nat.pow 2 f.fractionBits + divideTiesEven num (den * Nat.pow 2 shift)) f.infinity

/-- The exponent field of a word without sign. -/
def exponentOf (f : Format) (word : Nat) : Nat := word / Nat.pow 2 f.fractionBits

/-- The significand of a word without sign, hidden bit included. -/
def significandOf (f : Format) (word : Nat) : Nat :=
  let fraction := word % Nat.pow 2 f.fractionBits
  if f.exponentOf word = 0 then fraction else Nat.pow 2 f.fractionBits + fraction

/-- The binary exponent, in units, that scales the significand of a word. -/
def shiftOf (f : Format) (word : Nat) : Nat := f.exponentOf word - 1

/-- The value of a finite word without sign, in units. -/
def magnitudeOf (f : Format) (word : Nat) : Nat :=
  f.significandOf word * Nat.pow 2 (f.shiftOf word)

end Format

/-- A double-precision number, held as its word. -/
structure Binary64 where
  bits : UInt64
  deriving DecidableEq, Repr

namespace Binary64

def signWeight : Nat := 9223372036854775808

/-- One, in units of the least positive double. -/
def one : Nat := Nat.pow 2 Format.double.unit

def isNegative (x : Binary64) : Bool := signWeight ≤ x.bits.toNat

def unsignedWord (x : Binary64) : Nat := x.bits.toNat % signWeight

def isFinite (x : Binary64) : Bool := x.unsignedWord < Format.double.infinity

def isInfinite (x : Binary64) : Bool := x.unsignedWord = Format.double.infinity

def isNaN (x : Binary64) : Bool := Format.double.infinity < x.unsignedWord

/-- The absolute value of a finite double, in units. -/
def magnitude (x : Binary64) : Nat := Format.double.magnitudeOf x.unsignedWord

/-- The value of a finite double, in units. -/
def scaled (x : Binary64) : Int := if x.isNegative then -(x.magnitude : Int) else x.magnitude

/-- The double with the given sign and unsigned word. -/
def ofWord (negative : Bool) (word : Nat) : Binary64 :=
  ⟨UInt64.ofNat ((if negative then signWeight else 0) + word)⟩

/-- The one word used for results that are no number. -/
def nan : Binary64 := ofWord false (Format.double.infinity + 2251799813685248)

def infinity (negative : Bool) : Binary64 := ofWord negative Format.double.infinity

def zero : Binary64 := ofWord false 0

/-- The double nearest to `num / den` units, with the given sign. -/
def ofQuotient (negative : Bool) (num den : Nat) : Binary64 :=
  ofWord negative (Format.double.nearestWord num den)

/-- The double nearest to an integer number of units; `zeroNegative` is the sign of a zero. -/
def ofScaled (zeroNegative : Bool) (units : Int) : Binary64 :=
  ofQuotient (if units = 0 then zeroNegative else units < 0) units.natAbs 1

def ofInt (n : Int) : Binary64 := ofScaled false (n * one)

/-- The integer part of a finite double, toward zero. -/
def truncate (x : Binary64) : Int :=
  let whole : Int := (x.magnitude / one : Nat)
  if x.isNegative then -whole else whole

/-- Whether a double is finite and has no fractional part. -/
def isInteger (x : Binary64) : Bool := x.isFinite && x.magnitude % one = 0

/-- The integer that a finite double rounds to, a half going to the even neighbour. -/
def roundTiesEven (x : Binary64) : Int :=
  let whole : Int := divideTiesEven x.magnitude one
  if x.isNegative then -whole else whole

/-- Numeric equality: zeros are equal whatever their sign, and no-number equals nothing. -/
def eq (x y : Binary64) : Bool :=
  !x.isNaN && !y.isNaN && (x.bits = y.bits || x.unsignedWord = 0 && y.unsignedWord = 0)

/-- The correctly rounded sum.  An exact sum of zero is negative only if both operands are. -/
def add (x y : Binary64) : Binary64 :=
  if x.isNaN || y.isNaN then nan
  else if x.isInfinite then
    if y.isInfinite && x.isNegative != y.isNegative then nan else x
  else if y.isInfinite then y
  else ofScaled (x.isNegative && y.isNegative) (x.scaled + y.scaled)

/-- The double that equals the single-precision number nearest to `x`. -/
def toSingle (x : Binary64) : Binary64 :=
  if x.isFinite then
    let gap := Nat.pow 2 (Format.double.unit - Format.single.unit)
    -- What is single is a double exactly, so rounding it once more changes nothing.
    let word := Format.single.nearestWord x.magnitude gap
    if word = Format.single.infinity then infinity x.isNegative
    else ofQuotient x.isNegative (Format.single.magnitudeOf word * gap) 1
  else x

end Binary64

/-- The integers of a signed 64-bit word. -/
def FitsInt64 (n : Int) : Prop := -9223372036854775808 ≤ n ∧ n < 9223372036854775808

instance (n : Int) : Decidable (FitsInt64 n) :=
  inferInstanceAs (Decidable (_ ∧ _))

/-- The 64-bit word that holds an integer, if one does. -/
def int64? (n : Int) : Option Int64 :=
  if FitsInt64 n then some (Int64.ofInt n) else none

namespace Binary64

/-- The 64-bit integer equal to a double, if there is one. -/
def toInt64? (x : Binary64) : Option Int64 :=
  if x.isInteger then int64? x.truncate else none

/-- The 64-bit integer nearest to a finite double, ties to even, if it is in range. -/
def roundToInt64? (x : Binary64) : Option Int64 :=
  if x.isFinite then int64? x.roundTiesEven else none

end Binary64

end ScriptHost
