import ScriptHost.Number.Binary64
/-!
# Decimal text of numbers

Integers are written in decimal with a leading minus.  A double is written with the fewest digits
that read back as the same double, always positionally and never with an exponent: `shortest` finds
the digits by exact arithmetic on the interval of values that round to the double, and
`Digits.positional` places the point.  `Number.format` is the text the scripting layer shows, which
leaves out the point for integers of moderate size.

In the other direction `readInteger?` and `readFloat?` decode text.
-/

namespace ScriptHost

/-! ## Integers -/

def natDigits (n : Nat) : List Char := Nat.toDigits 10 n

def intDigits (n : Int) : List Char :=
  if n < 0 then '-' :: natDigits n.natAbs else natDigits n.natAbs

def intText (n : Int) : String := String.ofList (intDigits n)

def natText (n : Nat) : String := String.ofList (natDigits n)

def hexText (n : Nat) : String := String.ofList (Nat.toDigits 16 n)

/-- The value of digits in a base, the lowest digit first. -/
def digitsValue (base : Nat) (ds : List Nat) : Nat := ds.foldr (fun d value => d + base * value) 0

/-- Neighbouring digits joined to one digit of the squared base. -/
def joinPairs (base : Nat) : List Nat → List Nat
  | low :: high :: rest => (low + base * high) :: joinPairs base rest
  | ds => ds

/-- The value of digits in a base, the lowest digit first, found by joining them in rounds until one is
    left.  The factors of each product are of like size, so long texts are read fast. -/
def joinDigits : Nat → Nat → List Nat → Nat
  | _, _, [] => 0
  | _, _, [d] => d
  | 0, base, ds => digitsValue base ds
  | rounds + 1, base, ds => joinDigits rounds (base * base) (joinPairs base ds)

/-- The number written by a list of ASCII digits. -/
def ofDigits (cs : List Char) : Nat :=
  joinDigits cs.length 10 (cs.reverse.map fun c => c.toNat - '0'.toNat)

theorem digitsValue_joinPairs (base : Nat) (ds : List Nat) :
    digitsValue (base * base) (joinPairs base ds) = digitsValue base ds := by
  fun_induction joinPairs base ds with
  | case1 low high rest ih =>
    simp only [digitsValue, List.foldr_cons] at ih ⊢
    rw [ih, Nat.mul_add, Nat.mul_assoc, Nat.add_assoc]
  | case2 ds short =>
    match ds with
    | [] => rfl
    | [d] => simp [digitsValue]
    | low :: high :: rest => exact absurd rfl (short low high rest)

theorem joinDigits_eq (rounds base : Nat) (ds : List Nat) :
    joinDigits rounds base ds = digitsValue base ds := by
  fun_induction joinDigits rounds base ds with
  | case1 => rfl
  | case2 => simp [digitsValue]
  | case3 => rfl
  | case4 _ _ _ _ _ ih => rw [ih, digitsValue_joinPairs]

/-- The digits are read positionally from the left. -/
theorem ofDigits_eq (cs : List Char) : ofDigits cs = Nat.ofDigitChars 10 cs 0 := by
  rw [ofDigits, joinDigits_eq, digitsValue, List.foldr_map, List.foldr_reverse,
    Nat.ofDigitChars_eq_foldl]
  congr 1
  funext value c
  exact Nat.add_comm _ _

/-- A leading sign, and what follows it. -/
def splitSign : List Char → Bool × List Char
  | '-' :: rest => (true, rest)
  | '+' :: rest => (false, rest)
  | cs => (false, cs)

/-- Reads an optional sign followed by one or more ASCII digits, and nothing else. -/
def readInteger? (cs : List Char) : Option Int :=
  let (negative, digits) := splitSign cs
  if !digits.isEmpty && digits.all Char.isDigit then
    some (if negative then -(ofDigits digits : Int) else ofDigits digits)
  else none

/-! ## Shortest digits of a double -/

/-- A decimal: `coefficient * 10 ^ exponent`. -/
structure Digits where
  coefficient : Nat
  exponent : Int
  deriving DecidableEq, Repr

/-- The exact positive values that round to one double, as numerators over a common denominator. -/
structure RoundingInterval where
  low : Nat
  value : Nat
  high : Nat
  den : Nat
  /-- Whether the two ends themselves round to the double. -/
  closed : Bool

/-- The rounding interval of a positive finite double.  It reaches half a unit to either side, except
    below a power of two, where the neighbours are twice as dense. -/
def Binary64.roundingInterval (x : Binary64) : RoundingInterval :=
  let significand := Format.double.significandOf x.unsignedWord
  let scale := Nat.pow 2 (Format.double.shiftOf x.unsignedWord)
  let denser := significand = 4503599627370496 ∧ 1 < Format.double.exponentOf x.unsignedWord
  { low := (4 * significand - (if denser then 1 else 2)) * scale
    value := 4 * significand * scale
    high := (4 * significand + 2) * scale
    den := 4 * Binary64.one
    closed := significand % 2 = 0 }

namespace RoundingInterval

/-- Whether `num / scale` lies in the interval, where both are given over its denominator. -/
def Contains (r : RoundingInterval) (num scale : Nat) : Prop :=
  if r.closed then r.low * scale ≤ num ∧ num ≤ r.high * scale
  else r.low * scale < num ∧ num < r.high * scale

instance (r : RoundingInterval) (num scale : Nat) : Decidable (r.Contains num scale) := by
  unfold Contains; infer_instance

/-- The decimal exponent of the leading digit of the value, for values of at least `10 ^ (-400)`. -/
def leadingExponent (r : RoundingInterval) : Int :=
  ((natDigits (r.value * Nat.pow 10 400 / r.den)).length : Int) - 401

/-- The multiple of `10 ^ exponent` that stands for the value on that grid: of its two neighbours
    those that round to the double are tried, the nearer first and the upper one on a tie. -/
def onGrid? (r : RoundingInterval) (exponent : Int) : Option Nat :=
  let scale := Nat.pow 10 (-exponent).toNat
  let step := r.den * Nat.pow 10 exponent.toNat
  let below := r.value * scale / step
  let remainder := r.value * scale % step
  let fits (c : Nat) : Prop := r.Contains (c * step) scale
  if fits (below + 1) ∧ (step ≤ 2 * remainder ∨ ¬ fits below) then some (below + 1)
  else if fits below then some below
  else none

/-- The grids of growing fineness, tried in turn. -/
def firstOnGrid (r : RoundingInterval) (exponent : Int) : Nat → Digits
  | 0 => ⟨0, exponent⟩
  | grids + 1 =>
    match r.onGrid? exponent with
    | some coefficient => ⟨coefficient, exponent⟩
    | none => r.firstOnGrid (exponent - 1) grids

end RoundingInterval

/-- The shortest decimal that reads back as a positive finite double.  Seventeen digits always
    suffice. -/
def Binary64.shortest (x : Binary64) : Digits :=
  let r := x.roundingInterval
  r.firstOnGrid r.leadingExponent 17

/-- The coefficient without its trailing zeros. -/
def Digits.strip : Digits → Nat → Digits
  | d, 0 => d
  | d, fuel + 1 =>
    if d.coefficient ≠ 0 ∧ d.coefficient % 10 = 0 then
      Digits.strip ⟨d.coefficient / 10, d.exponent + 1⟩ fuel
    else d

/-- Positional text: zeros are supplied on whichever side the point lies outside the digits. -/
def Digits.positional (d : Digits) : List Char :=
  let d := d.strip d.coefficient
  let digits := natDigits d.coefficient
  if 0 ≤ d.exponent then digits ++ List.replicate d.exponent.toNat '0'
  else
    let places := (-d.exponent).toNat
    let padded := List.replicate (places + 1 - digits.length) '0' ++ digits
    let whole := padded.length - places
    padded.take whole ++ '.' :: padded.drop whole

/-- The text of a double: shortest digits, no exponent, the sign of zero kept. -/
def Binary64.text (x : Binary64) : String :=
  let sign := if x.isNegative then ['-'] else []
  if x.isNaN then "NaN"
  else if x.isInfinite then String.ofList (sign ++ ['i', 'n', 'f'])
  else if x.magnitude = 0 then String.ofList (sign ++ ['0'])
  else String.ofList (sign ++ x.shortest.positional)

/-- The text of a script number: an integer of absolute value below `10 ^ 15` is written as an integer
    (so both zeros are `0`), any other number as a double. -/
def Binary64.format (x : Binary64) : String :=
  if x.isInteger && x.magnitude < 1000000000000000 * Binary64.one then intText x.truncate else x.text

/-! ## Reading doubles -/

/-- The amount of an exponent.  Once it has reached 65536 no further digit counts, so that it stays
    moderate however many digits there are. -/
def exponentAmount (digits : List Char) : Nat :=
  digits.foldl (fun amount c => if amount < 65536 then 10 * amount + (c.toNat - '0'.toNat) else amount) 0

/-- An exponent part: nothing at all, or a mark, an optional sign and digits up to the end. -/
def readExponent? : List Char → Option Int
  | [] => some 0
  | mark :: rest =>
    let (negative, digits) := splitSign rest
    if (mark = 'e' ∨ mark = 'E') ∧ !digits.isEmpty ∧ digits.all Char.isDigit then
      some (if negative then -(exponentAmount digits : Int) else exponentAmount digits)
    else none

/-- The double nearest to `coefficient * 10 ^ exponent`.  The power lies between those of 8 and 16 with
    the same exponent; where that settles the answer, the power is not computed. -/
def Binary64.ofDecimal (negative : Bool) (coefficient : Nat) (exponent : Int) : Binary64 :=
  if coefficient = 0 then .ofWord negative 0
  else
    let bits : Int := Nat.log2 coefficient
    if 1100 ≤ bits + min (3 * exponent) (4 * exponent) then .infinity negative
    else if bits + 1 + max (3 * exponent) (4 * exponent) ≤ -1100 then .ofWord negative 0
    else .ofQuotient negative (coefficient * Nat.pow 10 exponent.toNat * Binary64.one)
      (Nat.pow 10 (-exponent).toNat)

/-- Reads unsigned decimal text: digits with at most one point among them, at least one digit, then
    an optional exponent. -/
def readDecimal? (negative : Bool) (cs : List Char) : Option Binary64 :=
  let whole := cs.takeWhile Char.isDigit
  let afterWhole := cs.dropWhile Char.isDigit
  let (fraction, rest) := match afterWhole with
    | '.' :: tail => (tail.takeWhile Char.isDigit, tail.dropWhile Char.isDigit)
    | tail => ([], tail)
  if whole.isEmpty && fraction.isEmpty then none
  else (readExponent? rest).map fun exponent =>
    .ofDecimal negative (ofDigits (whole ++ fraction)) (exponent - fraction.length)

/-- Reads a double: an optional sign, then `inf`, `infinity` or `nan` in any case, or a decimal. -/
def readFloat? (cs : List Char) : Option Binary64 :=
  let (negative, rest) := splitSign cs
  let lower := String.ofList (rest.map Char.toLower)
  if lower = "inf" ∨ lower = "infinity" then some (.infinity negative)
  else if lower = "nan" then some .nan
  else readDecimal? negative rest

end ScriptHost
