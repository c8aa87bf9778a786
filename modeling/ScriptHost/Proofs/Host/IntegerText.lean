import Mathlib.Data.List.TakeWhile
import ScriptHost.Proofs.Host.Integers
/-!
# Integers written as text

An integer is coerced to text by writing it, and a text to an integer by reading what is left of it
without the blanks at both ends.  `Numeral` is the language that is read: a sign, which may be missing,
and decimal digits.  It is larger than the language that is written, which has no plus and no leading
zeros, and reading gives back what was written (`numeral_intDigits`).

The value of a numeral is an integer of any size, and only those of 64-bit words are taken
(`integer_text_iff`).
-/

namespace ScriptHost

/-! ## Blanks at both ends -/

/-- The text is the core with blanks at both ends, and the core neither begins nor ends with one. -/
structure IsTrimmed (cs core : List Char) : Prop where
  around : ∃ before after, cs = before ++ (core ++ after) ∧
    (∀ c ∈ before, isBlank c = true) ∧ ∀ c ∈ after, isBlank c = true
  head : ∀ c, core.head? = some c → isBlank c = false
  last : ∀ c, core.getLast? = some c → isBlank c = false

section Trimming

variable {cs core before after rest : List Char}

theorem dropWhile_isBlank (blank : ∀ c ∈ before, isBlank c = true)
    (head : ∀ c, rest.head? = some c → isBlank c = false) :
    (before ++ rest).dropWhile isBlank = rest := by
  rw [List.dropWhile_append_of_pos blank]
  cases rest with
  | nil => rfl
  | cons c rest => exact List.dropWhile_cons_of_neg (by simp [head c rfl])

theorem isBlank_head_dropWhile (cs : List Char) (c : Char) (first : (cs.dropWhile isBlank).head? = some c) :
    isBlank c = false := by
  have found := List.head?_dropWhile_not isBlank cs
  rwa [first] at found

theorem IsTrimmed.trimBlanks_eq (trimmed : IsTrimmed cs core) : trimBlanks cs = core := by
  obtain ⟨⟨before, after, rfl, blankBefore, blankAfter⟩, head, last⟩ := trimmed
  have dropped : (after.reverse ++ core.reverse).dropWhile isBlank = core.reverse :=
    dropWhile_isBlank (by simpa using blankAfter) (by simpa using last)
  cases core with
  | nil =>
    -- Without a core there is nothing to tell the two ends apart.
    have all : ∀ c ∈ before ++ after, isBlank c = true := by
      simpa [or_imp, forall_and] using ⟨blankBefore, blankAfter⟩
    have none : (before ++ after).dropWhile isBlank = [] := List.dropWhile_eq_nil_iff.mpr all
    rw [trimBlanks, List.nil_append, none]
    rfl
  | cons c core =>
    rw [trimBlanks, dropWhile_isBlank blankBefore (by simpa using head), List.reverse_append, dropped,
      List.reverse_reverse]

theorem isTrimmed_trimBlanks (cs : List Char) : IsTrimmed cs (trimBlanks cs) := by
  have front := List.takeWhile_append_dropWhile (p := isBlank) (l := cs)
  have first := isBlank_head_dropWhile cs
  rw [trimBlanks]
  generalize cs.dropWhile isBlank = rest at front first
  have back := List.takeWhile_append_dropWhile (p := isBlank) (l := rest.reverse)
  have last := isBlank_head_dropWhile rest.reverse
  have blankAfter : ∀ c ∈ rest.reverse.takeWhile isBlank, isBlank c = true :=
    List.all_eq_true.mp List.all_takeWhile
  generalize rest.reverse.dropWhile isBlank = core at back last
  generalize rest.reverse.takeWhile isBlank = after at back blankAfter
  obtain rfl : rest = core.reverse ++ after.reverse := by
    rw [← List.reverse_append, back, List.reverse_reverse]
  refine ⟨⟨cs.takeWhile isBlank, after.reverse, front.symm, List.all_eq_true.mp List.all_takeWhile,
    by simpa using blankAfter⟩, fun c found => first c ?_, by simpa using last⟩
  rw [List.head?_append, found]
  rfl

end Trimming

/-! ## Numerals -/

/-- One or more decimal digits. -/
structure AreDigits (cs : List Char) : Prop where
  ne_nil : cs ≠ []
  digits : ∀ c ∈ cs, c.isDigit = true

/-- The number that digits denote, the first one having the greatest weight. -/
def decimalValue (digits : List Char) : Nat := Nat.ofDigitChars 10 digits 0

/-- The texts that denote integers: digits, which a sign may stand before. -/
inductive Numeral : List Char → Int → Prop where
  | unsigned {digits : List Char} (areDigits : AreDigits digits) : Numeral digits (decimalValue digits)
  | plus {digits : List Char} (areDigits : AreDigits digits) :
    Numeral ('+' :: digits) (decimalValue digits)
  | minus {digits : List Char} (areDigits : AreDigits digits) :
    Numeral ('-' :: digits) (-decimalValue digits)

section Numerals

variable {cs core digits before after : List Char} {z : Int}

theorem readInteger?_of_splitSign {negative : Bool} (split : splitSign cs = (negative, digits)) :
    readInteger? cs = some z ↔
      AreDigits digits ∧ z = if negative then -(decimalValue digits : Int) else decimalValue digits := by
  have digits_iff : (!digits.isEmpty && digits.all Char.isDigit) = true ↔ AreDigits digits := by
    simp only [Bool.and_eq_true, Bool.not_eq_true', List.isEmpty_eq_false_iff, List.all_eq_true]
    exact ⟨fun both => ⟨both.1, both.2⟩, fun areDigits => ⟨areDigits.ne_nil, areDigits.digits⟩⟩
  simp only [readInteger?, split, ofDigits_eq]
  by_cases areDigits : AreDigits digits
  · rw [if_pos (digits_iff.mpr areDigits)]
    simp [areDigits, decimalValue, eq_comm]
  · rw [if_neg (mt digits_iff.mp areDigits)]
    simp [areDigits]

theorem splitSign_cases (cs : List Char) :
    (∃ digits, cs = '-' :: digits ∧ splitSign cs = (true, digits)) ∨
      (∃ digits, cs = '+' :: digits ∧ splitSign cs = (false, digits)) ∨ splitSign cs = (false, cs) := by
  fun_cases splitSign cs with
  | case1 digits => exact .inl ⟨digits, rfl, rfl⟩
  | case2 digits => exact .inr (.inl ⟨digits, rfl, rfl⟩)
  | case3 => exact .inr (.inr rfl)

theorem splitSign_of_areDigits (areDigits : AreDigits digits) : splitSign digits = (false, digits) := by
  unfold splitSign
  split
  · exact absurd (areDigits.digits '-' List.mem_cons_self) (by decide)
  · exact absurd (areDigits.digits '+' List.mem_cons_self) (by decide)
  · rfl

/-- What is read are the numerals, as the integers that they denote. -/
theorem readInteger?_eq_some_iff : readInteger? cs = some z ↔ Numeral cs z := by
  constructor
  · intro read
    rcases splitSign_cases cs with ⟨digits, rfl, split⟩ | ⟨digits, rfl, split⟩ | split
    · obtain ⟨areDigits, rfl⟩ := (readInteger?_of_splitSign split).mp read
      exact .minus areDigits
    · obtain ⟨areDigits, rfl⟩ := (readInteger?_of_splitSign split).mp read
      exact .plus areDigits
    · obtain ⟨areDigits, rfl⟩ := (readInteger?_of_splitSign split).mp read
      exact .unsigned areDigits
  · intro numeral
    cases numeral with
    | unsigned areDigits => exact (readInteger?_of_splitSign (splitSign_of_areDigits areDigits)).mpr ⟨areDigits, rfl⟩
    | plus areDigits => exact (readInteger?_of_splitSign rfl).mpr ⟨areDigits, rfl⟩
    | minus areDigits => exact (readInteger?_of_splitSign rfl).mpr ⟨areDigits, rfl⟩

theorem areDigits_natDigits (n : Nat) : AreDigits (natDigits n) :=
  ⟨Nat.toDigits_ne_nil, fun _ => Nat.isDigit_of_mem_toDigits (by decide) (by decide)⟩

theorem decimalValue_natDigits (n : Nat) : decimalValue (natDigits n) = n :=
  Nat.ofDigitChars_toDigits (by decide) (by decide)

/-- What is written for an integer is a numeral, and denotes it. -/
theorem numeral_intDigits (z : Int) : Numeral (intDigits z) z := by
  have areDigits := areDigits_natDigits z.natAbs
  have value := decimalValue_natDigits z.natAbs
  rw [intDigits]
  split
  case isTrue negative =>
    have written := Numeral.minus areDigits
    have denoted : -(z.natAbs : Int) = z := by omega
    rwa [value, denoted] at written
  case isFalse nonnegative =>
    have written := Numeral.unsigned areDigits
    have denoted : (z.natAbs : Int) = z := by omega
    rwa [value, denoted] at written

theorem isBlank_of_isDigit {c : Char} (digit : c.isDigit = true) : isBlank c = false := by
  have bounds := Char.isDigit_iff_toNat.mp digit
  have low : '0'.toNat = 48 := rfl
  have high : '9'.toNat = 57 := rfl
  simp only [isBlank, blankRanges, List.any_cons, List.any_nil, Bool.or_false, Bool.or_eq_false_iff,
    Bool.and_eq_false_iff, decide_eq_false_iff_not]
  omega

theorem Numeral.isBlank_eq_false (numeral : Numeral cs z) {c : Char} (member : c ∈ cs) : isBlank c = false := by
  cases numeral with
  | unsigned areDigits => exact isBlank_of_isDigit (areDigits.digits c member)
  | plus areDigits =>
    rcases List.mem_cons.mp member with rfl | digit
    · decide
    · exact isBlank_of_isDigit (areDigits.digits c digit)
  | minus areDigits =>
    rcases List.mem_cons.mp member with rfl | digit
    · decide
    · exact isBlank_of_isDigit (areDigits.digits c digit)

/-- Blanks that are put around a numeral are those that are taken off. -/
theorem Numeral.isTrimmed (numeral : Numeral core z) (blankBefore : ∀ c ∈ before, isBlank c = true)
    (blankAfter : ∀ c ∈ after, isBlank c = true) : IsTrimmed (before ++ (core ++ after)) core where
  around := ⟨before, after, rfl, blankBefore, blankAfter⟩
  head _ found := numeral.isBlank_eq_false (List.mem_of_head? found)
  last _ found := numeral.isBlank_eq_false (List.mem_of_getLast? found)

end Numerals

/-! ## Coercion -/

namespace HostValue

theorem coerce?_int_string (n : Int64) : (int n).coerce? .string = some (str (intText n.toInt)) := rfl

theorem coerce?_str_int (s : String) :
    (str s).coerce? .int = ((readInteger? (trimBlanks s.toList)).bind int64?).map int := rfl

/-- A text is taken for an integer exactly if it is a numeral with blanks around it and the integer fits. -/
theorem coerce?_str_int_eq_some_iff {s : String} {v : HostValue} : (str s).coerce? .int = some v ↔
    ∃ core z n, IsTrimmed s.toList core ∧ Numeral core z ∧ FitsInt64 z ∧ n.toInt = z ∧ v = int n := by
  rw [coerce?_str_int]
  simp only [Option.map_eq_some_iff, Option.bind_eq_some_iff, readInteger?_eq_some_iff, int64?_eq_some_iff]
  constructor
  · rintro ⟨n, ⟨z, numeral, fits, value⟩, rfl⟩
    exact ⟨_, z, n, isTrimmed_trimBlanks _, numeral, fits, value, rfl⟩
  · rintro ⟨core, z, n, trimmed, numeral, fits, value, rfl⟩
    exact ⟨n, ⟨z, trimmed.trimBlanks_eq.symm ▸ numeral, fits, value⟩, rfl⟩

end HostValue

/-- An integer that is coerced to text and back, with any blanks put around the text, is itself.  A text is
    coerced to an integer exactly if, without the blanks at its ends, it is a sign or none and then digits,
    and the value of that lies in the range of 64-bit words; then it is that value. -/
theorem integer_text_iff :
    (∀ n : Int64, ∃ text, (HostValue.int n).coerce? .string = some (.str text) ∧
      ∀ before after : String, (∀ c ∈ before.toList, isBlank c = true) →
        (∀ c ∈ after.toList, isBlank c = true) →
        (HostValue.str (before ++ text ++ after)).coerce? .int = some (.int n)) ∧
    ∀ (s : String) (v : HostValue), (HostValue.str s).coerce? .int = some v ↔
      ∃ core z n, IsTrimmed s.toList core ∧ Numeral core z ∧
        (-9223372036854775808 ≤ z ∧ z < 9223372036854775808) ∧ n.toInt = z ∧ v = .int n := by
  refine ⟨fun n => ⟨intText n.toInt, HostValue.coerce?_int_string n, ?_⟩,
    fun s v => HostValue.coerce?_str_int_eq_some_iff⟩
  intro before after blankBefore blankAfter
  have numeral := numeral_intDigits n.toInt
  have trimmed := numeral.isTrimmed blankBefore blankAfter
  refine HostValue.coerce?_str_int_eq_some_iff.mpr
    ⟨_, n.toInt, n, ?_, numeral, fitsInt64_toInt n, rfl, rfl⟩
  simpa [intText, String.toList_append] using trimmed

/-- The least integer, whose absolute value does not fit, between an ideographic space and a line end. -/
theorem integer_text_iff_of_least :
    (∀ c ∈ "\u3000".toList, isBlank c = true) ∧ (∀ c ∈ "\n".toList, isBlank c = true) ∧
      (HostValue.str "\u3000-9223372036854775808\n").coerce? .int = some (.int Int64.minValue) := by
  have blankBefore : ∀ c ∈ "\u3000".toList, isBlank c = true := List.all_eq_true.mp (by decide)
  have blankAfter : ∀ c ∈ "\n".toList, isBlank c = true := List.all_eq_true.mp (by decide)
  obtain ⟨text, written, read⟩ := integer_text_iff.1 Int64.minValue
  cases (HostValue.coerce?_int_string Int64.minValue).symm.trans written
  have joined : "\u3000" ++ intText Int64.minValue.toInt ++ "\n" = "\u3000-9223372036854775808\n" := by
    decide +kernel
  exact ⟨blankBefore, blankAfter, joined ▸ read "\u3000" "\n" blankBefore blankAfter⟩

/-- One more than the greatest integer is refused. -/
example : (HostValue.str "9223372036854775808").coerce? .int = none := by rfl

end ScriptHost
