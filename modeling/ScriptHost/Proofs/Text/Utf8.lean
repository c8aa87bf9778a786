import ScriptHost.Text.Utf8
/-!
# Decoding what was encoded

Text that is encoded is decoded again to the same text (`utf8DecodeLossy_encode`).  The bytes of a
character are read as one unit, and it takes all of them, so the next unit begins where the bytes of the
next character do.
-/

namespace ScriptHost

namespace Utf8

variable {n : Nat}

theorem toNat_byte (isByte : n < 256) : (UInt8.ofNat n).toNat = n := by
  rw [UInt8.toNat_ofNat']
  exact Nat.mod_eq_of_lt isByte

/-! ## Continuation bytes -/

/-- A continuation byte in range contributes its six bits. -/
theorem continuation_cons {bits tail low high : Nat} (rest : Bytes) (inRange : low ≤ n ∧ n ≤ high)
    (isByte : n < 256) : continuation bits (tail + 1) low high (UInt8.ofNat n :: rest) =
      ((continuation (bits * 64 + (n - 0x80)) tail 0x80 0xBF rest).1,
        (continuation (bits * 64 + (n - 0x80)) tail 0x80 0xBF rest).2 + 1) := by
  simp only [continuation, toNat_byte isByte, if_pos inRange]

/-- The byte for the lowest six bits of a number. -/
theorem continuation_one (bits n : Nat) (rest : Bytes) :
    continuation bits 1 0x80 0xBF (UInt8.ofNat (n % 64 + 128) :: rest) =
      (some (bits * 64 + n % 64), 1) := by
  rw [continuation_cons rest (by omega) (by omega)]
  simp [continuation]

/-- The bytes for the lowest twelve bits, the first of which may have a range of its own. -/
theorem continuation_two {low high : Nat} (bits n : Nat) (rest : Bytes)
    (inRange : low ≤ n / 64 % 64 + 128 ∧ n / 64 % 64 + 128 ≤ high) :
    continuation bits 2 low high
        (UInt8.ofNat (n / 64 % 64 + 128) :: UInt8.ofNat (n % 64 + 128) :: rest) =
      (some (bits * 4096 + n % 4096), 2) := by
  rw [continuation_cons _ inRange (by omega), continuation_one]
  simp only [Prod.mk.injEq, Option.some.injEq, and_true]
  omega

/-- The bytes for the lowest eighteen bits. -/
theorem continuation_three {low high : Nat} (bits n : Nat) (rest : Bytes)
    (inRange : low ≤ n / 4096 % 64 + 128 ∧ n / 4096 % 64 + 128 ≤ high) :
    continuation bits 3 low high
        (UInt8.ofNat (n / 4096 % 64 + 128) :: UInt8.ofNat (n / 64 % 64 + 128) ::
          UInt8.ofNat (n % 64 + 128) :: rest) =
      (some (bits * 262144 + n % 262144), 3) := by
  rw [continuation_cons _ inRange (by omega), continuation_two _ _ _ (by omega)]
  simp only [Prod.mk.injEq, Option.some.injEq, and_true]
  omega

/-! ## Units -/

/-- The unit of a byte that announces a lead, if the bytes after it complete the character. -/
theorem next_of_lead {l : Lead} {rest : Bytes} {c : Char} {used : Nat} {b : UInt8}
    (announced : lead? b = some l)
    (continued : continuation l.bits l.tail l.low l.high rest = (some c.toNat, used)) :
    next b rest = (some c, used) := by
  rw [next, announced]
  simp [continued, Char.ofNat_toNat]

variable {c : Char}

theorem next_of_one (c_le : c.toNat ≤ 0x7F) (rest : Bytes) :
    next (UInt8.ofNat c.toNat) rest = (some c, 0) := by
  have announced : lead? (UInt8.ofNat c.toNat) = some ⟨c.toNat, 0, 0x80, 0xBF⟩ := by
    rw [lead?, toNat_byte (by omega), if_pos (by omega)]
  exact next_of_lead announced rfl

theorem next_of_two (le_c : 0x7F < c.toNat) (c_le : c.toNat ≤ 0x7FF) (rest : Bytes) :
    next (UInt8.ofNat (c.toNat / 64 % 32 + 192)) (UInt8.ofNat (c.toNat % 64 + 128) :: rest) =
      (some c, 1) := by
  have announced : lead? (UInt8.ofNat (c.toNat / 64 % 32 + 192)) =
      some ⟨c.toNat / 64, 1, 0x80, 0xBF⟩ := by
    rw [lead?, toNat_byte (by omega), if_neg (by omega), if_neg (by omega), if_pos (by omega)]
    simp only [Option.some.injEq, Lead.mk.injEq, and_true]
    omega
  refine next_of_lead announced ((continuation_one _ _ _).trans ?_)
  simp only [Prod.mk.injEq, Option.some.injEq, and_true]
  omega

theorem next_of_three (le_c : 0x7FF < c.toNat) (c_le : c.toNat ≤ 0xFFFF) (rest : Bytes) :
    next (UInt8.ofNat (c.toNat / 4096 % 16 + 224)) (UInt8.ofNat (c.toNat / 64 % 64 + 128) ::
      UInt8.ofNat (c.toNat % 64 + 128) :: rest) = (some c, 2) := by
  have valid : c.toNat < 0xD800 ∨ 0xDFFF < c.toNat ∧ c.toNat < 0x110000 := c.valid
  have announced : lead? (UInt8.ofNat (c.toNat / 4096 % 16 + 224)) = some ⟨c.toNat / 4096, 2,
      if c.toNat / 4096 = 0 then 0xA0 else 0x80, if c.toNat / 4096 = 13 then 0x9F else 0xBF⟩ := by
    rw [lead?, toNat_byte (by omega), if_neg (by omega), if_neg (by omega), if_neg (by omega),
      if_pos (by omega)]
    have bits : c.toNat / 4096 % 16 + 224 - 0xE0 = c.toNat / 4096 := by omega
    have lowest : c.toNat / 4096 % 16 + 224 = 0xE0 ↔ c.toNat / 4096 = 0 := by omega
    have surrogates : c.toNat / 4096 % 16 + 224 = 0xED ↔ c.toNat / 4096 = 13 := by omega
    simp only [bits, lowest, surrogates]
  -- The narrowed ranges leave out overlong forms, which are not made, and surrogates, which are not
  -- characters.
  refine next_of_lead announced ((continuation_two _ _ _ ⟨?_, ?_⟩).trans ?_)
  · show (if c.toNat / 4096 = 0 then 0xA0 else 0x80) ≤ _
    split <;> omega
  · show _ ≤ (if c.toNat / 4096 = 13 then 0x9F else 0xBF)
    split <;> omega
  · simp only [Prod.mk.injEq, Option.some.injEq, and_true]
    omega

theorem next_of_four (le_c : 0xFFFF < c.toNat) (rest : Bytes) :
    next (UInt8.ofNat (c.toNat / 262144 % 8 + 240)) (UInt8.ofNat (c.toNat / 4096 % 64 + 128) ::
      UInt8.ofNat (c.toNat / 64 % 64 + 128) :: UInt8.ofNat (c.toNat % 64 + 128) :: rest) =
      (some c, 3) := by
  have valid : c.toNat < 0xD800 ∨ 0xDFFF < c.toNat ∧ c.toNat < 0x110000 := c.valid
  have announced : lead? (UInt8.ofNat (c.toNat / 262144 % 8 + 240)) = some ⟨c.toNat / 262144, 3,
      if c.toNat / 262144 = 0 then 0x90 else 0x80, if c.toNat / 262144 = 4 then 0x8F else 0xBF⟩ := by
    rw [lead?, toNat_byte (by omega), if_neg (by omega), if_neg (by omega), if_neg (by omega),
      if_neg (by omega), if_pos (by omega)]
    have bits : c.toNat / 262144 % 8 + 240 - 0xF0 = c.toNat / 262144 := by omega
    have lowest : c.toNat / 262144 % 8 + 240 = 0xF0 ↔ c.toNat / 262144 = 0 := by omega
    have highest : c.toNat / 262144 % 8 + 240 = 0xF4 ↔ c.toNat / 262144 = 4 := by omega
    simp only [bits, lowest, highest]
  refine next_of_lead announced ((continuation_three _ _ _ ⟨?_, ?_⟩).trans ?_)
  · show (if c.toNat / 262144 = 0 then 0x90 else 0x80) ≤ _
    split <;> omega
  · show _ ≤ (if c.toNat / 262144 = 4 then 0x8F else 0xBF)
    split <;> omega
  · simp only [Prod.mk.injEq, Option.some.injEq, and_true]
    omega

/-- The bytes of a character are one unit. -/
theorem next_encodeChar (c : Char) : ∃ b tail, String.utf8EncodeChar c = b :: tail ∧
    ∀ rest, next b (tail ++ rest) = (some c, tail.length) := by
  simp only [String.utf8EncodeChar, Char.toNat_val]
  split
  case isTrue one => exact ⟨_, _, rfl, next_of_one one⟩
  split
  case isTrue two => exact ⟨_, _, rfl, next_of_two (by omega) two⟩
  split
  case isTrue three => exact ⟨_, _, rfl, next_of_three (by omega) three⟩
  case isFalse four => exact ⟨_, _, rfl, next_of_four (by omega)⟩

theorem units_skip (taken rest : Bytes) : units taken.length (taken ++ rest) = units 0 rest := by
  induction taken with
  | nil => rfl
  | cons b taken ih => exact ih

theorem units_encode (cs : List Char) :
    units 0 (cs.flatMap String.utf8EncodeChar) = cs.map some := by
  induction cs with
  | nil => rfl
  | cons c cs ih =>
    obtain ⟨b, tail, encoded, isUnit⟩ := next_encodeChar c
    rw [List.flatMap_cons, encoded, List.cons_append, units, isUnit, units_skip, ih, List.map_cons]

end Utf8

/-- Text that was encoded is decoded to itself. -/
theorem utf8DecodeLossy_encode (s : String) : utf8DecodeLossy (utf8Encode s) = s := by
  rw [utf8DecodeLossy, utf8Encode, Utf8.units_encode, List.map_map]
  simp [Function.comp_def]

example : utf8DecodeLossy (utf8Encode "né𝄞") = "né𝄞" := by decide +kernel

theorem utf8Encode_inj {s s' : String} : utf8Encode s = utf8Encode s' ↔ s = s' := by
  refine ⟨fun same => ?_, congrArg utf8Encode⟩
  rw [← utf8DecodeLossy_encode s, same, utf8DecodeLossy_encode]

end ScriptHost
