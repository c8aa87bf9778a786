/-!
# UTF-8

Script strings are byte strings and host strings are text.  `utf8Encode` turns text into bytes.
`utf8Decode?` turns bytes into text if all of them are well formed, `utf8DecodeLossy` in any case:
each maximal initial part of a well-formed sequence that is cut short, and each byte that can start
none, becomes one replacement character.

Both decoders read one unit at a time through `Utf8.next`.
-/

namespace ScriptHost

/-- A byte string. -/
abbrev Bytes := List UInt8

def utf8Encode (s : String) : Bytes := s.toList.flatMap String.utf8EncodeChar

namespace Utf8

/-- What a lead byte announces: the bits it contributes, the continuation bytes that must follow, and
    the range of the first of them.  The narrowed ranges keep out overlong forms, surrogates and
    values past the last code point. -/
structure Lead where
  bits : Nat
  tail : Nat
  low : Nat
  high : Nat

def lead? (b : UInt8) : Option Lead :=
  let n := b.toNat
  if n < 0x80 then some ⟨n, 0, 0x80, 0xBF⟩
  else if n < 0xC2 then none
  else if n < 0xE0 then some ⟨n - 0xC0, 1, 0x80, 0xBF⟩
  else if n < 0xF0 then
    some ⟨n - 0xE0, 2, if n = 0xE0 then 0xA0 else 0x80, if n = 0xED then 0x9F else 0xBF⟩
  else if n < 0xF5 then
    some ⟨n - 0xF0, 3, if n = 0xF0 then 0x90 else 0x80, if n = 0xF4 then 0x8F else 0xBF⟩
  else none

/-- Reads the continuation bytes that a lead announces: the code point if all are there, and the
    number of bytes that belong to the sequence either way. -/
def continuation (bits : Nat) : (tail low high : Nat) → Bytes → Option Nat × Nat
  | 0, _, _, _ => (some bits, 0)
  | _ + 1, _, _, [] => (none, 0)
  | tail + 1, low, high, b :: rest =>
    if low ≤ b.toNat ∧ b.toNat ≤ high then
      let (code, used) := continuation (bits * 64 + (b.toNat - 0x80)) tail 0x80 0xBF rest
      (code, used + 1)
    else (none, 0)

/-- The first unit of a byte string with the given first byte: its character, if the unit is well
    formed, and the number of further bytes it takes. -/
def next (b : UInt8) (rest : Bytes) : Option Char × Nat :=
  match lead? b with
  | none => (none, 0)
  | some l =>
    let (code, used) := continuation l.bits l.tail l.low l.high rest
    (code.map Char.ofNat, used)

/-- The units of a byte string after its first `skip` bytes, `none` standing for an ill-formed one. -/
def units (skip : Nat) : Bytes → List (Option Char)
  | [] => []
  | b :: rest =>
    match skip with
    | skip + 1 => units skip rest
    | 0 => (next b rest).1 :: units (next b rest).2 rest

end Utf8

/-- The text of well-formed bytes. -/
def utf8Decode? (bs : Bytes) : Option String :=
  ((Utf8.units 0 bs).mapM id).map String.ofList

/-- The text of any bytes, ill-formed units replaced. -/
def utf8DecodeLossy (bs : Bytes) : String :=
  String.ofList ((Utf8.units 0 bs).map fun unit => unit.getD '\uFFFD')

end ScriptHost
