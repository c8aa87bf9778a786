import ScriptHost.Host.Conversion
/-!
# What coercion hands over

A coerced value is the value itself, or a number or text that matches the declared type (`Coerces`).
Either way it is let through unchanged when it is coerced again, and a representation reads the same
contents from it as from the value before (`Conversion.fromHost_of_coerce?`).
-/

namespace ScriptHost

namespace HostValue

variable {v v' : HostValue} {t : HostType}

/-! ## The cases of a coercion -/

/-- A type lets a value through as it is. -/
def Passes (t : HostType) (v : HostValue) : Prop :=
  t.matches v = true ∨ t.isPrimitive = false ∨ v = .nil

theorem isNil_iff : v.isNil = true ↔ v = .nil := by cases v <;> simp [isNil]

theorem passes_iff : (t.matches v || !t.isPrimitive || v.isNil) = true ↔ Passes t v := by
  simp [Passes, isNil_iff, or_assoc]

theorem Passes.coerce?_eq (passes : Passes t v) : v.coerce? t = some v := by
  rw [coerce?, if_pos (passes_iff.mpr passes)]

theorem coerce?_of_not_passes (stopped : ¬ Passes t v) : v.coerce? t = v.toPrimitive? t := by
  rw [coerce?, if_neg (mt passes_iff.mp stopped)]

/-- Numbers and text are converted for primitive types only, and give what matches them. -/
theorem matches_of_toPrimitive? (converted : v.toPrimitive? t = some v') :
    t.isPrimitive = true ∧ t.matches v' = true := by
  cases t <;> cases v <;> simp only [toPrimitive?, Option.map_eq_some_iff, reduceCtorEq] at converted
  all_goals
    obtain ⟨_, _, rfl⟩ := converted
    exact ⟨rfl, rfl⟩

theorem not_matches_nil (primitive : t.isPrimitive = true) : t.matches .nil = false := by
  cases t <;> simp_all [HostType.isPrimitive, HostType.matches]

/-- A coerced value matches the declared type, or is the value itself where the type lets it through. -/
inductive Coerces (t : HostType) (v : HostValue) : HostValue → Prop where
  | unchanged (passes : Passes t v) : Coerces t v v
  | converted {v' : HostValue} (stopped : ¬ Passes t v) (converted : v.toPrimitive? t = some v') :
    Coerces t v v'

theorem coerces_of_coerce? (coerced : v.coerce? t = some v') : Coerces t v v' := by
  by_cases passes : Passes t v
  · rw [passes.coerce?_eq] at coerced
    cases coerced
    exact .unchanged passes
  · rw [coerce?_of_not_passes passes] at coerced
    exact .converted passes coerced

theorem Coerces.passes (coerced : Coerces t v v') : Passes t v' := by
  cases coerced with
  | unchanged passes => exact passes
  | converted _ converted => exact .inl (matches_of_toPrimitive? converted).2

/-- A coerced value needs no further coercion. -/
theorem coerce?_again (coerced : v.coerce? t = some v') : v'.coerce? t = some v' :=
  (coerces_of_coerce? coerced).passes.coerce?_eq

theorem Coerces.isNil_eq (coerced : Coerces t v v') : v'.isNil = v.isNil := by
  cases coerced with
  | unchanged _ => rfl
  | converted stopped converted =>
    -- Nil always passes, so it was not converted, and nothing is converted to it.
    obtain ⟨primitive, matching⟩ := matches_of_toPrimitive? converted
    have wasValue : v ≠ .nil := fun isNil => stopped (.inr (.inr isNil))
    have isValue : v' ≠ .nil := by
      rintro rfl
      rw [not_matches_nil primitive] at matching
      cases matching
    rw [Bool.eq_iff_iff, isNil_iff, isNil_iff]
    exact iff_of_false isValue wasValue

theorem isNil_of_coerce?_eq_none (refused : v.coerce? t = none) : v.isNil = false := by
  cases isNil : v.isNil with
  | false => rfl
  | true =>
    have passes : Passes t v := .inr (.inr (isNil_iff.mp isNil))
    rw [passes.coerce?_eq] at refused
    cases refused

theorem coerceOrMismatch_eq_ok (coerced : v.coerce? t = some v') : v.coerceOrMismatch t = .ok v' := by
  rw [coerceOrMismatch, coerced]

theorem coerceOrMismatch_eq_error (refused : v.coerce? t = none) :
    v.coerceOrMismatch t = .error (.typeMismatch t.name v.typeName) := by
  rw [coerceOrMismatch, refused]

theorem coerceOrMismatch_again (coerced : v.coerce? t = some v') :
    v'.coerceOrMismatch t = v.coerceOrMismatch t := by
  rw [coerceOrMismatch_eq_ok coerced, coerceOrMismatch_eq_ok (coerce?_again coerced)]

end HostValue

/-! ## What a representation reads from a coerced value -/

namespace Conversion

open HostValue

variable {c : Conversion} {v v' : HostValue}

/-- The representations that read a number, a text or a truth value coerce it to the same type
    themselves; the others are declared with a type that lets every value through. -/
theorem fromHost_eq_of_coerce? (coerced : v.coerce? c.hostType = some v') :
    c.fromHost v' = c.fromHost v := by
  induction c with
  | int | single | double | bool | text =>
    have again := coerceOrMismatch_again coerced
    simp only [hostType] at again
    simp only [fromHost, intFromHost, floatFromHost, boolFromHost, textFromHost, again] <;> rfl
  | value | object | function =>
    cases coerces_of_coerce? coerced with
    | unchanged _ => rfl
    | converted stopped _ => exact absurd (.inr (.inl rfl)) stopped
  | optional c ih => simp only [fromHost, (coerces_of_coerce? coerced).isNil_eq, ih coerced]

theorem fromHost_eq_of_coerce?_eq_none (refused : v.coerce? c.hostType = none) :
    c.fromHost v = .error (.typeMismatch c.hostType.name v.typeName) := by
  induction c with
  | int | single | double | bool | text =>
    have mismatch := coerceOrMismatch_eq_error refused
    simp only [hostType] at mismatch
    simp only [fromHost, intFromHost, floatFromHost, boolFromHost, textFromHost, mismatch]
    rfl
  | value | object | function =>
    rw [hostType, Passes.coerce?_eq (.inr (.inl rfl))] at refused
    cases refused
  | optional c ih =>
    rw [fromHost, isNil_of_coerce?_eq_none refused, ih refused]
    rfl

end Conversion

end ScriptHost
