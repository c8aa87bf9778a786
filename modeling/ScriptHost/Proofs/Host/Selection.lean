import Mathlib.Order.Bounds.Image
import Mathlib.Order.Hom.Basic
import ScriptHost.Host.Overload
import ScriptHost.Proofs.Host.Coercion
/-!
# The candidate that is selected

Selection is described by the places of the candidates.  A candidate accepts arguments if it has as many
parameters and each argument can be coerced to the parameter at its place.  The search takes the least
place at which the arguments are accepted (`Selection.firstMatch?_eq_some_iff`); only when there is none
is it repeated without a trailing nil.  What a candidate that accepts neither list has for parameters is
never seen, so adding such candidates moves the others and does nothing else.
-/

namespace ScriptHost

namespace Selection

variable {params : List HostType} {cands more : List (List HostType)} {args given args' : List HostValue}

/-! ## Accepting arguments -/

/-- There are as many parameters as arguments, and every argument can be coerced to its parameter. -/
structure Accepts (params : List HostType) (args : List HostValue) : Prop where
  arity : args.length = params.length
  coerces (i : Nat) (t : HostType) (v : HostValue) : params[i]? = some t → args[i]? = some v →
    ∃ v', v.coerce? t = some v'

/-- As many values as there are parameters and arguments, each of them the coercion of the argument at its
    place. -/
structure IsCoercion (params : List HostType) (args args' : List HostValue) : Prop where
  arity : args.length = params.length
  length_eq : args'.length = params.length
  coerced (i : Nat) (t : HostType) (v : HostValue) : params[i]? = some t → args[i]? = some v →
    args'[i]? = v.coerce? t

theorem accepts_cons {t : HostType} {v : HostValue} :
    Accepts (t :: params) (v :: args) ↔ (∃ v', v.coerce? t = some v') ∧ Accepts params args := by
  constructor
  · rintro ⟨arity, coerces⟩
    exact ⟨coerces 0 t v rfl rfl, by simpa using arity, fun i => coerces (i + 1)⟩
  · rintro ⟨first, arity, coerces⟩
    refine ⟨by simpa using arity, fun i => ?_⟩
    cases i with
    | zero => simpa using first
    | succ i => exact coerces i

theorem isCoercion_cons {t : HostType} {v v' : HostValue} :
    IsCoercion (t :: params) (v :: args) (v' :: args') ↔
      v.coerce? t = some v' ∧ IsCoercion params args args' := by
  constructor
  · rintro ⟨arity, length_eq, coerced⟩
    exact ⟨(coerced 0 t v rfl rfl).symm, by simpa using arity, by simpa using length_eq,
      fun i => coerced (i + 1)⟩
  · rintro ⟨first, arity, length_eq, coerced⟩
    refine ⟨by simpa using arity, by simpa using length_eq, fun i => ?_⟩
    cases i with
    | zero => simpa using first.symm
    | succ i => exact coerced i

theorem coerceAll?_cons_eq_some_iff {t : HostType} {v : HostValue} :
    coerceAll? (t :: params) (v :: args) = some args' ↔
      ∃ v' rest, v.coerce? t = some v' ∧ coerceAll? params args = some rest ∧ v' :: rest = args' := by
  simp only [coerceAll?, Option.bind_eq_bind, Option.bind_eq_some_iff, Option.pure_def,
    Option.some.injEq]
  grind

theorem coerceAll?_eq_some_iff : coerceAll? params args = some args' ↔ IsCoercion params args args' := by
  -- The three lists are taken apart together; where one of them ends before the others, neither side holds.
  induction params generalizing args args' with
  | nil =>
    cases args with
    | nil =>
      constructor
      · intro coerced
        cases coerced
        exact ⟨rfl, rfl, by simp⟩
      · intro coercion
        rw [List.length_eq_zero_iff.mp coercion.length_eq]
        rfl
    | cons v args => exact iff_of_false (by simp [coerceAll?]) fun coercion => by simpa using coercion.arity
  | cons t params ih =>
    cases args with
    | nil => exact iff_of_false (by simp [coerceAll?]) fun coercion => by simpa using coercion.arity
    | cons v args =>
      rw [coerceAll?_cons_eq_some_iff]
      cases args' with
      | nil => exact iff_of_false (by simp) fun coercion => by simpa using coercion.length_eq
      | cons v' args' =>
        rw [isCoercion_cons, ← ih]
        simp

theorem accepts_iff : Accepts params args ↔ ∃ args', coerceAll? params args = some args' := by
  induction params generalizing args with
  | nil =>
    cases args with
    | nil => exact iff_of_true ⟨rfl, by simp⟩ ⟨[], rfl⟩
    | cons v args => exact iff_of_false (fun accepts => by simpa using accepts.arity) (by simp [coerceAll?])
  | cons t params ih =>
    cases args with
    | nil => exact iff_of_false (fun accepts => by simpa using accepts.arity) (by simp [coerceAll?])
    | cons v args =>
      rw [accepts_cons, ih]
      simp [coerceAll?_cons_eq_some_iff]

theorem coerceAll?_eq_none_iff : coerceAll? params args = none ↔ ¬ Accepts params args := by
  rw [accepts_iff, Option.eq_none_iff_forall_ne_some, not_exists]

theorem IsCoercion.accepts (coercion : IsCoercion params args args') : Accepts params args :=
  accepts_iff.mpr ⟨args', coerceAll?_eq_some_iff.mpr coercion⟩

theorem IsCoercion.coercedFrom (coercion : IsCoercion params given args') {i : Nat} {t : HostType}
    {v' : HostValue} (param : params[i]? = some t) (handed : args'[i]? = some v') :
    ∃ v, given[i]? = some v ∧ v.coerce? t = some v' := by
  have bound : i < given.length := coercion.arity ▸ (List.getElem?_eq_some_iff.mp param).1
  have arg := List.getElem?_eq_getElem bound
  exact ⟨given[i], arg, (coercion.coerced i t given[i] param arg).symm.trans handed⟩

/-- What is handed over is nil, is of the declared type, or is the argument itself if no primitive is asked
    for. -/
theorem IsCoercion.handed (coercion : IsCoercion params given args') {i : Nat} {t : HostType}
    {v' : HostValue} (param : params[i]? = some t) (handed : args'[i]? = some v') :
    v' = .nil ∨ t.matches v' = true ∨ t.isPrimitive = false ∧ given[i]? = some v' := by
  obtain ⟨v, arg, coerced⟩ := coercion.coercedFrom param handed
  cases HostValue.coerces_of_coerce? coerced with
  | unchanged passes =>
    rcases passes with matching | other | isNil
    · exact .inr (.inl matching)
    · exact .inr (.inr ⟨other, arg⟩)
    · exact .inl isNil
  | converted _ converted => exact .inr (.inl (HostValue.matches_of_toPrimitive? converted).2)

/-! ## The first that accepts -/

/-- The candidate at this place accepts the arguments. -/
def AcceptedAt (cands : List (List HostType)) (args : List HostValue) (i : Nat) : Prop :=
  ∃ params, cands[i]? = some params ∧ Accepts params args

theorem acceptedAt_zero : AcceptedAt (params :: cands) args 0 ↔ Accepts params args := by
  simp [AcceptedAt]

theorem acceptedAt_succ {i : Nat} : AcceptedAt (params :: cands) args (i + 1) ↔ AcceptedAt cands args i := by
  simp [AcceptedAt]

/-- The first candidate that accepts the arguments is at this place. -/
def IsFirst (cands : List (List HostType)) (args : List HostValue) (i : Nat) : Prop :=
  IsLeast {i | AcceptedAt cands args i} i

theorem isFirst_of_accepts {i : Nat} (accepts : Accepts params args) :
    IsFirst (params :: cands) args i ↔ i = 0 := by
  have atZero : AcceptedAt (params :: cands) args 0 := acceptedAt_zero.mpr accepts
  constructor
  · intro isFirst
    exact Nat.le_zero.mp (isFirst.2 atZero)
  · rintro rfl
    exact ⟨atZero, fun j _ => Nat.zero_le j⟩

theorem isFirst_of_not_accepts {i : Nat} (refuses : ¬ Accepts params args) :
    IsFirst (params :: cands) args i ↔ ∃ j, i = j + 1 ∧ IsFirst cands args j := by
  constructor
  · rintro ⟨accepted, least⟩
    cases i with
    | zero => exact absurd (acceptedAt_zero.mp accepted) refuses
    | succ i =>
      exact ⟨i, rfl, acceptedAt_succ.mp accepted,
        fun j acceptedAt => Nat.le_of_succ_le_succ (least (acceptedAt_succ.mpr acceptedAt))⟩
  · rintro ⟨j, rfl, accepted, least⟩
    refine ⟨acceptedAt_succ.mpr accepted, fun k acceptedAt => ?_⟩
    cases k with
    | zero => exact absurd (acceptedAt_zero.mp acceptedAt) refuses
    | succ k => exact Nat.succ_le_succ (least (acceptedAt_succ.mp acceptedAt))

theorem firstMatch?_eq_some_iff {k : Nat} {s : Selection} :
    firstMatch? args k cands = some s ↔
      ∃ i params, s.index = k + i ∧ IsFirst cands args i ∧ cands[i]? = some params ∧
        IsCoercion params args s.args := by
  -- The search counts on from `k`: what is at place `i` of the rest is at place `i + 1` of the list.
  induction cands generalizing k with
  | nil => simp [firstMatch?]
  | cons params cands ih =>
    rw [firstMatch?]
    cases coerced : coerceAll? params args with
    | some args' =>
      have coercion := coerceAll?_eq_some_iff.mp coerced
      simp only [isFirst_of_accepts coercion.accepts]
      constructor
      · intro found
        cases found
        exact ⟨0, params, rfl, rfl, rfl, coercion⟩
      · rintro ⟨i, _, index_eq, rfl, ⟨⟩, coercion'⟩
        rw [← coerceAll?_eq_some_iff, coerced] at coercion'
        cases s
        simp_all
    | none =>
      simp only [isFirst_of_not_accepts (coerceAll?_eq_none_iff.mp coerced), ih]
      constructor
      · rintro ⟨i, params', index_eq, isFirst, param, coercion⟩
        exact ⟨i + 1, params', by omega, ⟨i, rfl, isFirst⟩, param, coercion⟩
      · rintro ⟨_, params', index_eq, ⟨i, rfl, isFirst⟩, param, coercion⟩
        exact ⟨i, params', by omega, isFirst, param, coercion⟩

theorem firstMatch?_eq_none_iff {k : Nat} :
    firstMatch? args k cands = none ↔ ∀ i, ¬ AcceptedAt cands args i := by
  induction cands generalizing k with
  | nil => simp [firstMatch?, AcceptedAt]
  | cons params cands ih =>
    rw [firstMatch?]
    cases coerced : coerceAll? params args with
    | some args' =>
      have accepts := (coerceAll?_eq_some_iff.mp coerced).accepts
      exact iff_of_false (by simp) fun refused => refused 0 (acceptedAt_zero.mpr accepts)
    | none =>
      have refuses := coerceAll?_eq_none_iff.mp coerced
      rw [ih]
      constructor
      · intro refused i
        cases i with
        | zero => exact mt acceptedAt_zero.mp refuses
        | succ i => exact mt acceptedAt_succ.mp (refused i)
      · exact fun refused i => mt acceptedAt_succ.mpr (refused (i + 1))

/-- The selection is that of the first candidate which accepts the arguments, with the arguments coerced to
    its parameters. -/
def Picks (cands : List (List HostType)) (args : List HostValue) (s : Selection) : Prop :=
  IsFirst cands args s.index ∧ ∃ params, cands[s.index]? = some params ∧ IsCoercion params args s.args

theorem firstMatch?_zero_eq_some_iff {s : Selection} :
    firstMatch? args 0 cands = some s ↔ Picks cands args s := by
  rw [firstMatch?_eq_some_iff]
  constructor
  · rintro ⟨i, params, index_eq, isFirst, param, coercion⟩
    obtain rfl : s.index = i := by omega
    exact ⟨isFirst, params, param, coercion⟩
  · rintro ⟨isFirst, params, param, coercion⟩
    exact ⟨s.index, params, by omega, isFirst, param, coercion⟩

/-! ## The two phases -/

theorem dropTrailingNil?_eq_some_iff : dropTrailingNil? args = some given ↔ args = given ++ [.nil] := by
  rw [dropTrailingNil?]
  split
  · next isLast =>
    obtain ⟨start, rfl⟩ := List.getLast?_eq_some_iff.mp isLast
    simp
  · next otherLast =>
    refine iff_of_false (by simp) fun trailing => ?_
    rw [trailing] at otherLast
    exact otherLast (by simp)

/-- The arguments that a selection may be made for: all of them, or all but a trailing nil if no candidate
    accepts all of them. -/
inductive IsTried (cands : List (List HostType)) (args : List HostValue) : List HostValue → Prop where
  | all : IsTried cands args args
  | withoutNil (given : List HostValue) (refused : ∀ i, ¬ AcceptedAt cands args i)
    (trailing : args = given ++ [.nil]) : IsTried cands args given

variable {member : String}

theorem select_eq_ok {s : Selection} (tried : IsTried cands args given) (picks : Picks cands given s) :
    select member cands args = .ok s := by
  cases tried with
  | all => rw [select, firstMatch?_zero_eq_some_iff.mpr picks]
  | withoutNil given refused trailing =>
    simp only [select, firstMatch?_eq_none_iff.mpr refused, dropTrailingNil?_eq_some_iff.mpr trailing,
      Option.bind_some, firstMatch?_zero_eq_some_iff.mpr picks]

theorem select_eq_error (refused : ∀ given, IsTried cands args given → ∀ i, ¬ AcceptedAt cands given i) :
    select member cands args = .error (.noMatchingOverload member args.length) := by
  have allRefused := refused args .all
  rw [select, firstMatch?_eq_none_iff.mpr allRefused]
  cases dropped : dropTrailingNil? args with
  | none => rfl
  | some given =>
    have tried := IsTried.withoutNil given allRefused (dropTrailingNil?_eq_some_iff.mp dropped)
    simp only [Option.bind_some, firstMatch?_eq_none_iff.mpr (refused given tried)]

/-- Some candidate is picked for the arguments that are tried, or none of them is accepted. -/
theorem picks_or_refused (cands : List (List HostType)) (args : List HostValue) :
    (∃ given s, IsTried cands args given ∧ Picks cands given s) ∨
      ∀ given, IsTried cands args given → ∀ i, ¬ AcceptedAt cands given i := by
  by_cases accepted : ∃ given, IsTried cands args given ∧ ∃ i, AcceptedAt cands given i
  · obtain ⟨given, tried, i, acceptedAt⟩ := accepted
    cases found : firstMatch? given 0 cands with
    | none => exact absurd acceptedAt (firstMatch?_eq_none_iff.mp found i)
    | some s => exact .inl ⟨given, s, tried, firstMatch?_zero_eq_some_iff.mp found⟩
  · push Not at accepted
    exact .inr accepted

theorem select_eq_ok_iff {s : Selection} :
    select member cands args = .ok s ↔ ∃ given, IsTried cands args given ∧ Picks cands given s := by
  constructor
  · intro selected
    rcases picks_or_refused cands args with ⟨given, s', tried, picks⟩ | refused
    · cases (select_eq_ok tried picks).symm.trans selected
      exact ⟨given, tried, picks⟩
    · cases (select_eq_error refused).symm.trans selected
  · rintro ⟨given, tried, picks⟩
    exact select_eq_ok tried picks

theorem select_eq_error_iff {e : BridgeError} :
    select member cands args = .error e ↔
      e = .noMatchingOverload member args.length ∧
        ∀ given, IsTried cands args given → ∀ i, ¬ AcceptedAt cands given i := by
  constructor
  · intro failed
    rcases picks_or_refused cands args with ⟨given, s, tried, picks⟩ | refused
    · cases (select_eq_ok tried picks).symm.trans failed
    · cases (select_eq_error refused).symm.trans failed
      exact ⟨rfl, refused⟩
  · rintro ⟨rfl, refused⟩
    exact select_eq_error refused

/-! ## Candidates that accept nothing -/

/-- The arguments, or the arguments without a trailing nil. -/
def IsReading (args given : List HostValue) : Prop := given = args ∨ args = given ++ [.nil]

theorem IsTried.isReading (tried : IsTried cands args given) : IsReading args given := by
  cases tried with
  | all => exact .inl rfl
  | withoutNil _ _ trailing => exact .inr trailing

/-- A list of candidates with others inserted between them, none of which accepts the arguments with or
    without a trailing nil.  The candidate at place `i` has moved to `shift i`. -/
structure Inserted (args : List HostValue) (cands more : List (List HostType)) (shift : Nat ↪o Nat) :
    Prop where
  kept (i : Nat) : more[shift i]? = cands[i]?
  refuses (j : Nat) (params : List HostType) : more[j]? = some params → (∀ i, shift i ≠ j) →
    ∀ given, IsReading args given → ¬ Accepts params given

namespace Inserted

variable {shift : Nat ↪o Nat} (inserted : Inserted args cands more shift) (reading : IsReading args given)

include inserted reading

theorem acceptedAt_iff {j : Nat} :
    AcceptedAt more given j ↔ ∃ i, AcceptedAt cands given i ∧ shift i = j := by
  constructor
  · rintro ⟨params, param, accepts⟩
    by_cases isKept : ∃ i, shift i = j
    · obtain ⟨i, rfl⟩ := isKept
      exact ⟨i, ⟨params, inserted.kept i ▸ param, accepts⟩, rfl⟩
    · push Not at isKept
      exact absurd accepts (inserted.refuses j params param isKept given reading)
  · rintro ⟨i, ⟨params, param, accepts⟩, rfl⟩
    exact ⟨params, (inserted.kept i).trans param, accepts⟩

theorem refused_iff :
    (∀ j, ¬ AcceptedAt more given j) ↔ ∀ i, ¬ AcceptedAt cands given i := by
  simp [inserted.acceptedAt_iff reading]

theorem picks {s : Selection} (picks : Picks cands given s) :
    Picks more given ⟨shift s.index, s.args⟩ := by
  obtain ⟨isFirst, params, param, coercion⟩ := picks
  -- The order of the old candidates is kept, so the first of them is still the first.
  have image : {j | AcceptedAt more given j} = shift '' {i | AcceptedAt cands given i} :=
    Set.ext fun _ => inserted.acceptedAt_iff reading
  refine ⟨?_, params, (inserted.kept s.index).trans param, coercion⟩
  rw [IsFirst, image]
  exact shift.monotone.map_isLeast isFirst

omit reading

theorem isTried_iff : IsTried more args given ↔ IsTried cands args given := by
  have refused_iff := inserted.refused_iff (.inl rfl)
  constructor <;> intro tried
  · cases tried with
    | all => exact .all
    | withoutNil _ refused trailing => exact .withoutNil given (refused_iff.mp refused) trailing
  · cases tried with
    | all => exact .all
    | withoutNil _ refused trailing => exact .withoutNil given (refused_iff.mpr refused) trailing

end Inserted

/-- A selection takes the first candidate that accepts all arguments; if there is none and the last argument
    is nil, it takes the first that accepts the others.  The arguments are handed over one by one as they
    are coerced, so each is nil, is of the declared type, or is the one that was given if the type is no
    primitive.  If nobody accepts either list, the failure says how many arguments there were.  Candidates
    that accept neither list only move the others. -/
theorem select_first_that_accepts (member : String) (cands : List (List HostType))
    (args : List HostValue) :
    (∀ s, select member cands args = .ok s ↔
      ∃ given, IsTried cands args given ∧ Picks cands given s) ∧
    (∀ given s params, Picks cands given s → cands[s.index]? = some params →
      s.args.length = params.length ∧
      ∀ (i : Nat) (t : HostType) (v' : HostValue), params[i]? = some t → s.args[i]? = some v' →
        (∃ v, given[i]? = some v ∧ v.coerce? t = some v') ∧
        (v' = .nil ∨ t.matches v' = true ∨ t.isPrimitive = false ∧ given[i]? = some v')) ∧
    (∀ e, select member cands args = .error e ↔
      e = .noMatchingOverload member args.length ∧
        ∀ given, IsTried cands args given → ∀ i, ¬ AcceptedAt cands given i) ∧
    ∀ more shift, Inserted args cands more shift →
      select member more args =
        (select member cands args).map fun s => ⟨shift s.index, s.args⟩ := by
  refine ⟨fun s => select_eq_ok_iff, ?_, fun e => select_eq_error_iff, ?_⟩
  · intro given s params picks param
    obtain ⟨_, params', param', coercion⟩ := picks
    cases param'.symm.trans param
    exact ⟨coercion.length_eq, fun i t v' param handed =>
      ⟨coercion.coercedFrom param handed, coercion.handed param handed⟩⟩
  -- What is picked among the candidates is picked among more of them, at the place it was moved to.
  · intro more shift inserted
    rcases picks_or_refused cands args with ⟨given, s, tried, picks⟩ | refused
    · rw [select_eq_ok tried picks]
      exact select_eq_ok (inserted.isTried_iff.mpr tried) (inserted.picks tried.isReading picks)
    · rw [select_eq_error refused]
      exact select_eq_error fun given tried =>
        (inserted.refused_iff tried.isReading).mpr (refused given (inserted.isTried_iff.mp tried))

/-- Every other place. -/
def oddPlaces : Nat ↪o Nat :=
  OrderEmbedding.ofStrictMono (fun i => 2 * i + 1) fun i j less => by
    show 2 * i + 1 < 2 * j + 1
    omega

/-- The text of a number and a nil are handed over as a number, as only the last candidate takes them so.
    Two candidates that take neither both nor the text alone move it from the second place to the fourth. -/
theorem select_first_that_accepts_of_text :
    let args : List HostValue := [.str "7", .nil]
    let cands : List (List HostType) := [[.bool, .any], [.int]]
    let more : List (List HostType) := [[.bool], [.bool, .any], [.int, .int, .int], [.int]]
    Inserted args cands more oddPlaces ∧ select "Set" cands args = .ok ⟨1, [.int 7]⟩ ∧
      select "Set" more args = .ok ⟨3, [.int 7]⟩ := by
  intro args cands more
  -- The two candidates that were there have moved to the odd places.
  have kept (i : Nat) : more[oddPlaces i]? = cands[i]? := by
    rcases i with _ | _ | i <;> rfl
  have refuses (j : Nat) (params : List HostType) (param : more[j]? = some params)
      (new : ∀ i, oddPlaces i ≠ j) (given : List HostValue) (reading : IsReading args given) :
      ¬ Accepts params given := by
    have given_eq : given = args ∨ given = [.str "7"] := by
      refine reading.imp_right fun trailing => ?_
      cases (dropTrailingNil?_eq_some_iff.mpr trailing).symm.trans
        (rfl : dropTrailingNil? args = some [.str "7"])
      rfl
    rcases j with _ | _ | _ | _ | j
    · cases param
      rcases given_eq with rfl | rfl <;> exact coerceAll?_eq_none_iff.mp rfl
    · exact absurd rfl (new 0)
    · cases param
      rcases given_eq with rfl | rfl <;> exact coerceAll?_eq_none_iff.mp rfl
    · exact absurd rfl (new 1)
    · cases param
  have selected : select "Set" cands args = .ok ⟨1, [.int 7]⟩ := rfl
  obtain ⟨_, _, _, moved⟩ := select_first_that_accepts "Set" cands args
  refine ⟨⟨kept, refuses⟩, selected, ?_⟩
  rw [moved more oddPlaces ⟨kept, refuses⟩, selected]
  rfl

end Selection

end ScriptHost
