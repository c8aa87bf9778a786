import ScriptHost.Proofs.Machine.Displaying
/-!
# What slots are decoded to

A slot is decoded by its type, and a light word or a table by the token that it carries.  The token of a
table is looked up by way of the stack, and two pushes and a pop of two leave that as it was; so what is
found is a matter of the values alone (`Vm.run_readSlot`), and nothing is changed by looking.

Every reader makes its index absolute first and looks it up again.  It finds what is in the slot that the
index denotes, unless the index strays: then it should find nothing, and finds the value of another slot
(`reading_finds_slot_iff`).
-/

namespace ScriptHost

open World Machine

/-! ## Decoding by way of the stack -/

section Decoding

variable {m : Machine} {i : Int} {a : Nat} {t : Token}

theorem Machine.tokenOf?_eq_some : m.tokenOf? (.table a) = some t ↔ m.Carries a t :=
  ⟨carries_of_tokenOf?, Carries.tokenOf?_eq⟩

/-- What is found at an absolute index is found there again if that is made absolute once more. -/
theorem Machine.valueAt_absIndex_again {v : Value} (found : m.valueAt i = v) (something : v ≠ .nil) :
    m.valueAt (m.absIndex i) = v := by
  obtain ⟨slot, denotes⟩ := denotes_of_valueAt found something
  rw [valueAt_absIndex (not_strays_of_slotIndex? denotes), found]

theorem Machine.readSlot_eq (m : Machine) (i : Int) :
    m.readSlot i = m.decoded (m.absIndex i) (m.valueAt (m.absIndex i)) := by
  rw [readSlot]
  cases found : m.valueAt (m.absIndex i) with
  | light t =>
    have again := valueAt_absIndex_again found (by simp)
    simp only [handleOf?, again]
    rfl
  | table a =>
    have again := valueAt_absIndex_again found (by simp)
    simp only [handleOf?, again, decoded]
    cases m.tokenOf? (.table a) <;> rfl
  | _ => rfl

namespace Vm

variable (w : World) (i : Int)

/-- The token is looked up without a change to anything. -/
theorem run_handleOf : (handleOf i).run w = (.value (w.machine.handleOf? i), w) := by
  simp only [handleOf, Action.run_bind, run_askMachine, handleOf?]
  generalize w.machine.absIndex i = j
  cases found : w.machine.valueAt j with
  | table a =>
    obtain ⟨slot, denotes⟩ := denotes_of_valueAt found (by simp)
    have whole : w.machine.base ≤ w.machine.height := Nat.le_of_lt (base_lt_of_slotIndex? denotes)
    cases metatable : (w.machine.table a).metatable with
    | none => simp [getMetatable, metatableAt?, found, metatable, tokenOf?]
    | some b =>
      have pushed := getMetatable_of_table found metatable
      have field := rawField_push_table whole b "__handle"
      have fetched (v : Value) : ((w.machine.push (.table b)).push v).valueAt (-1) = v :=
        valueAt_top rfl ((Stacks.push (w := w) (.table b)).whole whole)
      simp [pushed, rawGet, field, fetched, pop_push_push whole, tokenOf?, metatable]
  | _ => rfl

/-- So is the value of a slot. -/
theorem run_readSlot : (readSlot i).run w = (.value (w.machine.readSlot i), w) := by
  have again := w.machine.readSlot_eq i
  simp only [readSlot, Action.run_bind, run_askMachine, again]
  cases found : w.machine.valueAt (w.machine.absIndex i) with
  | light t =>
    simp only [Action.run_bind, run_handleOf, handleOf?, valueAt_absIndex_again found (by simp), decoded]
    rfl
  | table a =>
    simp only [Action.run_bind, run_handleOf, handleOf?, valueAt_absIndex_again found (by simp), decoded]
    cases w.machine.tokenOf? (.table a) <;> rfl
  | _ => rfl

end Vm

end Decoding

/-! ## There and back -/

namespace Machine

/-- What is put on the stack for a decoded value. -/
def written (m : Machine) : SlotValue → Value
  | .nil => .nil
  | .bool b => .boolean b
  | .integer n => .number (.ofInt n.toInt)
  | .float x => .number x
  | .string bytes => .string bytes
  | .function (.slot i) => m.valueAt i
  | .function (.pinned r) => (m.referenced? r).getD .nil
  | .handle t => .light t

theorem writeSlot_eq (m : Machine) (v : SlotValue) : m.writeSlot v = m.push (m.written v) := by
  cases v with
  | function f =>
    cases f with
    | slot i => rfl
    | pinned r => rw [writeSlot, pushReference_eq, written]
  | _ => rfl

/-- What a value is decoded to again that was put on the stack: an integer as a number, and a function as
    the slot that it has now. -/
inductive ComesBackAs (m : Machine) : SlotValue → SlotValue → Prop where
  | nil : ComesBackAs m .nil .nil
  | bool (b : Bool) : ComesBackAs m (.bool b) (.bool b)
  | integer (n : Int64) : ComesBackAs m (.integer n) (.float (.ofInt n.toInt))
  | float (x : Binary64) : ComesBackAs m (.float x) (.float x)
  | string (bytes : Bytes) : ComesBackAs m (.string bytes) (.string bytes)
  | handle (t : Token) : ComesBackAs m (.handle t) (.handle t)
  | slot {i : Int} (isFunction : (m.valueAt i).isFunction = true) :
    ComesBackAs m (.function (.slot i)) (.function (.slot (m.top + 1)))
  | pinned {r : Nat} {f : Value} (kept : m.referenced? r = some f) (isFunction : f.isFunction = true) :
    ComesBackAs m (.function (.pinned r)) (.function (.slot (m.top + 1)))

variable {m : Machine} {u v : SlotValue} {i : Int}

theorem decoded_of_isFunction {f : Value} (isFunction : f.isFunction = true) :
    m.decoded i f = .function (.slot i) := by
  cases f with
  | function name code => rfl
  | _ => cases isFunction

theorem ComesBackAs.decoded_eq {m' : Machine} (back : m.ComesBackAs v u) :
    m'.decoded (m.top + 1) (m.written v) = u := by
  cases back with
  | slot isFunction => exact decoded_of_isFunction isFunction
  | pinned kept isFunction =>
    rw [written, kept]
    exact decoded_of_isFunction isFunction
  | _ => rfl

/-- The slot of a value that was pushed is found from the top and from the base. -/
theorem absIndex_of_pushed (whole : m.base ≤ m.height) {x : Value} (atTop : i = -1 ∨ i = m.top + 1) :
    (m.push x).absIndex i = m.top + 1 ∧ (m.push x).valueAt (m.top + 1) = x := by
  have top : (m.push x).IsTop x := isTop_push whole x
  have size : (m.push x).top = m.top + 1 := by
    have height : (m.push x).height = m.height + 1 := Array.size_push x
    have base : (m.push x).base = m.base := rfl
    simp only [Machine.top, frameSize, height, base]
    omega
  have last : (m.push x).absIndex (-1) = m.top + 1 := by
    rw [absIndex_of_nonpos (by decide), size]
    omega
  have found := top.valueAt_eq
  rw [last] at found
  refine ⟨?_, found⟩
  rcases atTop with rfl | rfl
  · exact last
  · have positive := top.absIndex_pos
    rw [last] at positive
    exact absIndex_of_pos positive

end Machine

/-- A decoded value is put in one new slot on top of the stack, and what is decoded from that slot again is
    the same value, but that integers come back as numbers and functions as their slot.  Decoding the value
    in any slot changes nothing at all.  A table is decoded to the token that its metatable holds as a light
    word under the reserved key, and to nil if it holds none there. -/
theorem slot_values_come_back {w : World} (whole : w.machine.base ≤ w.machine.height) :
    (∀ v, w.machine.writeSlot v = w.machine.push (w.machine.written v) ∧
      ∀ u, w.machine.ComesBackAs v u → ∀ i, i = -1 ∨ i = w.machine.top + 1 →
        (Vm.readSlot i).run { w with machine := w.machine.writeSlot v } =
          (.value u, { w with machine := w.machine.writeSlot v })) ∧
      ∀ i slot, w.machine.slotIndex? i = some slot →
        (Vm.readSlot i).run w = (.value (w.machine.decoded (w.machine.absIndex i) (w.machine.valueAt i)), w) ∧
          (Vm.handleOf i).run w = (.value (w.machine.tokenOf? (w.machine.valueAt i)), w) ∧
            ∀ a, w.machine.valueAt i = .table a →
              (∀ t, (Vm.handleOf i).run w = (.value (some t), w) ↔ w.machine.Carries a t) ∧
                (∀ t, (Vm.readSlot i).run w = (.value (.handle t), w) ↔ w.machine.Carries a t) ∧
                  ((Vm.readSlot i).run w = (.value .nil, w) ↔ ∀ t, ¬ w.machine.Carries a t) := by
  refine ⟨fun v => ⟨w.machine.writeSlot_eq v, fun u back i atTop => ?_⟩, fun i slot denotes => ?_⟩
  · obtain ⟨index, found⟩ := absIndex_of_pushed (x := w.machine.written v) whole atTop
    rw [Vm.run_readSlot, readSlot_eq]
    simp only [writeSlot_eq, index, found, back.decoded_eq]
  · have same := valueAt_absIndex (not_strays_of_slotIndex? denotes)
    have read : (Vm.readSlot i).run w =
        (.value (w.machine.decoded (w.machine.absIndex i) (w.machine.valueAt i)), w) := by
      rw [Vm.run_readSlot, readSlot_eq, same]
    have token : (Vm.handleOf i).run w = (.value (w.machine.tokenOf? (w.machine.valueAt i)), w) := by
      rw [Vm.run_handleOf, handleOf?, same]
    refine ⟨read, token, fun a found => ?_⟩
    rw [read, token, found]
    -- All three say which token the table carries, if any.
    simp only [← tokenOf?_eq_some, decoded]
    cases w.machine.tokenOf? (.table a) <;> simp

/-- On the stack is a proxy, and a function is pinned. -/
def proxyWorld : World :=
  { (default : World) with
    machine := { (default : Machine) with
      stack := #[.table 0]
      tables := #[⟨.empty, some 1⟩, Table.empty.set (utf8Encode "__handle") (.light ⟨1, 2, 9⟩)]
      registry := #[some (.function "f" .typeName)] } }

theorem slot_values_come_back_of_proxy :
    proxyWorld.machine.base ≤ proxyWorld.machine.height ∧ proxyWorld.machine.slotIndex? (-1) = some 0 ∧
      (Vm.readSlot (-1)).run proxyWorld = (.value (.handle ⟨1, 2, 9⟩), proxyWorld) ∧
      proxyWorld.machine.ComesBackAs (.function (.pinned 0)) (.function (.slot 2)) ∧
      (Vm.readSlot 2).run { proxyWorld with machine := proxyWorld.machine.writeSlot (.function (.pinned 0)) } =
        (.value (.function (.slot 2)),
          { proxyWorld with machine := proxyWorld.machine.writeSlot (.function (.pinned 0)) }) := by
  have whole : proxyWorld.machine.base ≤ proxyWorld.machine.height := by decide
  have denotes : proxyWorld.machine.slotIndex? (-1) = some 0 := by decide
  have carries : proxyWorld.machine.Carries 0 ⟨1, 2, 9⟩ := tokenOf?_eq_some.1 (by decide +kernel)
  have back : proxyWorld.machine.ComesBackAs (.function (.pinned 0)) (.function (.slot 2)) := .pinned rfl rfl
  obtain ⟨written, decoded⟩ := slot_values_come_back whole
  obtain ⟨-, -, tables⟩ := decoded (-1) 0 denotes
  exact ⟨whole, denotes, ((tables 0 rfl).2.1 _).2 carries, back, (written _).2 _ back 2 (.inr rfl)⟩

/-! ## Which slot is found -/

/-- What the host takes a decoded value as; functions are pinned and tokens resolved. -/
def Bridge.accept : SlotValue → Bridge HostValue
  | .nil => return .nil
  | .bool b => return .bool b
  | .integer n => return .int n
  | .float x => return .float x
  | .string bytes => return .str (utf8DecodeLossy bytes)
  | .function (.slot i) => pinFunction i
  | .function (.pinned r) => adoptFunction r
  | .handle t => resolve t

theorem Bridge.run_read_eq (w : World) (i : Int) :
    (read i).run w = (accept (w.machine.readSlot (w.machine.absIndex i))).run w := by
  simp only [read, Action.run_bind, run_askMachine]
  cases w.machine.readSlot (w.machine.absIndex i) with
  | function f => cases f <;> rfl
  | _ => rfl

/-- An index and its absolute one are decoded to the same, if they denote the same slot. -/
theorem Machine.readSlot_absIndex_of_straight {m : Machine} {i : Int} (straight : ¬ m.Strays i)
    (straight' : ¬ m.Strays (m.absIndex i)) :
    m.readSlot (m.absIndex i) = m.decoded (m.absIndex i) (m.valueAt i) := by
  rw [readSlot_eq, valueAt_absIndex straight', valueAt_absIndex straight]
  cases found : m.valueAt i with
  | function name code =>
    -- Only the slot of a function is remembered, and that is in the frame.
    obtain ⟨slot, denotes⟩ := denotes_of_valueAt found (by simp)
    rw [absIndex_of_pos (absIndex_pos_of_slotIndex? denotes)]
  | _ => rfl

/-- The slot that an index denotes is the one that its absolute index denotes, exactly unless it strays; and
    an absolute index stays as it is, exactly if it was made of one that does not lie below the frame.  So
    the readers find what is in the slot, and nil if there is none, for every index that does not stray; the
    host, which makes its index absolute twice, if the absolute index does not stray either.  For an index
    that strays there is no slot, and yet they decode what is in another one. -/
theorem reading_finds_slot_iff (w : World) (i : Int) :
    (w.machine.slotIndex? (w.machine.absIndex i) = w.machine.slotIndex? i ↔ ¬ w.machine.Strays i) ∧
      (w.machine.absIndex (w.machine.absIndex i) = w.machine.absIndex i ↔ -w.machine.top ≤ i) ∧
      (¬ w.machine.Strays i →
        w.machine.valueAt (w.machine.absIndex i) = w.machine.valueAt i ∧
        (Vm.readSlot i).run w = (.value (w.machine.decoded (w.machine.absIndex i) (w.machine.valueAt i)), w) ∧
        (Vm.handleOf i).run w = (.value (w.machine.tokenOf? (w.machine.valueAt i)), w) ∧
        (∀ c, (Vm.render c i).run w = (Vm.renderAs c (w.machine.valueAt i)).run w) ∧
        (¬ w.machine.Strays (w.machine.absIndex i) → (Bridge.read i).run w =
          (Bridge.accept (w.machine.decoded (w.machine.absIndex i) (w.machine.valueAt i))).run w)) ∧
      (w.machine.Strays i → w.machine.slotIndex? i = none ∧ w.machine.valueAt i = .nil ∧
        ∃ slot, w.machine.slotIndex? (w.machine.absIndex i) = some slot ∧
          (Vm.readSlot i).run w = (.value (w.machine.decoded (w.machine.absIndex i)
            (w.machine.valueAt (w.machine.absIndex i))), w) ∧
          (Vm.handleOf i).run w =
            (.value (w.machine.tokenOf? (w.machine.valueAt (w.machine.absIndex i))), w)) := by
  refine ⟨slotIndex?_absIndex_iff, absIndex_absIndex_iff, fun straight => ?_, fun strays => ?_⟩
  -- Where the index does not stray, the readers look where it points.
  · have same := valueAt_absIndex straight
    refine ⟨same, ?_, ?_, fun c => Vm.run_render straight, fun straight' => ?_⟩
    · rw [Vm.run_readSlot, readSlot_eq, same]
    · rw [Vm.run_handleOf, handleOf?, same]
    · rw [Bridge.run_read_eq, readSlot_absIndex_of_straight straight straight']
  -- Where it strays, they look in the slot that is denoted by what it was made into.
  · obtain ⟨slot, denotes⟩ := strays.exists_slot
    refine ⟨strays.slotIndex?_eq, valueAt_of_none strays.slotIndex?_eq, slot, denotes, ?_, ?_⟩
    · rw [Vm.run_readSlot, readSlot_eq]
    · rw [Vm.run_handleOf, handleOf?]

/-- A frame with a single value. -/
def singleWorld : World :=
  { (default : World) with machine := { (default : Machine) with stack := #[.boolean true] } }

/-- An index three below its top finds that value, and one two below finds nothing. -/
theorem reading_finds_slot_iff_of_single :
    singleWorld.machine.Strays (-3) ∧ singleWorld.machine.valueAt (-3) = .nil ∧
      (Vm.readSlot (-3)).run singleWorld = (.value (.bool true), singleWorld) ∧
      ¬ singleWorld.machine.Strays (-2) ∧
      (Vm.readSlot (-2)).run singleWorld = (.value .nil, singleWorld) := by
  have strays : singleWorld.machine.Strays (-3) := by decide
  have straight : ¬ singleWorld.machine.Strays (-2) := by decide
  obtain ⟨-, nothing, _, -, found, -⟩ := (reading_finds_slot_iff singleWorld (-3)).2.2.2 strays
  obtain ⟨-, blank, -⟩ := (reading_finds_slot_iff singleWorld (-2)).2.2.1 straight
  exact ⟨strays, nothing, found, straight, blank⟩

end ScriptHost
