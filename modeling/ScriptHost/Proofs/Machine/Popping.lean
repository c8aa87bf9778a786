import ScriptHost.Proofs.Machine.Bases
/-!
# What popping leaves of a frame

To pop some values is to set the size of the frame to what should remain, and the size is given as an
index.  If there are fewer values than are to go, the index is negative, and is read as one from the top.
Then values remain where none should (`Machine.remaining`): popping one more than there are leaves all of
them (`Machine.pop_top_succ`).  Popping more than twice as many as there are empties the frame again.

`popping_leaves_lowest_iff` says for every state of a run, within whatever functions, when the values that
remain are those that should.  Those outside of the frame are never touched.
-/

namespace ScriptHost

open World

namespace Machine

/-- Of the current frame the lowest `n` slots are left as they were, and all that is not of the frame. -/
structure LeavesLowest (m : Machine) (n : Nat) (m' : Machine) : Prop where
  height : m'.height = m.base + n
  slots : ∀ slot < m.base + n, m'.stack[slot]? = m.stack[slot]?
  rest : m' = { m with stack := m'.stack }

/-- More values are to be popped than the frame has, but not more than twice as many. -/
def Overdraws (m : Machine) (count : Int) : Prop := m.top < count ∧ count ≤ 2 * m.top

instance (m : Machine) (count : Int) : Decidable (m.Overdraws count) := inferInstanceAs (Decidable (_ ∧ _))

/-- How many slots of the frame remain when that many values are popped. -/
def remaining (m : Machine) (count : Int) : Nat :=
  (if count ≤ m.top then m.top - count else 2 * m.top + 1 - count).toNat

variable {m m' : Machine} {n k : Nat} {count : Int}

namespace LeavesLowest

theorem unique (left : m.LeavesLowest n m') (left' : m.LeavesLowest k m') : n = k := by
  have same := left.height.symm.trans left'.height
  omega

/-- If all slots are left, nothing has changed. -/
theorem eq_self (all : m.base + n = m.height) (left : m.LeavesLowest n m') : m' = m := by
  have stack : m'.stack = m.stack := by
    refine Array.ext_getElem? fun slot => ?_
    by_cases inside : slot < m.base + n
    · exact left.slots slot inside
    · have outside : m.height ≤ slot := by omega
      have outside' : m'.height ≤ slot := by rw [left.height]; omega
      rw [Array.getElem?_eq_none outside, Array.getElem?_eq_none outside']
  rw [left.rest, stack]

/-- To set the size of the frame to one that is not greater is to cut it off there. -/
theorem of_setTop {i : Int} (height : (m.setTop i).height = m.base + n) (fits : m.base + n ≤ m.height) :
    m.LeavesLowest n (m.setTop i) where
  height
  slots slot below := by
    rw [Machine.height, setTop, size_resize] at height
    have missing : m.base + n - m.stack.size = 0 := Nat.sub_eq_zero_of_le fits
    simp only [setTop, height, resize, missing, Array.replicate_zero, Array.append_empty, getElem?_shrink,
      if_pos below]
  rest := rfl

end LeavesLowest

/-- What is left of the frame when values are popped, however many they are. -/
theorem leavesLowest_pop (addresses : m.AddressesFrame) (nonneg : 0 ≤ count) :
    m.LeavesLowest (m.remaining count) (m.pop count) := by
  have top := addresses.top
  have height := (addresses.setTop (m.top - count)).2
  have left : (m.remaining count : Int) = if count ≤ m.top then m.top - count else
      max (2 * m.top + 1 - count) 0 := by
    rw [remaining]
    split <;> omega
  -- The index is negative if the frame is overdrawn, and then counts from the top.
  refine .of_setTop ?_ ?_ <;> split at left <;> split at height <;> omega

/-- To pop one value more than there are is to pop none. -/
theorem pop_top_succ (addresses : m.AddressesFrame) (filled : 0 < m.top) : m.pop (m.top + 1) = m := by
  have top := addresses.top
  refine (leavesLowest_pop addresses (by omega)).eq_self ?_
  rw [remaining, if_neg (by omega)]
  omega

end Machine

/-- In every state of a run that began with nothing running, popping leaves the lowest slots of the frame,
    unchanged, and touches nothing else.  As many of them are left as the frame has beyond those popped, and
    none if it has fewer, if and only if the frame is not overdrawn. -/
theorem popping_leaves_lowest_iff {stop : Op → World → Bool} {start w : World}
    (idle : start.machine.frames = #[]) (attained : World.Attains stop start w) {count : Int}
    (nonneg : 0 ≤ count) :
    w.machine.LeavesLowest (w.machine.remaining count) (w.machine.pop count) ∧
      (w.machine.LeavesLowest (max (w.machine.top - count) 0).toNat (w.machine.pop count) ↔
        ¬ w.machine.Overdraws count) := by
  have addresses := (attained.keepsFrames (.of_idle idle)).1.addressesFrame
  have left := Machine.leavesLowest_pop addresses nonneg
  have exact_iff : w.machine.remaining count = (max (w.machine.top - count) 0).toNat ↔
      ¬ w.machine.Overdraws count := by
    rw [Machine.remaining, Machine.Overdraws]
    have top := addresses.top
    split <;> omega
  refine ⟨left, fun should => exact_iff.1 (left.unique should), fun within => ?_⟩
  rw [← exact_iff.2 within]
  exact left

/-- A function with two arguments pops more than these. -/
def poppingProbes : List Probe :=
  [.op (.pushBoolean true), .op (.pushFunction "outer" (.mk [.pop 3] none none true)),
    .op (.pushBoolean false), .op .pushNil, .op (.call 2 0)]

/-- The run, stopped before anything is popped. -/
def overdrawn : World := probed (fun op _ => decide (op.name = "pop")) (.start 2) poppingProbes

/-- Two of two values are left when three of them are to go, and none when five of them are. -/
theorem popping_leaves_lowest_iff_of_overdrawn :
    overdrawn.machine.base = 2 ∧ overdrawn.machine.top = 2 ∧
      overdrawn.machine.LeavesLowest 2 (overdrawn.machine.pop 3) ∧
      ¬ overdrawn.machine.LeavesLowest 0 (overdrawn.machine.pop 3) ∧
      overdrawn.machine.LeavesLowest 0 (overdrawn.machine.pop 5) := by
  have idle : (alone (.start 2)).machine.frames = #[] := rfl
  have attained : World.Attains _ (alone (.start 2)) overdrawn := attains_probed _ (.start 2) poppingProbes
  have top : overdrawn.machine.top = 2 := by decide +kernel
  have three := popping_leaves_lowest_iff idle attained (show (0 : Int) ≤ 3 by decide)
  have five := popping_leaves_lowest_iff idle attained (show (0 : Int) ≤ 5 by decide)
  simp only [Machine.remaining, Machine.Overdraws, top] at three five
  exact ⟨by decide +kernel, top, three.1, fun should => three.2.1 should (by decide), five.1⟩

end ScriptHost
