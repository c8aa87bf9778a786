import ScriptHost.Proofs.Session.Calls
/-!
# Frames that begin one slot lower

A function that is called with one argument more in front of the others finds these one slot further up
in its frame.  Where the one function does at an index what the other one does at the next (or both count
from the top of the stack), the two runs go the same way, up to where the frame begins:
`Action.WidensTo` says so of a pair of actions, of which the first runs in the narrower frame.

Host code that works from the values it is handed makes no difference between the two frames.  What it
does is the discipline `widening`.
-/

namespace ScriptHost

open World Machine

/-! ## Machines with other frames -/

/-- The machine with other frames. -/
def Machine.reframed (frames : Array Nat) (m : Machine) : Machine := { m with frames }

def World.reframed (frames : Array Nat) (w : World) : World :=
  { w with machine := w.machine.reframed frames }

/-- The current frame, all of which is there, can be made one slot wider: as many functions are running,
    and the innermost frame begins one slot lower. -/
structure Machine.Widens (frames : Array Nat) (m : Machine) : Prop where
  base : frames.back?.getD 0 + 1 = m.base
  depth : frames.size = m.frames.size
  whole : m.base ≤ m.height

namespace Machine

variable {frames : Array Nat} {m : Machine} (wide : Widens frames m)

/-- A machine whose current frame is whole and not empty. -/
def IsFilled (m : Machine) : Prop := m.base < m.height

theorem isFilled_push (whole : m.base ≤ m.height) (v : Value) : (m.push v).IsFilled := by
  show m.base < (m.stack.push v).size
  rw [Array.size_push]
  exact Nat.lt_succ_of_le whole

include wide

theorem base_reframed : (m.reframed frames).base + 1 = m.base := wide.base

theorem top_reframed : (m.reframed frames).top = m.top + 1 := by
  have base := base_reframed wide
  have whole := wide.whole
  have height : (m.reframed frames).height = m.height := rfl
  rw [top, top, frameSize, frameSize, height]
  omega

/-- What lies in a slot of the narrow frame lies in the next one of the wide frame. -/
theorem slotIndex?_reframed {i : Int} (positive : 0 < i) :
    (m.reframed frames).slotIndex? (i + 1) = m.slotIndex? i := by
  have base := base_reframed wide
  have height : (m.reframed frames).height = m.height := rfl
  have same : (m.reframed frames).base + (i + 1).toNat - 1 = m.base + i.toNat - 1 := by omega
  rw [slotIndex?, slotIndex?, if_pos (by omega), if_pos positive, same, height]

theorem valueAt_reframed {i : Int} (positive : 0 < i) :
    (m.reframed frames).valueAt (i + 1) = m.valueAt i := by
  rw [valueAt, valueAt, slotIndex?_reframed wide positive]
  rfl

theorem valueAt_top_reframed (filled : m.IsFilled) : (m.reframed frames).valueAt (-1) = m.valueAt (-1) := by
  have base := base_reframed wide
  have height : (m.reframed frames).height = m.height := rfl
  have slot : (m.reframed frames).slotIndex? (-1) = m.slotIndex? (-1) := by
    have top_inside : Int.natAbs (-1) ≤ m.frameSize := Nat.sub_pos_of_lt filled
    have top_inside' : Int.natAbs (-1) ≤ (m.reframed frames).frameSize :=
      Nat.sub_pos_of_lt (show (m.reframed frames).base < m.height by rw [IsFilled] at filled; omega)
    rw [slotIndex?, slotIndex?, if_neg (by decide), if_pos (by decide), if_pos top_inside',
      if_neg (by decide), if_pos (by decide), if_pos top_inside, height]
  rw [valueAt, valueAt, slot]
  rfl

theorem setTop_reframed {i : Int} (notNegative : 0 ≤ i) :
    (m.reframed frames).setTop (i + 1) = (m.setTop i).reframed frames := by
  have base := base_reframed wide
  have height : ((m.reframed frames).base : Int) + (i + 1) = m.base + i := by omega
  simp only [setTop, if_pos notNegative, if_pos (Int.le_add_one notNegative), height]
  rfl

theorem pop_reframed (filled : m.IsFilled) : (m.reframed frames).pop 1 = (m.pop 1).reframed frames := by
  have notNegative : 0 ≤ m.top - 1 := by
    rw [IsFilled] at filled
    simp only [top, frameSize]
    omega
  have top : (m.reframed frames).top - 1 = m.top - 1 + 1 := by
    rw [top_reframed wide]
    omega
  rw [pop, top, setTop_reframed wide notNegative, pop]

theorem newProxy_reframed (t : Token) (typeName : String) :
    (m.reframed frames).newProxy t typeName = (m.newProxy t typeName).reframed frames := by
  have whole : (m.reframed frames).base ≤ (m.reframed frames).height := by
    have base := base_reframed wide
    have narrow := wide.whole
    show _ ≤ m.height
    omega
  rw [newProxy_eq whole, newProxy_eq wide.whole]
  rfl

/-- A call finds its function where it was. -/
theorem callee_reframed {argCount : Int} {slot : Nat} (found : m.calleeIndex? argCount = some slot) :
    (m.reframed frames).callee argCount = m.callee argCount := by
  have base := base_reframed wide
  have height : (m.reframed frames).height = m.height := rfl
  have found' : (m.reframed frames).calleeIndex? argCount = some slot := by
    rw [calleeIndex?, Option.ite_none_right_eq_some] at found
    rw [calleeIndex?, height, if_pos (by omega)]
    exact found.2
  have depth : (m.reframed frames).depth = m.depth := wide.depth
  have at_slot : (m.reframed frames).calleeAt slot = m.calleeAt slot := by
    simp only [calleeAt, depth]
    rfl
  simp only [callee, found, found', at_slot]
  rfl

omit wide

theorem reference_reframed {i j : Int} (same : (m.reframed frames).valueAt j = m.valueAt i) :
    (m.reframed frames).reference j = ((m.reference i).1, (m.reference i).2.reframed frames) := by
  have free : (m.reframed frames).freeReferences = m.freeReferences := rfl
  simp only [reference, same, free]
  cases m.freeReferences <;> rfl

theorem pushReference_reframed (r : Nat) :
    (m.reframed frames).pushReference r =
      ((m.pushReference r).1, (m.pushReference r).2.reframed frames) := by
  have same : (m.reframed frames).referenced? r = m.referenced? r := rfl
  simp only [pushReference, same]
  cases m.referenced? r <;> rfl

theorem releaseReference_reframed (r : Nat) :
    (m.reframed frames).releaseReference r = (m.releaseReference r).reframed frames := by
  have same : (m.reframed frames).referenced? r = m.referenced? r := rfl
  simp only [releaseReference, same]
  cases m.referenced? r <;> rfl

/-- The frames that a call found are given back, whichever they are. -/
theorem left_reframed {depth slot : Nat} {resultCount : Int} {isProtected : Bool}
    {outcome : Outcome String Nat} (ended : outcome ≠ .exhausted) :
    (m.reframed (frames.push (slot + 1))).left frames.size slot resultCount isProtected outcome =
      (m.left depth slot resultCount isProtected outcome).reframed frames := by
  have leave : ((m.reframed (frames.push (slot + 1))).leave frames.size) =
      (m.leave depth).reframed frames := by
    simp [Machine.leave, reframed]
  cases outcome with
  | value claimed =>
    rw [left, leave]
    rfl
  | failure text =>
    rw [left, leave]
    cases isProtected <;> rfl
  | exhausted => exact absurd rfl ended

/-- How the slot at an index from the base is decoded. -/
theorem readSlot_absIndex {i : Int} (positive : 0 < i) :
    m.readSlot (m.absIndex i) = m.decoded i (m.valueAt i) := by
  have index : m.absIndex i = i := if_pos positive
  simp only [readSlot, handleOf?, index]
  cases m.valueAt i with
  | light t => rfl
  | table a => cases carried : m.tokenOf? (.table a) <;> simp [decoded, carried]
  | _ => rfl

end Machine

/-- In frames of the same number that begin at the same slot an action goes the same way. -/
theorem KeepsToFrame.reframes {ε α : Type} {x : Action World ε α} {w w' : World} {outcome : Outcome ε α}
    (keeps : KeepsToFrame x w outcome w') (ran : x.run w = (outcome, w'))
    (whole : w.machine.base ≤ w.machine.height) {frames : Array Nat}
    (base : frames.back?.getD 0 = w.machine.base) (depth : frames.size = w.machine.frames.size) :
    x.run (w.reframed frames) = (outcome, w'.reframed frames) := by
  have onto_self {v : World} (base : v.machine.base = w.machine.base)
      (whole : v.machine.base ≤ v.machine.height)
      (bottom : v.machine.stack.extract 0 w.machine.base = w.machine.stack.extract 0 w.machine.base) :
      v.onto (w.machine.stack.extract 0 w.machine.base) frames = v.reframed frames := by
    rw [World.onto, Machine.onto, ← bottom, ← base, rebase_self whole]
    rfl
  have fits : Fits (w.machine.stack.extract 0 w.machine.base) frames w.machine :=
    ⟨base.trans (fits_self whole).base, depth, whole⟩
  have moved := keeps.moves _ _ fits
  rw [onto_self rfl whole rfl, onto_self keeps.base keeps.staysWhole (keeps.bottom ran whole)] at moved
  exact moved

/-- A pinned proxy is pushed; or there is none, and what was pushed for it is gone. -/
theorem Bridge.run_pushProxy {w : World} (whole : w.machine.base ≤ w.machine.height) (t : Token)
    (typeName : String) : (Bridge.pushProxy t typeName).run w =
      match (w.session.proxies.get? t).bind w.machine.referenced? with
      | some v => (.value (), { w with machine := w.machine.push v })
      | none => (Bridge.pinProxy t typeName).run w := by
  cases pinned : w.session.proxies.get? t with
  | none => simp [Bridge.pushProxy, Bridge.pushPinned, pinned]
  | some r =>
    cases kept : w.machine.referenced? r <;>
      simp [Bridge.pushProxy, Bridge.pushPinned, pinned, pushReference, kept, pop_push whole]

/-! ## Runs that end alike -/

namespace Action

variable {ε ε' α β : Type}

/-- The run is cut short, or the machine is closed after it. -/
def IsLost (ran : Outcome ε α × World) : Prop := ran.1 = .exhausted ∨ ran.2.machine.isClosed = true

theorem not_isLost_iff {outcome : Outcome ε α} {w : World} :
    ¬ IsLost (outcome, w) ↔ outcome ≠ .exhausted ∧ w.machine.isClosed = false := by
  rw [IsLost, not_or, Bool.not_eq_true]

theorem IsLost.of_outcome {ran : Outcome ε α × World} (lost : IsLost ran)
    {make : Outcome ε α → Outcome ε' β} (exhausted : make .exhausted = .exhausted) :
    IsLost (make ran.1, ran.2) :=
  lost.imp (fun same => (congrArg make same).trans exhausted) id

/-- What is lost stays lost. -/
theorem IsLost.seq {x : Action World ε α} {w : World} (lost : IsLost (x.run w)) {f : α → Action World ε β}
    (later : ∀ a, Isolated (f a)) : IsLost ((x >>= f).run w) := by
  rw [run_bind]
  rcases ran : x.run w with ⟨a | e | _, w₁⟩ <;> rw [ran] at lost
  · have closed : w₁.machine.isClosed = true := lost.resolve_left (by simp)
    exact .inr ((later a).isClosed (Prod.eta ((f a).run w₁)).symm closed)
  · exact .inr (lost.resolve_left (by simp))
  · exact .inl rfl

/-- Two runs end in the same way, in worlds of which the second is the first one moved; or both are
    lost. -/
inductive Alike (move : World → World) : Outcome ε α × World → Outcome ε α × World → Prop where
  | same (outcome : Outcome ε α) (w : World) : Alike move (outcome, w) (outcome, move w)
  | lost {ran ran' : Outcome ε α × World} : IsLost ran → IsLost ran' → Alike move ran ran'

theorem Alike.of_outcome {move : World → World} {ran ran' : Outcome ε α × World} (alike : Alike move ran ran')
    (make : Outcome ε α → Outcome ε' β) (exhausted : make .exhausted = .exhausted) :
    Alike move (make ran.1, ran.2) (make ran'.1, ran'.2) := by
  cases alike with
  | same => exact .same _ _
  | lost lost lost' => exact .lost (lost.of_outcome exhausted) (lost'.of_outcome exhausted)

theorem Alike.trans {move move' : World → World} {ran ran' ran'' : Outcome ε α × World}
    (first : Alike move ran ran') (second : Alike move' ran' ran'')
    (kept : ∀ w, (move w).machine.isClosed = w.machine.isClosed)
    (kept' : ∀ w, (move' w).machine.isClosed = w.machine.isClosed) :
    Alike (fun w => move' (move w)) ran ran'' := by
  cases first with
  | same outcome w =>
    cases second with
    | same => exact .same _ _
    | lost lost lost' => exact .lost (lost.imp_right (kept w).symm.trans) lost'
  | lost lost lost' =>
    cases second with
    | same outcome w => exact .lost lost (lost'.imp_right (kept' w).trans)
    | lost _ lost'' => exact .lost lost lost''

/-- An action that goes the same way here and there, if it is not lost, is lost here and there or nowhere. -/
theorem Alike.of_moves {x : Action World ε α} {w w' : World} {move : World → World} (back : World → World)
    (moves : ∀ outcome v, x.run w = (outcome, v) → ¬ IsLost (outcome, v) → x.run w' = (outcome, move v))
    (returns : ∀ outcome v, x.run w' = (outcome, v) → ¬ IsLost (outcome, v) → x.run w = (outcome, back v))
    (isClosed : ∀ v, (back v).machine.isClosed = v.machine.isClosed) : Alike move (x.run w) (x.run w') := by
  rcases ran : x.run w with ⟨outcome, v⟩
  rcases ran' : x.run w' with ⟨outcome', v'⟩
  by_cases lost : IsLost (outcome, v)
  · -- If the run there were kept, it would come back as one that is kept here.
    refine .lost lost (Classical.byContradiction fun kept => ?_)
    have returned := returns outcome' v' ran' kept
    rw [ran] at returned
    cases returned
    rw [IsLost, isClosed] at lost
    exact kept lost
  · have moved := moves outcome v ran lost
    rw [ran'] at moved
    cases moved
    exact .same _ _

end Action

namespace Isolated

open ScriptHost.Action

variable {ε α : Type} {x : Action World ε α} {w : World}

/-- An action that keeps to its frame goes alike in every frame that is moved. -/
theorem alike_onto (isolated : Isolated x) (whole : w.machine.base ≤ w.machine.height)
    {bottom : Array Value} {frames : Array Nat} (fits : Fits bottom frames w.machine) :
    Alike (·.onto bottom frames) (x.run w) (x.run (w.onto bottom frames)) := by
  have there : (w.onto bottom frames).machine.base = bottom.size := base_onto fits
  have whole' : (w.onto bottom frames).machine.base ≤ (w.onto bottom frames).machine.height := by
    have height : (w.onto bottom frames).machine.height = bottom.size + w.machine.frameSize :=
      height_onto w.machine
    omega
  have fits' : Fits (w.machine.stack.extract 0 w.machine.base) w.machine.frames (w.onto bottom frames).machine :=
    ⟨(fits_self whole).base, fits.depth.symm, whole'⟩
  have back : (w.onto bottom frames).onto (w.machine.stack.extract 0 w.machine.base) w.machine.frames = w :=
    congrArg (fun machine => ({ w with machine } : World)) (onto_back fits)
  refine .of_moves (·.onto (w.machine.stack.extract 0 w.machine.base) w.machine.frames)
    (fun outcome v ran kept => ?_) (fun outcome v ran kept => ?_) fun _ => rfl
  · rw [not_isLost_iff] at kept
    exact (isolated.keeps ran whole kept.1 kept.2).moves bottom frames fits
  · rw [not_isLost_iff] at kept
    have moved := (isolated.keeps ran whole' kept.1 kept.2).moves _ _ fits'
    rw [back] at moved
    exact moved

/-- It goes alike in all frames of the same number that begin at the same slot. -/
theorem alike_reframed (isolated : Isolated x) (whole : w.machine.base ≤ w.machine.height)
    {frames : Array Nat} (base : frames.back?.getD 0 = w.machine.base)
    (depth : frames.size = w.machine.frames.size) :
    Alike (·.reframed frames) (x.run w) (x.run (w.reframed frames)) := by
  refine .of_moves (·.reframed w.machine.frames) (fun outcome v ran kept => ?_)
    (fun outcome v ran kept => ?_) fun _ => rfl
  · rw [not_isLost_iff] at kept
    exact (isolated.keeps ran whole kept.1 kept.2).reframes ran whole base depth
  · rw [not_isLost_iff] at kept
    have whole' : (w.reframed frames).machine.base ≤ (w.reframed frames).machine.height :=
      Nat.le_trans (Nat.le_of_eq base) whole
    exact (isolated.keeps ran whole' kept.1 kept.2).reframes ran whole' base.symm depth.symm

end Isolated

/-! ## Actions in wider frames -/

namespace Action

variable {ε ε' α β : Type}

/-- In a frame that is one slot wider the second action goes as the first one does in the narrow frame,
    unless both are lost. -/
def WidensAt (x y : Action World ε α) (w : World) : Prop :=
  ∀ frames, Widens frames w.machine → Alike (·.reframed frames) (x.run w) (y.run (w.reframed frames))

/-- Both actions keep to their frames, and wherever these are the second one does in a wider one what the
    first does. -/
structure WidensTo (x y : Action World ε α) : Prop where
  narrow : Isolated x
  wide : Isolated y
  widens : ∀ w, x.WidensAt y w

namespace WidensAt

variable {x y : Action World ε α} {w : World}

theorem of_eq (same : ∀ frames, Widens frames w.machine →
    y.run (w.reframed frames) = ((x.run w).1, (x.run w).2.reframed frames)) : x.WidensAt y w := by
  intro frames wide
  rw [same frames wide]
  exact .same _ _

theorem seq {f g : α → Action World ε β} (isolated : Isolated x) (first : x.WidensAt y w)
    (later : ∀ a, Isolated (f a)) (later' : ∀ a, Isolated (g a))
    (second : ∀ a w₁, x.run w = (.value a, w₁) → w₁.machine.isClosed = false →
      KeepsToFrame x w (.value a) w₁ → (f a).WidensAt (g a) w₁) :
    (x >>= f).WidensAt (y >>= g) w := by
  intro frames wide
  have alike := first frames wide
  rcases ran₁ : x.run w with ⟨outcome, w₁⟩
  rcases ran₂ : y.run (w.reframed frames) with ⟨outcome', w₂⟩
  rw [ran₁, ran₂] at alike
  cases alike with
  | lost lost lost' => exact .lost (IsLost.seq (ran₁ ▸ lost) later) (IsLost.seq (ran₂ ▸ lost') later')
  | same =>
    rw [run_bind, run_bind, ran₁, ran₂]
    cases outcome with
    | value a =>
      cases isClosed : w₁.machine.isClosed with
      | true =>
        exact .lost (.inr ((later a).isClosed (Prod.eta _).symm isClosed))
          (.inr ((later' a).isClosed (Prod.eta _).symm isClosed))
      | false =>
        -- The first action gives its frame back, so the frame can still be made wider.
        have keeps := isolated.keeps ran₁ wide.whole (by simp) isClosed
        have wide₁ : Widens frames w₁.machine :=
          ⟨wide.base.trans keeps.base.symm, by rw [keeps.frames]; exact wide.depth, keeps.staysWhole⟩
        exact second a w₁ ran₁ isClosed keeps frames wide₁
    | failure e => exact .same _ _
    | exhausted => exact .same _ _

theorem of_outcome {x' y' : Action World ε' β} (widens : x.WidensAt y w)
    (make : Outcome ε α → Outcome ε' β) (exhausted : make .exhausted = .exhausted)
    (run_x : ∀ w, x'.run w = (make (x.run w).1, (x.run w).2))
    (run_y : ∀ w, y'.run w = (make (y.run w).1, (y.run w).2)) : x'.WidensAt y' w := by
  intro frames wide
  rw [run_x, run_y]
  exact (widens frames wide).of_outcome make exhausted

theorem of_whole (widens : w.machine.base ≤ w.machine.height → x.WidensAt y w) : x.WidensAt y w :=
  fun frames wide => widens wide.whole frames wide

theorem attempt (widens : x.WidensAt y w) :
    (Action.attempt x : Action World ε' (Except ε α)).WidensAt (Action.attempt y) w :=
  widens.of_outcome Outcome.attempted rfl (run_attempt_eq x) (run_attempt_eq y)

theorem reword (f : ε → ε') (widens : x.WidensAt y w) :
    (Action.mapFailure f x).WidensAt (Action.mapFailure f y) w :=
  widens.of_outcome (Outcome.reworded f) rfl (run_mapFailure_eq f x) (run_mapFailure_eq f y)

/-- What is asked of the machine may have another answer in the wider frame. -/
theorem look {γ δ : Type} {f : Machine → γ} {g : Machine → δ} {k : γ → Action World ε α}
    {l : δ → Action World ε α} {d : δ}
    (answer : ∀ frames, Widens frames w.machine → g (w.machine.reframed frames) = d)
    (widens : (k (f w.machine)).WidensAt (l d) w) :
    (World.askMachine f >>= k).WidensAt (World.askMachine g >>= l) w := by
  intro frames wide
  have asked : (World.askMachine g >>= l).run (w.reframed frames) = (l d).run (w.reframed frames) := by
    rw [run_bind, run_askMachine]
    show (l (g (w.machine.reframed frames))).run _ = _
    rw [answer frames wide]
  rw [asked]
  exact widens frames wide

theorem onMachine {f g : Machine → α × Machine}
    (same : ∀ frames, Widens frames w.machine →
      g (w.machine.reframed frames) = ((f w.machine).1, (f w.machine).2.reframed frames)) :
    (World.onMachine f : Action World ε α).WidensAt (World.onMachine g) w := by
  refine of_eq fun frames wide => ?_
  show (Outcome.value (g (w.machine.reframed frames)).1,
    ({ w with machine := (g (w.machine.reframed frames)).2 } : World)) = _
  rw [same frames wide]
  rfl

theorem changeMachine {f g : Machine → Machine}
    (same : ∀ frames, Widens frames w.machine →
      g (w.machine.reframed frames) = (f w.machine).reframed frames) :
    (World.changeMachine f : Action World ε Unit).WidensAt (World.changeMachine g) w :=
  onMachine (f := fun m => ((), f m)) (g := fun m => ((), g m)) fun frames wide => by
    rw [same frames wide]

theorem thenDo {f g : Machine → Machine} {k l : Unit → Action World ε β}
    (first : (World.changeMachine f : Action World ε Unit).WidensAt (World.changeMachine g) w)
    (relative : IsRelative fun m => ((), f m)) (later : ∀ a, Isolated (k a)) (later' : ∀ a, Isolated (l a))
    (second : (k ()).WidensAt (l ()) { w with machine := f w.machine }) :
    (World.changeMachine f >>= k).WidensAt (World.changeMachine g >>= l) w := by
  refine first.seq (.changeMachine relative) later later' fun _ w₁ ran₁ _ _ => ?_
  cases ran₁
  exact second

/-- A call runs the same function in the same frame. -/
theorem call {c : Caller} (bodies : ∀ code, Isolated (c.run code)) {argCount resultCount : Int}
    {isProtected : Bool} {slot : Nat} (found : w.machine.calleeIndex? argCount = some slot) :
    (Vm.call c argCount resultCount isProtected).WidensAt (Vm.call c argCount resultCount isProtected)
      w := by
  intro frames wide
  have callee : (w.reframed frames).machine.callee argCount = w.machine.callee argCount :=
    callee_reframed wide found
  rw [Vm.run_call, Vm.run_call, callee]
  cases target : w.machine.callee argCount with
  | missing e => exact .same _ _
  | refused slot e => cases isProtected <;> exact .same _ _
  | ready slot code =>
    obtain ⟨-, room⟩ := callee_bounds (m := w.machine) (by rw [target]; rfl)
    have base := Vm.base_entered w slot
    have whole : (Vm.entered w slot).machine.base ≤ (Vm.entered w slot).machine.height := by
      rw [base]
      exact room
    have depth : (frames.push (slot + 1)).size = (Vm.entered w slot).machine.frames.size := by
      show _ = (w.machine.frames.push (slot + 1)).size
      rw [Array.size_push, Array.size_push, wide.depth]
    -- The frame of the function begins at the same slot, though the one below it does not.
    have alike := (bodies code).alike_reframed whole (by rw [base, Array.back?_push, Option.getD_some]) depth
    have entered : Vm.entered (w.reframed frames) slot =
        (Vm.entered w slot).reframed (frames.push (slot + 1)) := rfl
    simp only [Vm.run_runFrame, entered]
    generalize (c.run code).run (Vm.entered w slot) = ran at *
    generalize (c.run code).run ((Vm.entered w slot).reframed (frames.push (slot + 1))) = ran' at *
    cases alike with
    | lost lost lost' =>
      exact .lost (lost.imp (congrArg Vm.outcomeOf) isClosed_left.trans)
        (lost'.imp (congrArg Vm.outcomeOf) isClosed_left.trans)
    | same outcome w₁ =>
      by_cases ended : outcome = .exhausted
      · rw [ended]
        exact .lost (.inl rfl) (.inl rfl)
      · have left : (w₁.machine.reframed (frames.push (slot + 1))).left frames.size slot resultCount
            isProtected outcome =
              (w₁.machine.left w.machine.depth slot resultCount isProtected outcome).reframed frames :=
          left_reframed ended
        show Alike _ _ (Vm.outcomeOf outcome, { w₁ with
          machine := (w₁.machine.reframed (frames.push (slot + 1))).left frames.size slot resultCount
            isProtected outcome })
        rw [left]
        exact .same _ _

end WidensAt

namespace WidensTo

variable {x y : Action World ε α}

theorem seq {f g : α → Action World ε β} (first : x.WidensTo y) (second : ∀ a, (f a).WidensTo (g a)) :
    (x >>= f).WidensTo (y >>= g) where
  narrow := first.narrow.seq fun a => (second a).narrow
  wide := first.wide.seq fun a => (second a).wide
  widens w := (first.widens w).seq first.narrow (fun a => (second a).narrow) (fun a => (second a).wide)
    fun a w₁ _ _ _ => (second a).widens w₁

theorem attempt (widens : x.WidensTo y) :
    (Action.attempt x : Action World ε' (Except ε α)).WidensTo (Action.attempt y) :=
  ⟨widens.narrow.attempt, widens.wide.attempt, fun w => (widens.widens w).attempt⟩

theorem reword (f : ε → ε') (widens : x.WidensTo y) :
    (Action.mapFailure f x).WidensTo (Action.mapFailure f y) :=
  ⟨widens.narrow.reword f, widens.wide.reword f, fun w => (widens.widens w).reword f⟩

/-- What looks at no machine does not depend on its frames. -/
theorem of_elsewhere (elsewhere : x.IsElsewhere) : x.WidensTo x where
  narrow := .of_elsewhere elsewhere
  wide := .of_elsewhere elsewhere
  widens w := .of_eq fun frames _ => by
    obtain ⟨kept, moved⟩ := elsewhere w (w.machine.reframed frames)
    show x.run { w with machine := w.machine.reframed frames } =
      ((x.run w).1, { (x.run w).2 with machine := (x.run w).2.machine.reframed frames })
    rw [kept]
    exact moved

theorem onMachine {f g : Machine → α × Machine} (relative : IsRelative f) (relative' : IsRelative g)
    (same : ∀ frames m, Widens frames m → g (m.reframed frames) = ((f m).1, (f m).2.reframed frames)) :
    (World.onMachine f : Action World ε α).WidensTo (World.onMachine g) :=
  ⟨.onMachine relative, .onMachine relative', fun w => .onMachine fun frames wide => same frames w.machine wide⟩

theorem changeMachine {f g : Machine → Machine} (relative : IsRelative fun m => ((), f m))
    (relative' : IsRelative fun m => ((), g m))
    (same : ∀ frames m, Widens frames m → g (m.reframed frames) = (f m).reframed frames) :
    (World.changeMachine f : Action World ε Unit).WidensTo (World.changeMachine g) :=
  ⟨.changeMachine relative, .changeMachine relative',
    fun w => .changeMachine fun frames wide => same frames w.machine wide⟩

theorem holding {x y : Bridge α} (isExclusive : Bool) (o : HostObject) (widens : x.WidensTo y) :
    (Bridge.holding isExclusive o x).WidensTo (Bridge.holding isExclusive o y) := by
  refine (of_elsewhere (.askHost _)).seq fun r => ?_
  cases r.borrow.admit? isExclusive with
  | none => exact of_elsewhere (.failure _)
  | some borrow =>
    exact (of_elsewhere (.changeHost _)).seq fun _ => widens.attempt.seq fun result =>
      (of_elsewhere (.changeHost _)).seq fun _ => of_elsewhere (.ofExcept result)

/-! ## Reading -/

theorem adoptFunction (reference : Nat) :
    (Bridge.adoptFunction reference).WidensTo (Bridge.adoptFunction reference) :=
  of_elsewhere ((IsElsewhere.changeSession _).seq fun _ => (IsElsewhere.onHost _).seq fun _ => .value _)

/-- What is read at an index is read at the next one of a wider frame. -/
theorem read {i : Int} (positive : 0 < i) : (Bridge.read i).WidensTo (Bridge.read (i + 1)) where
  narrow := .read i
  wide := .read (i + 1)
  widens w frames wide := by
    have value : (w.reframed frames).machine.valueAt (i + 1) = w.machine.valueAt i :=
      valueAt_reframed wide positive
    have slot : (w.reframed frames).machine.readSlot ((w.reframed frames).machine.absIndex (i + 1)) =
        w.machine.decoded (i + 1) (w.machine.valueAt i) := by
      rw [readSlot_absIndex (by omega), value]
      rfl
    have plain {x : Bridge HostValue} (elsewhere : x.IsElsewhere) :
        Alike (·.reframed frames) (x.run w) (x.run (w.reframed frames)) :=
      (of_elsewhere elsewhere).widens w frames wide
    simp only [Bridge.read, run_bind, run_askMachine, readSlot_absIndex positive, slot]
    cases found : w.machine.valueAt i with
    | function name code =>
      -- Only a function is read through its slot again, to pin it.
      have pinned : (Bridge.pinFunction i).WidensAt (Bridge.pinFunction (i + 1)) w :=
        (WidensAt.onMachine fun frames wide => reference_reframed (valueAt_reframed wide positive)).seq
          (.onMachine (isRelative_reference i)) (fun r => (adoptFunction r).narrow)
          (fun r => (adoptFunction r).wide) fun r w₁ _ _ _ => (adoptFunction r).widens w₁
      exact pinned frames wide
    | light t => exact plain ((IsElsewhere.askSession _).seq fun _ => .ofRules _)
    | table a =>
      simp only [decoded]
      cases carried : w.machine.tokenOf? (.table a) with
      | some t => exact plain ((IsElsewhere.askSession _).seq fun _ => .ofRules _)
      | none => exact plain (.value _)
    | _ => exact plain (.value _)

theorem readFrom {first : Int} (positive : 0 < first) (count : Nat) :
    (Bridge.readFrom first count).WidensTo (Bridge.readFrom (first + 1) count) := by
  induction count generalizing first with
  | zero => exact of_elsewhere (.value _)
  | succ count ih =>
    exact (read positive).seq fun v => (ih (by omega)).seq fun vs => of_elsewhere (.value _)

/-- All values of the frame are all but the first of a wider one. -/
theorem readArgs : (Bridge.readArgs 1).WidensTo (Bridge.readArgs 2) where
  narrow := Discipline.readArgs (D := isolation) 1
  wide := Discipline.readArgs (D := isolation) 2
  widens w := by
    refine .look (d := w.machine.top + 1) (fun frames wide => top_reframed wide) ?_
    have count : (w.machine.top + 1 - 2 + 1).toNat = (w.machine.top - 1 + 1).toNat :=
      congrArg Int.toNat (by omega)
    rw [count]
    exact (readFrom (by decide) _).widens w

/-! ## Pushing -/

theorem pinProxy (t : Token) (typeName : String) :
    (Bridge.pinProxy t typeName).WidensTo (Bridge.pinProxy t typeName) where
  narrow := .pinProxy t typeName
  wide := .pinProxy t typeName
  widens w := .of_whole fun whole => by
    have added := addsProxy_newProxy whole t typeName
    have filled : (w.machine.newProxy t typeName).IsFilled := by
      rw [IsFilled, Machine.base, added.frames, height, added.stack, Array.size_push]
      exact Nat.lt_succ_of_le whole
    have kept (r : Nat) : Action.IsElsewhere (World.changeSession fun s =>
        { s with proxies := s.proxies.insert t r } : Bridge Unit) := .changeSession _
    have made : (World.changeMachine (·.newProxy t typeName) : Bridge Unit).WidensAt
        (World.changeMachine (·.newProxy t typeName)) w :=
      .changeMachine fun frames wide => newProxy_reframed wide t typeName
    have pinned (m : Machine) (filled : m.IsFilled) :
        (World.onMachine (·.reference (-1)) : Bridge Nat).WidensAt (World.onMachine (·.reference (-1)))
          { w with machine := m } :=
      .onMachine fun frames wide => reference_reframed (valueAt_top_reframed wide filled)
    have later (_ : Unit) : Isolated (World.onMachine (·.reference (-1)) >>= fun r =>
        World.changeSession fun s => { s with proxies := s.proxies.insert t r } : Bridge Unit) :=
      (Isolated.onMachine (isRelative_reference (-1))).seq fun r => .of_elsewhere (kept r)
    refine made.thenDo (isRelative_newProxy t typeName) later later ?_
    exact (pinned _ filled).seq (.onMachine (isRelative_reference (-1))) (fun r => .of_elsewhere (kept r))
      (fun r => .of_elsewhere (kept r)) fun r w₂ _ _ _ => (of_elsewhere (kept r)).widens w₂

theorem pushProxy (t : Token) (typeName : String) :
    (Bridge.pushProxy t typeName).WidensTo (Bridge.pushProxy t typeName) where
  narrow := .pushProxy t typeName
  wide := .pushProxy t typeName
  widens w frames wide := by
    have whole : (w.reframed frames).machine.base ≤ (w.reframed frames).machine.height := by
      have base := base_reframed wide
      have narrow := wide.whole
      show (w.machine.reframed frames).base ≤ w.machine.height
      omega
    have same : ((w.reframed frames).session.proxies.get? t).bind (w.reframed frames).machine.referenced? =
        (w.session.proxies.get? t).bind w.machine.referenced? := rfl
    rw [Bridge.run_pushProxy wide.whole, Bridge.run_pushProxy whole, same]
    cases pinned : (w.session.proxies.get? t).bind w.machine.referenced? with
    | some v => exact .same _ _
    | none => exact (pinProxy t typeName).widens w frames wide

theorem pushValue (v : Value) :
    (World.changeMachine (·.push v) : Bridge Unit).WidensTo (World.changeMachine (·.push v)) :=
  changeMachine (isSteady_push (isQuery_const v)).toIsRelative
    (isSteady_push (isQuery_const v)).toIsRelative fun _ _ _ => rfl

theorem pushReference (r : Nat) :
    (World.onMachine (·.pushReference r) : Bridge Bool).WidensTo (World.onMachine (·.pushReference r)) :=
  onMachine (isSteady_pushReference r).toIsRelative (isSteady_pushReference r).toIsRelative
    fun _ _ _ => pushReference_reframed r

theorem push (v : HostValue) : (Bridge.push v).WidensTo (Bridge.push v) := by
  cases v with
  | object o => exact (of_elsewhere (.objectToken o)).seq fun t => pushProxy t _
  | surface s => exact (of_elsewhere (.surfaceToken s)).seq fun t => pushProxy t _
  | function number =>
    exact (of_elsewhere (.functionReference number)).seq fun r =>
      (pushReference r).seq fun _ => of_elsewhere (.value _)
  | nil => exact pushValue _
  | bool b => exact pushValue _
  | int n => exact pushValue _
  | float x => exact pushValue _
  | str s => exact pushValue _
  | callable f => exact pushValue _

/-- A frame that is cut back to a size is cut to one more if it is wider. -/
theorem setTop {size : Int} (notNegative : 0 ≤ size) :
    (World.changeMachine (·.setTop size) : Bridge Unit).WidensTo
      (World.changeMachine (·.setTop (size + 1))) :=
  changeMachine (isSteady_setTop size).toIsRelative (isSteady_setTop (size + 1)).toIsRelative
    fun _ _ wide => setTop_reframed wide notNegative

theorem pushAll {size : Int} (notNegative : 0 ≤ size) (vs : List HostValue) :
    (Bridge.pushAll size vs).WidensTo (Bridge.pushAll (size + 1) vs) := by
  induction vs with
  | nil => exact of_elsewhere (.value _)
  | cons v vs ih =>
    refine (push v).attempt.seq fun result => ?_
    cases result with
    | ok _ => exact ih
    | error r => exact (setTop notNegative).seq fun _ => of_elsewhere (.failure r)

theorem disposeFunction (number : Nat) :
    (Bridge.disposeFunction number).WidensTo (Bridge.disposeFunction number) :=
  (of_elsewhere (.functionReference number)).seq fun r => (of_elsewhere (.changeHost _)).seq fun _ =>
    (changeMachine (isRelative_releaseReference r) (isRelative_releaseReference r)
      fun _ _ _ => releaseReference_reframed r).seq fun _ => of_elsewhere (.changeSession _)

end WidensTo

end Action

end ScriptHost
