import ScriptHost.Script.Machine
/-!
# What lies below a frame

The slots below the current frame belong to the functions that wait for it to end.  `Machine.onto` moves
the frame on top of another stack, which may be higher or lower than the one it stood on.  A query that
answers the same wherever the frame stands does not read what lies below it (`IsQuery`), and an operation
that commutes with the move neither reads nor changes that (`IsRelative`).  Every operation of the
machine but closing is relative.

To put other values in the place of the lowest slots, in the same number, is to move the frame on top of
them (`onTopOf_eq_onto`); what commutes with that is local (`IsLocal`).  Most operations are moreover
steady: they change nothing but the stack and the globals, and at most add new tables.
-/

namespace ScriptHost

/-! ## Stacks with other bottoms -/

/-- A stack with its lowest slots replaced. -/
def splice (below stack : Array Value) : Array Value :=
  below ++ stack.extract below.size stack.size

/-- A stack with its `n` lowest slots replaced by others, fewer or more. -/
def rebase (n : Nat) (bottom stack : Array Value) : Array Value := bottom ++ stack.extract n stack.size

theorem getElem?_shrink (stack : Array Value) (n i : Nat) :
    (stack.shrink n)[i]? = if i < n then stack[i]? else none := by
  rw [Array.shrink_eq_take, Array.take_eq_extract, Array.getElem?_extract]
  by_cases kept : i < n
  · rw [if_pos kept]
    by_cases inside : i < stack.size
    · rw [if_pos (by omega), Nat.zero_add]
    · rw [if_neg (by omega), Array.getElem?_eq_none (by omega)]
  · rw [if_neg kept, if_neg (by omega)]

theorem size_resize {stack : Array Value} (n : Nat) : (Machine.resize n stack).size = n := by
  rw [Machine.resize, Array.size_append, Array.size_replicate, Array.size_shrink]
  omega

section Rebase

variable {n : Nat} {bottom stack : Array Value}

theorem size_rebase : (rebase n bottom stack).size = bottom.size + (stack.size - n) := by
  simp [rebase]

theorem getElem?_rebase (i : Nat) :
    (rebase n bottom stack)[i]? = if i < bottom.size then bottom[i]? else stack[n + (i - bottom.size)]? := by
  by_cases low : i < bottom.size
  · rw [if_pos low, rebase, Array.getElem?_append_left low]
  · rw [if_neg low, rebase, Array.getElem?_append_right (by omega), Array.getElem?_extract]
    by_cases inside : n + (i - bottom.size) < stack.size
    · rw [if_pos (by omega)]
    · rw [if_neg (by omega), Array.getElem?_eq_none (by omega)]

/-- The slots above the bottom are those that were above the lowest `n`. -/
theorem getElem?_rebase_above {i : Nat} (above : n ≤ i) :
    (rebase n bottom stack)[bottom.size + (i - n)]? = stack[i]? := by
  rw [getElem?_rebase, if_neg (by omega)]
  congr 1
  omega

theorem rebase_append (fits : n ≤ stack.size) (vs : Array Value) :
    rebase n bottom (stack ++ vs) = rebase n bottom stack ++ vs := by
  apply Array.ext_getElem?
  intro i
  simp only [getElem?_rebase, Array.getElem?_append, size_rebase]
  by_cases low : i < bottom.size
  · rw [if_pos low, if_pos low, if_pos (by omega)]
  · rw [if_neg low, if_neg low]
    by_cases inside : n + (i - bottom.size) < stack.size
    · rw [if_pos inside, if_pos (by omega)]
    · rw [if_neg inside, if_neg (by omega)]
      exact congrArg (vs[·]?) (by omega)

theorem rebase_push (fits : n ≤ stack.size) (v : Value) :
    rebase n bottom (stack.push v) = (rebase n bottom stack).push v := by
  rw [Array.push_eq_append, rebase_append fits, Array.push_eq_append]

theorem rebase_shrink {k : Nat} (above : n ≤ k) :
    rebase n bottom (stack.shrink k) = (rebase n bottom stack).shrink (bottom.size + (k - n)) := by
  apply Array.ext_getElem?
  intro i
  simp only [getElem?_shrink, getElem?_rebase]
  by_cases low : i < bottom.size
  · rw [if_pos low, if_pos low, if_pos (by omega)]
  · rw [if_neg low, if_neg low]
    by_cases kept : n + (i - bottom.size) < k
    · rw [if_pos kept, if_pos (by omega)]
    · rw [if_neg kept, if_neg (by omega)]

theorem rebase_pop (above : n < stack.size) :
    rebase n bottom stack.pop = (rebase n bottom stack).pop := by
  apply Array.ext_getElem?
  intro i
  simp only [Array.getElem?_pop, getElem?_rebase, size_rebase]
  by_cases low : i < bottom.size
  · rw [if_pos low, if_pos low, if_pos (by omega)]
  · rw [if_neg low, if_neg low]
    by_cases kept : n + (i - bottom.size) < stack.size - 1
    · rw [if_pos kept, if_pos (by omega)]
    · rw [if_neg kept, if_neg (by omega)]

/-- Above the bottom the same slots are cut out. -/
theorem extract_rebase {i j : Nat} (first : n ≤ i) (last : n ≤ j) :
    (rebase n bottom stack).extract (bottom.size + (i - n)) (bottom.size + (j - n)) = stack.extract i j := by
  apply Array.ext_getElem?
  intro k
  simp only [Array.getElem?_extract, getElem?_rebase, size_rebase]
  by_cases inside : k < min j stack.size - i
  · rw [if_pos inside, if_pos (by omega), if_neg (by omega)]
    exact congrArg (stack[·]?) (by omega)
  · rw [if_neg inside, if_neg (by omega)]

theorem rebase_resize (fits : n ≤ stack.size) {k : Nat} (above : n ≤ k) :
    rebase n bottom (Machine.resize k stack) =
      Machine.resize (bottom.size + (k - n)) (rebase n bottom stack) := by
  have kept : n ≤ (stack.shrink k).size := by
    rw [Array.size_shrink]
    omega
  have missing : k - stack.size = bottom.size + (k - n) - (bottom.size + (stack.size - n)) := by omega
  simp only [Machine.resize, rebase_append kept, rebase_shrink above, size_rebase, ← missing]

/-- The lowest slots are all that is replaced. -/
theorem rebase_of_size {below : Array Value} (size : below.size = n) (vs : Array Value) :
    rebase n bottom (below ++ vs) = bottom ++ vs := by
  subst size
  simp [rebase, Array.extract_append]

theorem rebase_self (fits : n ≤ stack.size) : rebase n (stack.extract 0 n) stack = stack := by
  simp [rebase, Array.extract_append_extract, fits]

theorem splice_extract (n : Nat) (stack : Array Value) : splice (stack.extract 0 n) stack = stack := by
  rw [splice, Array.size_extract, Nat.sub_zero]
  by_cases fits : n ≤ stack.size
  · rw [Nat.min_eq_left fits]
    exact rebase_self fits
  · rw [Nat.min_eq_right (by omega)]
    simp [Nat.le_of_not_le fits]

/-- To move only the slots above a higher one is to move all of the frame, if the slots between go along. -/
theorem rebase_bottom {k : Nat} {below : Array Value} (above : n ≤ k) (inside : k ≤ stack.size)
    (same : stack.extract 0 k = below.extract 0 k) :
    rebase k ((rebase n bottom below).extract 0 (bottom.size + (k - n))) stack = rebase n bottom stack := by
  have between : below.extract n k = stack.extract n k := by
    have cut := congrArg (Array.extract · n k) same
    simpa [Array.extract_extract] using cut.symm
  have low : (rebase n bottom below).extract 0 bottom.size = bottom := by
    simp [rebase, Array.extract_append]
  have high : (rebase n bottom below).extract bottom.size (bottom.size + (k - n)) = stack.extract n k := by
    have moved : (rebase n bottom below).extract (bottom.size + (n - n)) (bottom.size + (k - n)) =
        below.extract n k := extract_rebase (Nat.le_refl n) above
    rwa [Nat.sub_self, Nat.add_zero, between] at moved
  have slots : (rebase n bottom below).extract 0 (bottom.size + (k - n)) =
      bottom ++ stack.extract n k := by
    have joined : (rebase n bottom below).extract 0 bottom.size ++
        (rebase n bottom below).extract bottom.size (bottom.size + (k - n)) = _ :=
      Array.extract_append_extract
    rw [low, high, Nat.min_eq_left (Nat.zero_le _), Nat.max_eq_right (Nat.le_add_right _ _)] at joined
    exact joined.symm
  rw [slots, rebase, rebase, Array.append_assoc, Array.extract_append_extract, Nat.min_eq_left above,
    Nat.max_eq_right inside]

/-- To replace fewer slots by as many others is to replace all of them. -/
theorem splice_eq_rebase {below : Array Value} (fits : below.size ≤ n) (inside : n ≤ stack.size) :
    splice below stack = rebase n (splice below (stack.extract 0 n)) stack := by
  have middle : (stack.extract 0 n).extract below.size (stack.extract 0 n).size =
      stack.extract below.size n := by
    simp [Array.extract_extract, Nat.min_eq_left inside]
  have joined : stack.extract below.size n ++ stack.extract n stack.size =
      stack.extract below.size stack.size := by
    rw [Array.extract_append_extract, Nat.min_eq_left fits, Nat.max_eq_right inside]
  rw [rebase, splice, splice, Array.append_assoc, middle, joined]

theorem size_splice {below : Array Value} (fits : below.size ≤ n) (inside : n ≤ stack.size) :
    (splice below (stack.extract 0 n)).size = n := by
  simp only [splice, Array.size_append, Array.size_extract]
  omega

end Rebase

namespace Machine

/-- The machine with its current frame on top of another stack, and with other frames below. -/
def onto (bottom : Array Value) (frames : Array Nat) (m : Machine) : Machine :=
  { m with stack := rebase m.base bottom m.stack, frames }

/-- The current frame, all of which is there, can be moved there: as many functions are running, and the
    base is where the new bottom ends. -/
structure Fits (bottom : Array Value) (frames : Array Nat) (m : Machine) : Prop where
  base : frames.back?.getD 0 = bottom.size
  depth : frames.size = m.frames.size
  whole : m.base ≤ m.height

/-- The machine with the lowest slots of its stack replaced. -/
def onTopOf (below : Array Value) (m : Machine) : Machine :=
  { m with stack := splice below m.stack }

/-- The values have room below the current frame, all of which is there. -/
structure Under (below : Array Value) (m : Machine) : Prop where
  fits : below.size ≤ m.base
  whole : m.base ≤ m.height

section Moving

variable {below : Array Value} {m : Machine}

theorem onTopOf_eq_onto (under : Under below m) :
    m.onTopOf below = m.onto (splice below (m.stack.extract 0 m.base)) m.frames := by
  rw [onTopOf, onto, ← splice_eq_rebase under.fits under.whole]

theorem Under.fits_onto (under : Under below m) :
    Fits (splice below (m.stack.extract 0 m.base)) m.frames m where
  base := (size_splice under.fits under.whole).symm
  depth := rfl
  whole := under.whole

/-- The frame can stay where it is. -/
theorem onto_self (whole : m.base ≤ m.height) : m.onto (m.stack.extract 0 m.base) m.frames = m := by
  rw [onto, rebase_self whole]

theorem fits_self (whole : m.base ≤ m.height) : Fits (m.stack.extract 0 m.base) m.frames m where
  base := by
    have size : (m.stack.extract 0 m.base).size = m.base := by
      rw [height] at whole
      rw [Array.size_extract]
      omega
    exact size.symm
  depth := rfl
  whole := whole

/-- A frame that is moved can be moved back. -/
theorem onto_back {bottom : Array Value} {frames : Array Nat} (fits : Fits bottom frames m) :
    (m.onto bottom frames).onto (m.stack.extract 0 m.base) m.frames = m := by
  have stack : rebase (m.onto bottom frames).base (m.stack.extract 0 m.base)
      (rebase m.base bottom m.stack) = m.stack :=
    (rebase_of_size fits.base.symm _).trans (rebase_self fits.whole)
  simp only [onto] at stack ⊢
  rw [stack]

/-- A machine that is the same on top of the stack another one's frame stands on has that stack below. -/
theorem bottom_of_onto {m' : Machine} {frames : Array Nat} (whole : m.base ≤ m.height)
    (same : m'.onto (m.stack.extract 0 m.base) frames = m') :
    m'.stack.extract 0 m.base = m.stack.extract 0 m.base := by
  have size : (m.stack.extract 0 m.base).size = m.base := (fits_self whole).base.symm
  have stack : m'.stack = rebase m'.base (m.stack.extract 0 m.base) m'.stack :=
    congrArg Machine.stack same.symm
  rw [stack, rebase]
  simp [Array.extract_append, size]

end Moving

/-! ## Queries -/

/-- Nothing below the current frame is read, nor where it lies. -/
def IsQuery {α : Type} (f : Machine → α) : Prop :=
  ∀ (bottom : Array Value) (frames : Array Nat) {m : Machine}, Fits bottom frames m →
    f (m.onto bottom frames) = f m

section Queries

variable {bottom : Array Value} {frames : Array Nat} {m : Machine}

theorem base_onto (fits : Fits bottom frames m) : (m.onto bottom frames).base = bottom.size := fits.base

theorem height_onto (m : Machine) : (m.onto bottom frames).height = bottom.size + m.frameSize := size_rebase

theorem depth_onto (fits : Fits bottom frames m) : (m.onto bottom frames).depth = m.depth := fits.depth

theorem frameSize_onto (fits : Fits bottom frames m) : (m.onto bottom frames).frameSize = m.frameSize := by
  rw [frameSize, height_onto, base_onto fits, Nat.add_sub_cancel_left]

theorem top_onto (fits : Fits bottom frames m) : (m.onto bottom frames).top = m.top := by
  rw [top, frameSize_onto fits, top]

/-- An index denotes the slot as far above the new bottom as the one before was above the base. -/
theorem slotIndex?_onto (fits : Fits bottom frames m) (i : Int) :
    (m.onto bottom frames).slotIndex? i =
      (m.slotIndex? i).map fun slot => bottom.size + (slot - m.base) := by
  have whole := fits.whole
  have size : m.frameSize = m.height - m.base := rfl
  simp only [slotIndex?, base_onto fits, height_onto, frameSize_onto fits]
  by_cases positive : 0 < i
  · rw [if_pos positive, if_pos positive]
    by_cases inside : m.base + i.toNat - 1 < m.height
    · rw [if_pos inside, if_pos (by omega), Option.map_some]
      exact congrArg some (by omega)
    · rw [if_neg inside, if_neg (by omega), Option.map_none]
  · rw [if_neg positive, if_neg positive]
    by_cases negative : i < 0
    · rw [if_pos negative, if_pos negative]
      by_cases inside : i.natAbs ≤ m.frameSize
      · rw [if_pos inside, if_pos inside, Option.map_some]
        exact congrArg some (by omega)
      · rw [if_neg inside, if_neg inside, Option.map_none]
    · rw [if_neg negative, if_neg negative, Option.map_none]

/-- An index denotes a slot of the frame, if it denotes one. -/
theorem base_le_of_slotIndex? (whole : m.base ≤ m.height) {i : Int} {slot : Nat}
    (denotes : m.slotIndex? i = some slot) : m.base ≤ slot := by
  rw [slotIndex?] at denotes
  by_cases positive : 0 < i
  · simp only [positive, if_true, Option.ite_none_right_eq_some, Option.some.injEq] at denotes
    omega
  · rw [if_neg positive] at denotes
    by_cases negative : i < 0
    · rw [if_pos negative, Option.ite_none_right_eq_some, Option.some.injEq, frameSize] at denotes
      omega
    · rw [if_neg negative] at denotes
      cases denotes

theorem stack_onto {slot : Nat} (above : m.base ≤ slot) :
    (m.onto bottom frames).stack[bottom.size + (slot - m.base)]? = m.stack[slot]? :=
  getElem?_rebase_above above

theorem valueAt_onto (fits : Fits bottom frames m) (i : Int) :
    (m.onto bottom frames).valueAt i = m.valueAt i := by
  rw [valueAt, valueAt, slotIndex?_onto fits]
  cases denotes : m.slotIndex? i with
  | none => rfl
  | some slot =>
    have above := base_le_of_slotIndex? fits.whole denotes
    simp only [Option.map_some, Option.bind_some, stack_onto above]

theorem absIndex_onto (fits : Fits bottom frames m) (i : Int) :
    (m.onto bottom frames).absIndex i = m.absIndex i := by
  rw [absIndex, top_onto fits, absIndex]

theorem topmost_onto (fits : Fits bottom frames m) (n : Nat) :
    (m.onto bottom frames).topmost n = m.topmost n := by
  have whole := fits.whole
  have first : bottom.size + m.frameSize - min n m.frameSize =
      bottom.size + (m.height - min n m.frameSize - m.base) := by
    simp only [frameSize]
    omega
  have above : m.base ≤ m.height - min n m.frameSize := by
    simp only [frameSize]
    omega
  have same : (m.onto bottom frames).stack.extract (bottom.size + (m.height - min n m.frameSize - m.base))
      (bottom.size + m.frameSize) = m.stack.extract (m.height - min n m.frameSize) m.height :=
    extract_rebase above whole
  rw [topmost, height_onto, frameSize_onto fits, first, same, topmost]

theorem handleOf?_onto (fits : Fits bottom frames m) (i : Int) :
    (m.onto bottom frames).handleOf? i = m.handleOf? i := by
  rw [handleOf?, absIndex_onto fits, valueAt_onto fits, handleOf?]
  rfl

theorem readSlot_onto (fits : Fits bottom frames m) (i : Int) :
    (m.onto bottom frames).readSlot i = m.readSlot i := by
  simp only [readSlot, absIndex_onto fits, valueAt_onto fits, handleOf?_onto fits]

end Queries

/-- A function is always decoded to the slot it is in. -/
theorem readSlot_ne_pinned (m : Machine) (i : Int) (r : Nat) :
    m.readSlot i ≠ .function (.pinned r) := by
  simp only [readSlot]
  cases m.valueAt (m.absIndex i) with
  | light t => cases m.handleOf? (m.absIndex i) <;> simp
  | table address => cases m.handleOf? (m.absIndex i) <;> simp
  | _ => simp

theorem isFunction_of_readSlot {m : Machine} {i j : Int} (slot : m.readSlot i = .function (.slot j)) :
    (m.valueAt j).isFunction = true := by
  simp only [readSlot] at slot
  cases found : m.valueAt (m.absIndex i) with
  | function name code =>
    rw [found] at slot
    cases slot
    rw [found]
    rfl
  | light t => cases held : m.handleOf? (m.absIndex i) <;> simp [found, held] at slot
  | table address => cases held : m.handleOf? (m.absIndex i) <;> simp [found, held] at slot
  | _ => simp [found] at slot

/-! ## Operations -/

/-- Nothing below the current frame is read or changed, and the frames and their limit stay as they are. -/
structure IsLocal {α : Type} (f : Machine → α × Machine) : Prop where
  commutes : ∀ (below : Array Value) (m : Machine), Under below m →
    f (m.onTopOf below) = ((f m).1, (f m).2.onTopOf below)
  whole : ∀ m, m.base ≤ m.height → m.base ≤ (f m).2.height
  frames : ∀ m, (f m).2.frames = m.frames
  isClosed : ∀ m, (f m).2.isClosed = m.isClosed
  maxDepth : ∀ m, (f m).2.maxDepth = m.maxDepth

/-- Besides, no reference and no table that there is changes. -/
structure IsTame {α : Type} (f : Machine → α × Machine) : Prop extends IsLocal f where
  registry : ∀ m, (f m).2.registry = m.registry
  freeReferences : ∀ m, (f m).2.freeReferences = m.freeReferences
  table : ∀ m address, (f m).2.table address = m.table address

/-- The operation goes the same wherever the current frame lies, and leaves the frames and their limit as
    they are. -/
structure IsRelative {α : Type} (f : Machine → α × Machine) : Prop where
  moves : ∀ (bottom : Array Value) (frames : Array Nat) {m : Machine}, Fits bottom frames m →
    f (m.onto bottom frames) = ((f m).1, (f m).2.onto bottom frames)
  whole : ∀ m, m.base ≤ m.height → m.base ≤ (f m).2.height
  frames : ∀ m, (f m).2.frames = m.frames
  isClosed : ∀ m, (f m).2.isClosed = m.isClosed
  maxDepth : ∀ m, (f m).2.maxDepth = m.maxDepth

/-- Besides, no reference and no table that there is changes. -/
structure IsSteady {α : Type} (f : Machine → α × Machine) : Prop extends IsRelative f where
  registry : ∀ m, (f m).2.registry = m.registry
  freeReferences : ∀ m, (f m).2.freeReferences = m.freeReferences
  table : ∀ m address, (f m).2.table address = m.table address

theorem IsLocal.base {α : Type} {f : Machine → α × Machine} (isLocal : IsLocal f) (m : Machine) :
    (f m).2.base = m.base := by
  rw [Machine.base, Machine.base, isLocal.frames]

theorem IsLocal.staysWhole {α : Type} {f : Machine → α × Machine} (isLocal : IsLocal f) {m : Machine}
    (whole : m.base ≤ m.height) : (f m).2.base ≤ (f m).2.height := by
  rw [isLocal.base m]
  exact isLocal.whole m whole

namespace IsRelative

variable {α β : Type} {f : Machine → α × Machine}

theorem base (relative : IsRelative f) (m : Machine) : (f m).2.base = m.base := by
  rw [Machine.base, Machine.base, relative.frames]

theorem staysWhole (relative : IsRelative f) {m : Machine} (whole : m.base ≤ m.height) :
    (f m).2.base ≤ (f m).2.height := by
  rw [relative.base m]
  exact relative.whole m whole

theorem staysFit (relative : IsRelative f) {bottom : Array Value} {frames : Array Nat} {m : Machine}
    (fits : Fits bottom frames m) : Fits bottom frames (f m).2 :=
  ⟨fits.base, by rw [relative.frames]; exact fits.depth, relative.staysWhole fits.whole⟩

/-- The frame is not moved, so what lies below it stays. -/
theorem bottom (relative : IsRelative f) {m : Machine} (whole : m.base ≤ m.height) :
    (f m).2.stack.extract 0 m.base = m.stack.extract 0 m.base := by
  have moved := relative.moves _ _ (fits_self whole)
  rw [onto_self whole] at moved
  exact bottom_of_onto whole (congrArg Prod.snd moved).symm

theorem isLocal (relative : IsRelative f) : IsLocal f where
  commutes below m under := by
    have under' : Under below (f m).2 :=
      ⟨by rw [relative.base]; exact under.fits, relative.staysWhole under.whole⟩
    rw [onTopOf_eq_onto under, relative.moves _ _ under.fits_onto, onTopOf_eq_onto under',
      relative.base, relative.bottom under.whole, relative.frames]
  whole := relative.whole
  frames := relative.frames
  isClosed := relative.isClosed
  maxDepth := relative.maxDepth

theorem mapAnswer (relative : IsRelative f) (g : α → β) : IsRelative fun m => (g (f m).1, (f m).2) where
  moves bottom frames m fits := by rw [relative.moves bottom frames fits]
  whole := relative.whole
  frames := relative.frames
  isClosed := relative.isClosed
  maxDepth := relative.maxDepth

theorem seq {f : Machine → Machine} {g : Machine → α × Machine}
    (first : IsRelative fun m => ((), f m)) (second : IsRelative g) : IsRelative fun m => g (f m) where
  moves bottom frames m fits := by
    have moves : f (m.onto bottom frames) = (f m).onto bottom frames :=
      congrArg Prod.snd (first.moves bottom frames fits)
    rw [moves, second.moves bottom frames (first.staysFit fits)]
  whole m whole := by
    have base := first.base m
    rw [← base]
    exact second.whole (f m) (first.staysWhole whole)
  frames m := (second.frames (f m)).trans (first.frames m)
  isClosed m := (second.isClosed (f m)).trans (first.isClosed m)
  maxDepth m := (second.maxDepth (f m)).trans (first.maxDepth m)

end IsRelative

namespace IsSteady

variable {α β : Type} {f : Machine → α × Machine}

theorem isTame (steady : IsSteady f) : IsTame f where
  toIsLocal := steady.isLocal
  registry := steady.registry
  freeReferences := steady.freeReferences
  table := steady.table

theorem mapAnswer (steady : IsSteady f) (g : α → β) : IsSteady fun m => (g (f m).1, (f m).2) where
  toIsRelative := steady.toIsRelative.mapAnswer g
  registry := steady.registry
  freeReferences := steady.freeReferences
  table := steady.table

theorem seq {f : Machine → Machine} {g : Machine → α × Machine}
    (first : IsSteady fun m => ((), f m)) (second : IsSteady g) : IsSteady fun m => g (f m) where
  toIsRelative := first.toIsRelative.seq second.toIsRelative
  registry m := (second.registry (f m)).trans (first.registry m)
  freeReferences m := (second.freeReferences (f m)).trans (first.freeReferences m)
  table m address := (second.table (f m) address).trans (first.table m address)

end IsSteady

/-- The machine with a value on top, if there is one. -/
def offer (m : Machine) : Option Value → Machine
  | some v => m.push v
  | none => m

section Operations

variable {bottom : Array Value} {frames : Array Nat} {m : Machine} {α : Type}

theorem push_onto (fits : Fits bottom frames m) (v : Value) :
    (m.onto bottom frames).push v = (m.push v).onto bottom frames := by
  have base : (m.push v).base = m.base := rfl
  simp only [push, onto] at base ⊢
  rw [base, rebase_push fits.whole]

theorem offer_onto (fits : Fits bottom frames m) (v : Option Value) :
    (m.onto bottom frames).offer v = (m.offer v).onto bottom frames := by
  cases v with
  | some v => exact push_onto fits v
  | none => rfl

theorem isSteady_offer {answer : Machine → α} (value : Machine → Option Value)
    (answers : IsQuery answer) (values : IsQuery value) :
    IsSteady fun m => (answer m, m.offer (value m)) where
  moves bottom frames m fits := by
    rw [answers bottom frames fits, values bottom frames fits, offer_onto fits]
  whole m whole := by
    cases value m with
    | some v =>
      simp only [offer, push, height, Array.size_push]
      exact Nat.le_succ_of_le whole
    | none => exact whole
  frames m := by cases value m <;> rfl
  isClosed m := by cases value m <;> rfl
  maxDepth m := by cases value m <;> rfl
  registry m := by cases value m <;> rfl
  freeReferences m := by cases value m <;> rfl
  table m address := by cases value m <;> rfl

theorem isQuery_const (a : α) : IsQuery fun _ => a := fun _ _ _ _ => rfl

theorem IsQuery.map {β : Type} {f : Machine → α} (query : IsQuery f) (g : α → β) :
    IsQuery fun m => g (f m) :=
  fun bottom frames _ fits => congrArg g (query bottom frames fits)

theorem isSteady_push {value : Machine → Value} (values : IsQuery value) :
    IsSteady fun m => ((), m.push (value m)) :=
  isSteady_offer (fun m => some (value m)) (isQuery_const ()) (values.map some)

theorem isSteady_rawGet (i : Int) (name : String) : IsSteady (·.rawGet i name) := by
  have field : IsQuery (·.rawField i name) := fun bottom frames m fits => by
    simp only [rawField, valueAt_onto fits]
    rfl
  exact isSteady_offer (fun m => some (m.rawField i name)) field (field.map some)

theorem isSteady_getMetatable (i : Int) : IsSteady (·.getMetatable i) := by
  have metatable : IsQuery (·.metatableAt? i) := fun bottom frames m fits => by
    simp only [metatableAt?, valueAt_onto fits]
    rfl
  have same : (fun m : Machine => m.getMetatable i) =
      fun m => ((m.metatableAt? i).isSome, m.offer ((m.metatableAt? i).map .table)) := by
    funext m
    rw [getMetatable]
    cases m.metatableAt? i <;> rfl
  rw [same]
  exact isSteady_offer _ (metatable.map Option.isSome) (metatable.map (Option.map Value.table))

theorem isSteady_getGlobal (name : String) : IsSteady (·.getGlobal name) :=
  isSteady_offer (fun m => some (m.global name)) (fun _ _ _ _ => rfl) (fun _ _ _ _ => rfl)

theorem isSteady_pushReference (r : Nat) : IsSteady (·.pushReference r) := by
  have same : (fun m : Machine => m.pushReference r) =
      fun m => ((m.referenced? r).isSome, m.offer (some ((m.referenced? r).getD .nil))) := by
    funext m
    rw [pushReference]
    cases m.referenced? r <;> rfl
  rw [same]
  exact isSteady_offer _ (fun _ _ _ _ => rfl) (fun _ _ _ _ => rfl)

/-- The function that a source text stands for, in a machine that is open. -/
def loaded? (m : Machine) (chunk : String) (source : Bytes) : Option Value :=
  if m.isClosed then none else (m.chunks.get? source).map fun body => .function chunk (.program body)

theorem isSteady_load (chunk : String) (source : Bytes) : IsSteady (·.load chunk source) := by
  have same : (fun m : Machine => m.load chunk source) =
      fun m => ((m.load chunk source).1, m.offer (m.loaded? chunk source)) := by
    funext m
    simp only [load, checkOpen, loaded?]
    cases m.isClosed
    · cases m.chunks.get? source <;> rfl
    · rfl
  rw [same]
  refine isSteady_offer _ (fun bottom frames m _ => ?_) (fun _ _ _ _ => rfl)
  have checkOpen_same : (m.onto bottom frames).checkOpen = m.checkOpen := rfl
  have chunks_same : (m.onto bottom frames).chunks = m.chunks := rfl
  simp only [load, checkOpen_same, chunks_same]
  cases m.checkOpen
  · rfl
  · cases m.chunks.get? source <;> rfl

theorem isSteady_writeSlot (v : SlotValue) : IsSteady fun m => ((), m.writeSlot v) := by
  cases v with
  | function f =>
    cases f with
    | slot i => exact isSteady_push fun bottom frames m fits => valueAt_onto fits i
    | pinned r => exact (isSteady_pushReference r).mapAnswer fun _ => ()
  | _ => exact isSteady_push (isQuery_const _)

/-! ### The size of the frame -/

theorem isSteady_resize {size : Machine → Nat}
    (sizes : ∀ (bottom : Array Value) (frames : Array Nat) {m : Machine}, Fits bottom frames m →
      size (m.onto bottom frames) = bottom.size + (size m - m.base))
    (above : ∀ m, m.base ≤ m.height → m.base ≤ size m) :
    IsSteady fun m => ((), { m with stack := resize (size m) m.stack }) where
  moves bottom frames m fits := by
    -- The new size is at least the base, so the cut is above all that is replaced.
    have room := above m fits.whole
    have resized : rebase m.base bottom (resize (size m) m.stack) =
        resize (bottom.size + (size m - m.base)) (rebase m.base bottom m.stack) :=
      rebase_resize fits.whole room
    have base : { m with stack := resize (size m) m.stack }.base = m.base := rfl
    simp only [onto] at base ⊢
    rw [base, resized, ← sizes bottom frames fits]
    rfl
  whole m whole := by
    have := above m whole
    simp only [height, size_resize]
    exact this
  frames m := rfl
  isClosed m := rfl
  maxDepth m := rfl
  registry m := rfl
  freeReferences m := rfl
  table m address := rfl

theorem isSteady_setTop (i : Int) : IsSteady fun m => ((), m.setTop i) := by
  refine isSteady_resize (fun bottom frames m fits => ?_) (fun m whole => ?_)
  · have whole := fits.whole
    rw [base_onto fits, height_onto, frameSize]
    by_cases positive : 0 ≤ i
    · rw [if_pos positive, if_pos positive]
      omega
    · rw [if_neg positive, if_neg positive]
      omega
  · by_cases positive : 0 ≤ i
    · rw [if_pos positive]
      omega
    · rw [if_neg positive]
      omega

theorem isSteady_pop (count : Int) : IsSteady fun m => ((), m.pop count) := by
  refine isSteady_resize (fun bottom frames m fits => ?_) (fun m whole => ?_)
  · have whole := fits.whole
    rw [base_onto fits, top_onto fits, height_onto, frameSize]
    by_cases positive : 0 ≤ m.top - count
    · rw [if_pos positive, if_pos positive]
      omega
    · rw [if_neg positive, if_neg positive]
      omega
  · by_cases positive : 0 ≤ m.top - count
    · rw [if_pos positive]
      omega
    · rw [if_neg positive]
      omega

theorem isSteady_popValue : IsSteady popValue where
  moves bottom frames m fits := by
    have whole := fits.whole
    have size : m.frameSize = m.height - m.base := rfl
    rw [popValue, base_onto fits, height_onto, popValue]
    by_cases filled : m.base < m.height
    · -- The popped slot is one of the frame, so it is none of those replaced.
      have top : (m.onto bottom frames).stack.back? = m.stack.back? := by
        have last : (m.onto bottom frames).stack.size - 1 =
            bottom.size + (m.stack.size - 1 - m.base) := by
          have size_onto : (m.onto bottom frames).stack.size = bottom.size + m.frameSize := size_rebase
          rw [height] at *
          omega
        rw [Array.back?, last, stack_onto (by rw [height] at *; omega), Array.back?]
      have base : { m with stack := m.stack.pop }.base = m.base := rfl
      rw [if_pos filled, if_pos (by omega), top]
      simp only [onto] at base ⊢
      rw [base, rebase_pop filled]
    · rw [if_neg filled, if_neg (by omega)]
  whole m whole := by
    rw [popValue]
    by_cases filled : m.base < m.height
    · rw [if_pos filled]
      simp only [height, Array.size_pop] at *
      omega
    · rw [if_neg filled]
      exact whole
  frames m := by rw [popValue]; split <;> rfl
  isClosed m := by rw [popValue]; split <;> rfl
  maxDepth m := by rw [popValue]; split <;> rfl
  registry m := by rw [popValue]; split <;> rfl
  freeReferences m := by rw [popValue]; split <;> rfl
  table m address := by rw [popValue]; split <;> rfl

theorem isSteady_setGlobal (name : String) : IsSteady fun m => ((), m.setGlobal name) where
  moves bottom frames m fits := by
    simp only [setGlobal, isSteady_popValue.moves bottom frames fits]
    rfl
  whole m whole := isSteady_popValue.whole m whole
  frames m := isSteady_popValue.frames m
  isClosed m := isSteady_popValue.isClosed m
  maxDepth m := isSteady_popValue.maxDepth m
  registry m := isSteady_popValue.registry m
  freeReferences m := isSteady_popValue.freeReferences m
  table m address := isSteady_popValue.table m address

theorem isSteady_defineGlobal (name : String) (v : Value) :
    IsSteady fun m => ((), (m.push v).setGlobal name) :=
  (isSteady_push (isQuery_const v)).seq (isSteady_setGlobal name)

theorem isSteady_newTable : IsSteady fun m => ((), m.newTable) where
  moves bottom frames m fits := by
    have base : m.newTable.base = m.base := rfl
    simp only [newTable, onto] at base ⊢
    rw [base, rebase_push fits.whole]
  whole m whole := by
    simp only [newTable, height, Array.size_push]
    exact Nat.le_succ_of_le whole
  frames _ := rfl
  isClosed _ := rfl
  maxDepth _ := rfl
  registry _ := rfl
  freeReferences _ := rfl
  table m address := by
    simp only [newTable, table, Array.getElem?_push]
    -- An address that no table has stands for an empty one, which is what it gets.
    by_cases new : address = m.tables.size
    · rw [if_pos new, new, Array.getElem?_eq_none (Nat.le_refl _)]
      rfl
    · rw [if_neg new]

/-! ### References and tables -/

theorem isRelative_reference (i : Int) : IsRelative (·.reference i) where
  moves bottom frames m fits := by
    simp only [reference, valueAt_onto fits]
    cases free : m.freeReferences <;> simp only [onto, free] <;> rfl
  whole m whole := by
    rw [reference]
    cases m.freeReferences <;> exact whole
  frames m := by rw [reference]; cases m.freeReferences <;> rfl
  isClosed m := by rw [reference]; cases m.freeReferences <;> rfl
  maxDepth m := by rw [reference]; cases m.freeReferences <;> rfl

theorem isRelative_releaseReference (r : Nat) : IsRelative fun m => ((), m.releaseReference r) where
  moves bottom frames m fits := by
    have same : (m.onto bottom frames).referenced? r = m.referenced? r := rfl
    simp only [releaseReference, same]
    cases m.referenced? r <;> rfl
  whole m whole := by
    simp only [releaseReference]
    cases m.referenced? r <;> exact whole
  frames m := by simp only [releaseReference]; cases m.referenced? r <;> rfl
  isClosed m := by simp only [releaseReference]; cases m.referenced? r <;> rfl
  maxDepth m := by simp only [releaseReference]; cases m.referenced? r <;> rfl

theorem isRelative_rawSet (i : Int) (name : String) : IsRelative fun m => ((), m.rawSet i name) where
  moves bottom frames m fits := by
    simp only [rawSet, valueAt_onto fits, isSteady_popValue.moves bottom frames fits]
    cases m.valueAt i <;> rfl
  whole m whole := by
    simp only [rawSet]
    cases m.valueAt i <;> exact isSteady_popValue.whole m whole
  frames m := by
    simp only [rawSet]
    cases m.valueAt i <;> exact isSteady_popValue.frames m
  isClosed m := by
    simp only [rawSet]
    cases m.valueAt i <;> exact isSteady_popValue.isClosed m
  maxDepth m := by
    simp only [rawSet]
    cases m.valueAt i <;> exact isSteady_popValue.maxDepth m

theorem isRelative_setMetatable (i : Int) : IsRelative (·.setMetatable i) where
  moves bottom frames m fits := by
    simp only [setMetatable, valueAt_onto fits, isSteady_popValue.moves bottom frames fits]
    cases m.valueAt i <;> cases m.popValue.1 <;> rfl
  whole m whole := by
    simp only [setMetatable]
    cases m.valueAt i <;> cases m.popValue.1 <;> exact isSteady_popValue.whole m whole
  frames m := by
    simp only [setMetatable]
    cases m.valueAt i <;> cases m.popValue.1 <;> exact isSteady_popValue.frames m
  isClosed m := by
    simp only [setMetatable]
    cases m.valueAt i <;> cases m.popValue.1 <;> exact isSteady_popValue.isClosed m
  maxDepth m := by
    simp only [setMetatable]
    cases m.valueAt i <;> cases m.popValue.1 <;> exact isSteady_popValue.maxDepth m

theorem isRelative_setTableField (address : Nat) (key : Bytes) (v : Value) :
    IsRelative fun m => ((), m.setTableField address key v) where
  moves _ _ _ _ := rfl
  whole _ whole := whole
  frames _ := rfl
  isClosed _ := rfl
  maxDepth _ := rfl

end Operations

theorem isClosed_close (m : Machine) : m.close.isClosed = true := by
  rw [close]
  split
  · assumption
  · rfl

end Machine

end ScriptHost
