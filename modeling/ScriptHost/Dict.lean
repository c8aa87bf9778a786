/-!
# Finite maps

A `Dict` maps keys to values.  Its view is `get?`; the lemmas here say what each operation does to
that view, and nothing else in the library looks at the entries.
-/

namespace ScriptHost

/-- A finite map, as pairs with one pair for each key, the newest key first. -/
structure Dict (κ ν : Type) where
  entries : List (κ × ν)
  deriving Repr

namespace Dict

variable {κ ν : Type} [DecidableEq κ]

/-- The value paired with a key in a list of pairs. -/
def find (k : κ) : List (κ × ν) → Option ν
  | [] => none
  | (k', v) :: rest => if k' = k then some v else find k rest

/-- A list of pairs in which a key that is bound there is bound to another value. -/
def rebind (k : κ) (v : ν) (es : List (κ × ν)) : List (κ × ν) :=
  es.map fun e => if e.1 = k then (k, v) else e

def empty : Dict κ ν := ⟨[]⟩

instance : Inhabited (Dict κ ν) := ⟨empty⟩

def get? (d : Dict κ ν) (k : κ) : Option ν := find k d.entries

def contains (d : Dict κ ν) (k : κ) : Bool := (d.get? k).isSome

/-- The map with the key bound to the value; a key that was bound keeps its place. -/
def insert (d : Dict κ ν) (k : κ) (v : ν) : Dict κ ν :=
  if d.contains k then ⟨rebind k v d.entries⟩ else ⟨(k, v) :: d.entries⟩

def erase (d : Dict κ ν) (k : κ) : Dict κ ν := ⟨d.entries.filter (·.1 ≠ k)⟩

/-- The pairs, the oldest key first. -/
def toList (d : Dict κ ν) : List (κ × ν) := d.entries.reverse

def keys (d : Dict κ ν) : List κ := d.toList.map (·.1)

def values (d : Dict κ ν) : List ν := d.toList.map (·.2)

def size (d : Dict κ ν) : Nat := d.entries.length

/-- The key's value replaced by a function of what it was. -/
def alter (d : Dict κ ν) (k : κ) (f : Option ν → ν) : Dict κ ν := d.insert k (f (d.get? k))

@[simp] theorem get?_empty (k : κ) : (empty : Dict κ ν).get? k = none := rfl

theorem find_rebind (k k' : κ) (v : ν) (es : List (κ × ν)) :
    find k' (rebind k v es) = if k = k' then (find k es).map fun _ => v else find k' es := by
  induction es with
  | nil => simp [rebind, find]
  | cons e rest ih =>
    obtain ⟨k₀, v₀⟩ := e
    have ih' : find k' (rest.map fun e => if e.1 = k then (k, v) else e) = _ := ih
    by_cases h : k₀ = k
    · subst h
      by_cases h' : k₀ = k'
      · simp [rebind, find, h']
      · simp [rebind, find, h', ih']
    · by_cases h' : k = k'
      · subst h'
        simp [rebind, find, h, ih']
      · by_cases h₀ : k₀ = k'
        · subst h₀
          simp [rebind, find, h, h']
        · simp [rebind, find, h, h', h₀, ih']

@[simp] theorem get?_insert (d : Dict κ ν) (k k' : κ) (v : ν) :
    (d.insert k v).get? k' = if k = k' then some v else d.get? k' := by
  by_cases h : d.contains k
  · obtain ⟨w, hw⟩ := Option.isSome_iff_exists.1 h
    have hw' : find k d.entries = some w := hw
    simp [insert, h, get?, find_rebind, hw']
  · simp [insert, h, get?, find]

theorem find_filter_ne (k k' : κ) (es : List (κ × ν)) :
    find k' (es.filter (·.1 ≠ k)) = if k = k' then none else find k' es := by
  induction es with
  | nil => simp [find]
  | cons e rest ih =>
    obtain ⟨k₀, v₀⟩ := e
    by_cases h : k₀ = k
    · subst h
      by_cases h' : k₀ = k'
      · simpa [List.filter_cons, find, h'] using ih
      · simpa [List.filter_cons, find, h'] using ih
    · by_cases h' : k₀ = k'
      · subst h'; simp [find, h, Ne.symm h]
      · simpa [List.filter_cons, find, h, h'] using ih

@[simp] theorem get?_erase (d : Dict κ ν) (k k' : κ) :
    (d.erase k).get? k' = if k = k' then none else d.get? k' :=
  find_filter_ne k k' d.entries

theorem mem_of_find {k : κ} {v : ν} {es : List (κ × ν)} (found : find k es = some v) : (k, v) ∈ es := by
  induction es with
  | nil => cases found
  | cons e rest ih =>
    rw [find] at found
    split at found
    · rename_i same
      cases found
      exact List.mem_cons.2 (.inl (by rw [← same]))
    · exact List.mem_cons_of_mem _ (ih found)

/-- What a map has for a key is one of its pairs. -/
theorem mem_entries_of_get? {d : Dict κ ν} {k : κ} {v : ν} (found : d.get? k = some v) :
    (k, v) ∈ d.entries :=
  mem_of_find found

/-! ## Counting keys -/

/-- No key has two pairs. -/
def IsUnique (d : Dict κ ν) : Prop := (d.entries.map (·.1)).Nodup

omit [DecidableEq κ] in
theorem isUnique_empty : (empty : Dict κ ν).IsUnique := List.nodup_nil

theorem mem_keys_iff (k : κ) (es : List (κ × ν)) : k ∈ es.map (·.1) ↔ (find k es).isSome := by
  induction es with
  | nil => simp [find]
  | cons e rest ih =>
    by_cases h : e.1 = k
    · simp [find, h]
    · have h' : k ≠ e.1 := Ne.symm h
      simp only [List.map_cons, List.mem_cons, find, h, h', false_or, ↓reduceIte]
      exact ih

theorem map_fst_rebind (k : κ) (v : ν) (es : List (κ × ν)) :
    (rebind k v es).map (·.1) = es.map (·.1) := by
  rw [rebind, List.map_map]
  apply List.map_congr_left
  intro e _
  by_cases h : e.1 = k <;> simp [h]

theorem isUnique_insert {d : Dict κ ν} (unique : d.IsUnique) (k : κ) (v : ν) :
    (d.insert k v).IsUnique := by
  by_cases h : d.contains k
  · simpa [insert, h, IsUnique, map_fst_rebind] using unique
  · have absent : k ∉ d.entries.map (·.1) := by
      rw [mem_keys_iff]
      exact h
    simpa [insert, h, IsUnique] using ⟨by simpa using absent, unique⟩

theorem isUnique_erase {d : Dict κ ν} (unique : d.IsUnique) (k : κ) : (d.erase k).IsUnique :=
  unique.sublist (List.Sublist.map _ List.filter_sublist)

/-- To take out a key that was not bound changes nothing. -/
theorem erase_of_absent {d : Dict κ ν} {k : κ} (absent : d.get? k = none) : d.erase k = d := by
  obtain ⟨es⟩ := d
  have other : ∀ e ∈ es, e.1 ≠ k := fun e member same => by
    have bound := (mem_keys_iff k es).1 (List.mem_map.2 ⟨e, member, same⟩)
    simp only [get?] at absent
    simp [absent] at bound
  simp only [erase, mk.injEq]
  exact List.filter_eq_self.2 fun e member => by simpa using other e member

/-- A key that was not bound makes the map one larger. -/
theorem size_insert_of_absent {d : Dict κ ν} {k : κ} (absent : d.get? k = none) (v : ν) :
    (d.insert k v).size = d.size + 1 := by
  simp [insert, contains, absent, size]

/-- Taking out a key that was bound makes the map one smaller. -/
theorem size_erase_of_present {d : Dict κ ν} (unique : d.IsUnique) {k : κ} {v : ν}
    (present : d.get? k = some v) : (d.erase k).size + 1 = d.size := by
  obtain ⟨es⟩ := d
  simp only [size, erase, get?, IsUnique] at *
  induction es with
  | nil => simp [find] at present
  | cons e rest ih =>
    obtain ⟨distinct, unique⟩ := List.nodup_cons.1 unique
    by_cases h : e.1 = k
    · have rest_kept : rest.filter (·.1 ≠ k) = rest := by
        apply List.filter_eq_self.2
        intro e' member
        have : e'.1 ≠ e.1 := fun same => distinct (List.mem_map.2 ⟨e', member, same⟩)
        simpa [← h] using this
      rw [List.filter_cons_of_neg (by simp [h]), rest_kept, List.length_cons]
    · have present : find k rest = some v := by simpa [find, h] using present
      rw [List.filter_cons_of_pos (by simp [h]), List.length_cons, List.length_cons, ih unique present]

end Dict

end ScriptHost
