import ScriptHost.Dict
/-!
# Finite maps over numbered keys

Where keys carry small numbers, such as those of slots or records, a map of many keys is kept in parts,
one for each number, so that no operation has to search all keys.  The view is `get?` again, and it
obeys the laws of a single map.
-/

namespace ScriptHost

/-- Keys that carry a number; different keys may share one. -/
class Numbered (κ : Type) where
  number : κ → Nat

instance : Numbered Nat := ⟨fun n => n⟩

/-- A finite map, in parts by the numbers of its keys. -/
structure NumberedDict (κ ν : Type) where
  parts : Array (Dict κ ν)

namespace NumberedDict

variable {κ ν : Type} [DecidableEq κ] [Numbered κ]

def empty : NumberedDict κ ν := ⟨#[]⟩

instance : Inhabited (NumberedDict κ ν) := ⟨empty⟩

def part (d : NumberedDict κ ν) (n : Nat) : Dict κ ν := d.parts[n]?.getD .empty

def get? (d : NumberedDict κ ν) (k : κ) : Option ν := (d.part (Numbered.number k)).get? k

/-- Parts for at least the numbers up to one, as they are or empty. -/
def reach (parts : Array (Dict κ ν)) (n : Nat) : Array (Dict κ ν) :=
  let missing := n + 1 - parts.size
  parts ++ Array.replicate missing .empty

def insert (d : NumberedDict κ ν) (k : κ) (v : ν) : NumberedDict κ ν :=
  let n := Numbered.number k
  ⟨(reach d.parts n).modify n (·.insert k v)⟩

def erase (d : NumberedDict κ ν) (k : κ) : NumberedDict κ ν :=
  ⟨d.parts.modify (Numbered.number k) (·.erase k)⟩

omit [DecidableEq κ] [Numbered κ] in
theorem part_reach (parts : Array (Dict κ ν)) (n i : Nat) :
    (reach parts n)[i]?.getD .empty = parts[i]?.getD .empty := by
  simp only [reach, Array.getElem?_append, Array.getElem?_replicate]
  by_cases h : i < parts.size
  · simp [h]
  · by_cases h' : i - parts.size < n + 1 - parts.size <;>
      simp [h, h']

omit [DecidableEq κ] [Numbered κ] in
theorem lt_size_reach (parts : Array (Dict κ ν)) (n : Nat) : n < (reach parts n).size := by
  simp only [reach, Array.size_append, Array.size_replicate]
  omega

theorem part_insert (d : NumberedDict κ ν) (k : κ) (v : ν) (i : Nat) :
    (d.insert k v).part i =
      if Numbered.number k = i then (d.part i).insert k v else d.part i := by
  have reached := part_reach d.parts (Numbered.number k) i
  simp only [part, insert, Array.getElem?_modify]
  by_cases h : Numbered.number k = i
  · subst h
    have bound := lt_size_reach d.parts (Numbered.number k)
    simp only [↓reduceIte, ← reached, Array.getElem?_eq_getElem bound, Option.map_some,
      Option.getD_some]
  · simp only [h, ↓reduceIte, reached]

theorem part_erase (d : NumberedDict κ ν) (k : κ) (i : Nat) :
    (d.erase k).part i = if Numbered.number k = i then (d.part i).erase k else d.part i := by
  simp only [part, erase, Array.getElem?_modify]
  by_cases h : Numbered.number k = i
  · cases hi : d.parts[i]? <;> simp [h, Dict.erase, Dict.empty]
  · simp only [h, ↓reduceIte]

@[simp] theorem get?_empty (k : κ) : (empty : NumberedDict κ ν).get? k = none := rfl

@[simp] theorem get?_insert (d : NumberedDict κ ν) (k k' : κ) (v : ν) :
    (d.insert k v).get? k' = if k = k' then some v else d.get? k' := by
  simp only [get?, part_insert]
  by_cases h : Numbered.number k = Numbered.number k'
  · simp [h]
  · have different : k ≠ k' := fun same => h (congrArg Numbered.number same)
    simp [h, different]

@[simp] theorem get?_erase (d : NumberedDict κ ν) (k k' : κ) :
    (d.erase k).get? k' = if k = k' then none else d.get? k' := by
  simp only [get?, part_erase]
  by_cases h : Numbered.number k = Numbered.number k'
  · simp [h]
  · have different : k ≠ k' := fun same => h (congrArg Numbered.number same)
    simp [h, different]

end NumberedDict

end ScriptHost
