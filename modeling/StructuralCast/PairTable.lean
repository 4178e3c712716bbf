import StructuralCast.TypeId

/-!
Contract: what has been found out about ordered pairs of types.

A `PairTable` only grows: `insert` keeps what a pair already has, so an answer that was given once
is given for ever. `find?_insert` says what an insertion changes, and `find?_insert_of_found` that
nothing found is lost.
-/

namespace StructuralCast

structure PairTable (α : Type) where
  entries : List ((TypeId × TypeId) × α)

namespace PairTable

variable {α : Type}

def empty : PairTable α := ⟨[]⟩

def find? (table : PairTable α) (target source : TypeId) : Option α :=
  table.entries.lookup (target, source)

def contains (table : PairTable α) (target source : TypeId) : Bool :=
  (table.find? target source).isSome

/-- The first entry of a pair stays. -/
def insert (table : PairTable α) (target source : TypeId) (entry : α) : PairTable α :=
  if table.contains target source then table else ⟨((target, source), entry) :: table.entries⟩

def size (table : PairTable α) : Nat := table.entries.length

theorem find?_insert (table : PairTable α) (target source : TypeId) (entry : α)
    (target' source' : TypeId) :
    (table.insert target source entry).find? target' source' =
      if target' = target ∧ source' = source then
        some ((table.find? target source).getD entry)
      else table.find? target' source' := by
  unfold insert
  split
  case isTrue found =>
    split
    case isTrue same =>
      obtain ⟨value, valueFound⟩ := Option.isSome_iff_exists.1 found
      rw [same.1, same.2, valueFound]
      rfl
    case isFalse => rfl
  case isFalse missing =>
    have absent : table.find? target source = none := by
      simpa [contains] using missing
    simp only [find?, List.lookup_cons]
    split
    case h_1 equal =>
      have same : target' = target ∧ source' = source := by simpa using equal
      rw [if_pos same, ← find?, absent]
      rfl
    case h_2 different =>
      have other : ¬ (target' = target ∧ source' = source) := by simpa using different
      rw [if_neg other]

theorem find?_insert_of_found (table : PairTable α) (target source : TypeId) (entry : α)
    {target' source' : TypeId} {value : α} (found : table.find? target' source' = some value) :
    (table.insert target source entry).find? target' source' = some value := by
  rw [find?_insert]
  split
  case isTrue same =>
    rw [← same.1, ← same.2, found]
    rfl
  case isFalse => exact found

theorem find?_insert_of_missing {table : PairTable α} {target source : TypeId} (entry : α)
    (missing : table.find? target source = none) :
    (table.insert target source entry).find? target source = some entry := by
  rw [find?_insert, if_pos ⟨rfl, rfl⟩, missing]
  rfl

/-- What is found after an insertion was there before, or is the new entry. -/
theorem of_find?_insert {table : PairTable α} {target source : TypeId} {entry : α}
    {target' source' : TypeId} {value : α}
    (found : (table.insert target source entry).find? target' source' = some value) :
    table.find? target' source' = some value ∨
      (target' = target ∧ source' = source ∧ value = entry) := by
  rw [find?_insert] at found
  split at found
  case isFalse => exact .inl found
  case isTrue same =>
    obtain ⟨rfl, rfl⟩ := same
    cases earlier : table.find? target' source' with
    | some known =>
        rw [earlier, Option.getD_some] at found
        exact .inl found
    | none =>
        rw [earlier, Option.getD_none] at found
        exact .inr ⟨rfl, rfl, (Option.some.inj found).symm⟩

end PairTable
end StructuralCast
