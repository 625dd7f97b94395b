import Mathlib.Data.List.Basic

/-!
# Heap blocks

A block is the row of its cells; a cell is unset until something is stored in
it.  Stores go to consecutive cells and need all of them inside the block.
Changing the size keeps the cells both sizes have.
-/

/-- The cells of an allocated block. -/
structure HeapBlock (α : Type*) where
  cells : List (Option α)
  deriving Repr, DecidableEq

namespace HeapBlock

variable {α : Type*}

def size (block : HeapBlock α) : Nat :=
  block.cells.length

/-- A block as the allocator hands it out. -/
def fresh (size : Nat) : HeapBlock α :=
  ⟨List.replicate size none⟩

/-- The same block with another size. -/
def resize (block : HeapBlock α) (size : Nat) : HeapBlock α :=
  ⟨block.cells.take size ++ List.replicate (size - block.size) none⟩

/-- Store items from an offset on; there is no result when one falls outside the block. -/
def store (block : HeapBlock α) (offset : Nat) (items : List α) : Option (HeapBlock α) :=
  if offset + items.length ≤ block.size then
    some ⟨block.cells.take offset ++ items.map some ++ block.cells.drop (offset + items.length)⟩
  else
    none

/-- These items stand in the first cells. -/
def Begins (block : HeapBlock α) (items : List α) : Prop :=
  items.map some <+: block.cells

@[simp] theorem fresh_size (size : Nat) :
    (fresh size : HeapBlock α).size = size := by
  simp [fresh, HeapBlock.size]

@[simp] theorem resize_size (block : HeapBlock α) (size : Nat) :
    (block.resize size).size = size := by
  simp only [resize, HeapBlock.size, List.length_append, List.length_take, List.length_replicate]
  omega

theorem begins_nil (block : HeapBlock α) :
    block.Begins [] :=
  List.nil_prefix

/-- What stands in the first cells survives every size that has them. -/
theorem Begins.resize
    {block : HeapBlock α} {items : List α}
    (begins : block.Begins items)
    (size : Nat) (fits : items.length ≤ size) :
    (block.resize size).Begins items := by
  obtain ⟨others, cells⟩ := begins
  refine ⟨others.take (size - items.length) ++ List.replicate (size - block.size) none, ?_⟩
  have kept : (items.map some).take size = items.map some :=
    List.take_of_length_le (by simpa using fits)
  simp only [HeapBlock.resize, ← cells, List.take_append, List.length_map, kept,
    List.append_assoc]

/-- A store right behind the items that are there appends to them. -/
theorem Begins.store
    {block : HeapBlock α} {items : List α}
    (begins : block.Begins items)
    (more : List α)
    (fits : items.length + more.length ≤ block.size) :
    ∃ stored, block.store items.length more = some stored ∧
      stored.size = block.size ∧ stored.Begins (items ++ more) := by
  refine ⟨_, if_pos fits, ?_, ?_⟩
  · simp only [HeapBlock.size, List.length_append, List.length_take, List.length_map,
      List.length_drop] at fits ⊢
    omega
  · refine ⟨block.cells.drop (items.length + more.length), ?_⟩
    obtain ⟨others, cells⟩ := begins
    rw [← cells, List.map_append]
    simp

/-- The first cells hold one list of a given length. -/
theorem Begins.take_eq
    {block : HeapBlock α} {items : List α} (begins : block.Begins items) :
    block.cells.take items.length = items.map some := by
  obtain ⟨others, cells⟩ := begins
  rw [← cells]
  simp

end HeapBlock
