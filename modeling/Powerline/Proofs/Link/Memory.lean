import Powerline.Bench.Carry
import Powerline.Proofs.Link.Table
import Powerline.Proofs.Link.Wire

/-!
# The memory of a device

A device keeps its link table in a memory of records. What a full read brings back are the records
before the first one with the last-record mark, whatever an earlier and longer table left behind
it. A copy mirrors the memory if it has these records.
-/

namespace Powerline

/-- The record at each memory address. -/
structure LinkMemory where
  recordAt : UInt16 → LinkRecord

namespace LinkMemory

variable {memory : LinkMemory} {table : LinkTable} {slot index : Nat} {record : LinkRecord}

/-- The record in a slot of the table. -/
def atSlot (memory : LinkMemory) (index : Nat) : LinkRecord :=
  memory.recordAt (memoryAddress index)

/-- The memory after a record was stored at an address. -/
def store (memory : LinkMemory) (address : UInt16) (record : LinkRecord) : LinkMemory :=
  ⟨fun other => if other = address then record else memory.recordAt other⟩

/-- The table that a full read brings back. -/
def visible (memory : LinkMemory) : List LinkRecord :=
  ((List.range maxRecords).map memory.atSlot).takeWhile fun record => !record.flags.isLast

/-- If the table has a record in this slot, the memory has the same. -/
def Agrees (memory : LinkMemory) (table : LinkTable) (index : Nat) : Prop :=
  ∀ record, table.records[index]? = some record → memory.atSlot index = record

@[simp]
theorem atSlot_store_self (memory : LinkMemory) (slot : Nat) (record : LinkRecord) :
    (memory.store (memoryAddress slot) record).atSlot slot = record := by
  simp only [atSlot, store, ↓reduceIte]

theorem atSlot_store_of_ne (slotFits : slot < maxRecords) (indexFits : index < maxRecords)
    (other : index ≠ slot) :
    (memory.store (memoryAddress slot) record).atSlot index = memory.atSlot index := by
  have apart : memoryAddress index ≠ memoryAddress slot := by
    intro same
    exact other (memoryAddress_inj indexFits slotFits same)
  simp only [atSlot, store, apart, ↓reduceIte]

/-- A confirmed write makes its slot agree and no other one disagree. -/
theorem agrees_store (inside : slot ≤ table.size) (slotFits : slot < maxRecords)
    (indexFits : index < maxRecords) (known : index = slot ∨ memory.Agrees table index) :
    (memory.store (memoryAddress slot) record).Agrees (table.store slot record) index := by
  intro found present
  rcases LinkTable.getElem?_store inside present with ⟨rfl, rfl⟩ | ⟨other, before⟩
  · exact atSlot_store_self memory index found
  · rw [atSlot_store_of_ne slotFits indexFits other]
    rcases known with same | agrees
    · exact absurd same other
    · exact agrees found before

/-- The table has the records of the memory up to its end, which the memory marks. -/
structure Mirrors (table : LinkTable) (memory : LinkMemory) : Prop where
  agrees : ∀ index, memory.Agrees table index
  isOpen : ∀ record ∈ table.records, record.flags.isLast = false
  ended : (memory.atSlot table.size).flags.isLast = true
  fits : table.size < maxRecords

theorem Mirrors.records_eq (mirrors : Mirrors table memory) :
    table.records = (List.range table.size).map memory.atSlot := by
  apply List.ext_getElem
  · simp [LinkTable.size]
  · intro index inside _
    rw [List.getElem_map, List.getElem_range]
    exact (mirrors.agrees index _ (List.getElem?_eq_getElem inside)).symm

/-- A table that mirrors the memory is the one that a full read brings back. -/
theorem Mirrors.visible_eq (mirrors : Mirrors table memory) : memory.visible = table.records := by
  obtain ⟨rest, count⟩ : ∃ rest, maxRecords = table.size + (rest + 1) :=
    ⟨maxRecords - table.size - 1, by have fits := mirrors.fits; omega⟩
  have split : List.range maxRecords
      = List.range table.size ++ table.size :: List.range' (table.size + 1) rest := by
    rw [count, List.range_eq_range', List.range_eq_range', ← List.range'_append_1,
      List.range'_succ, Nat.zero_add]
  rw [visible, split, List.map_append, ← mirrors.records_eq, List.map_cons,
    List.takeWhile_append_of_pos]
  · rw [List.takeWhile_cons_of_neg (by simp [mirrors.ended]), List.append_nil]
  · intro record mem
    simp [mirrors.isOpen record mem]

end LinkMemory

end Powerline
