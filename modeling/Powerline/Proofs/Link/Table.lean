import Powerline.Link.Table

/-!
# Changes of a link table

Storing a record changes one slot. It lengthens the table by one record at most, and only a record
with the last-record mark shortens it.
-/

namespace Powerline

@[simp]
theorem isLast_notLast (flags : RecordFlags) : flags.notLast.isLast = false := by
  have mark : (flags.byte ||| 0x02) &&& 0x02 = 0x02 := by
    apply UInt8.toBitVec_inj.mp
    ext index inside
    simp only [UInt8.toBitVec_and, UInt8.toBitVec_or, BitVec.getElem_and, BitVec.getElem_or]
    cases flags.byte.toBitVec[index] <;> cases (UInt8.toBitVec 0x02)[index] <;> rfl
  simp only [RecordFlags.notLast, RecordFlags.isLast, mark]
  rfl

/-- Bits outside those that are set are looked at as before. -/
theorem or_and_of_apart (byte : UInt8) {mask bits : UInt8} (apart : mask &&& bits = 0) :
    (byte ||| mask) &&& bits = byte &&& bits := by
  have distributed : (byte ||| mask) &&& bits = byte &&& bits ||| mask &&& bits :=
    UInt8.eq_of_toBitVec_eq BitVec.and_or_distrib_right
  rw [distributed, apart, UInt8.or_zero]

@[simp]
theorem id_notLast (record : LinkRecord) : record.notLast.id = record.id := by
  have use : (record.flags.byte ||| 0x02) &&& 0x80 = record.flags.byte &&& 0x80 :=
    or_and_of_apart _ rfl
  have role : (record.flags.byte ||| 0x02) &&& 0x40 = record.flags.byte &&& 0x40 :=
    or_and_of_apart _ rfl
  simp only [LinkRecord.id, LinkRecord.notLast, RecordFlags.notLast, RecordFlags.inUse,
    RecordFlags.isController, use, role]

namespace LinkTable

/-- The table after records were stored in slots, one after another. -/
def storeAll (table : LinkTable) (places : List (Nat × LinkRecord)) : LinkTable :=
  places.foldl (fun table (slot, record) => table.store slot record) table

variable {table : LinkTable} {slot index : Nat} {record found : LinkRecord}

/-- Storing changes one slot and reveals nothing. -/
theorem getElem?_store (inside : slot ≤ table.size)
    (stored : (table.store slot record).records[index]? = some found) :
    index = slot ∧ found = record ∨ index ≠ slot ∧ table.records[index]? = some found := by
  have bound : slot ≤ table.records.length := inside
  unfold store at stored
  split at stored
  · right
    rw [records_ofRecords, List.getElem?_take] at stored
    split at stored
    · next before => exact ⟨Nat.ne_of_lt before, stored⟩
    · contradiction
  · split at stored
    · next atEnd =>
        have length : slot = table.records.length := atEnd
        rw [records_ofRecords, List.getElem?_append] at stored
        split at stored
        · next before => exact Or.inr ⟨by omega, stored⟩
        · next behind =>
            left
            rw [List.getElem?_singleton] at stored
            split at stored
            · next first => exact ⟨by omega, (Option.some.inj stored).symm⟩
            · contradiction
    · rw [records_ofRecords, List.getElem?_set] at stored
      split at stored
      · next same =>
          split at stored
          · exact Or.inl ⟨same.symm, (Option.some.inj stored).symm⟩
          · contradiction
      · next other => exact Or.inr ⟨fun same => other same.symm, stored⟩

theorem storeAll_append (table : LinkTable) (first second : List (Nat × LinkRecord)) :
    table.storeAll (first ++ second) = (table.storeAll first).storeAll second :=
  List.foldl_append

theorem store_inside (inside : slot < table.size) (keepsOpen : record.flags.isLast = false) :
    table.store slot record = .ofRecords (table.records.set slot record) := by
  rw [store, if_neg (by simp [keepsOpen]), if_neg (Nat.ne_of_lt inside)]

theorem store_behind (table : LinkTable) (keepsOpen : record.flags.isLast = false) :
    table.store table.size record = .ofRecords (table.records ++ [record]) := by
  rw [store, if_neg (by simp [keepsOpen]), if_pos rfl]

theorem size_store_of_isLast (inside : slot ≤ table.size) (isLast : record.flags.isLast = true) :
    (table.store slot record).size = slot := by
  have bound : slot ≤ table.records.length := inside
  simp only [store, isLast, ↓reduceIte, size, records_ofRecords, List.length_take]
  omega

theorem size_store_of_keepsOpen (inside : slot ≤ table.size)
    (keepsOpen : record.flags.isLast = false) :
    (table.store slot record).size = max table.size (slot + 1) := by
  have bound : slot ≤ table.records.length := inside
  by_cases atEnd : slot = table.records.length
  · simp only [store, keepsOpen, Bool.false_eq_true, ↓reduceIte, size, atEnd, records_ofRecords,
      List.length_append, List.length_singleton]
    omega
  · simp only [store, keepsOpen, Bool.false_eq_true, ↓reduceIte, size, atEnd, records_ofRecords,
      List.length_set]
    omega

theorem lt_size_of_getElem? (found : table.records[slot]? = some record) : slot < table.size := by
  rcases List.getElem?_eq_some_iff.mp found with ⟨inside, _⟩
  exact inside

/-- Inside the table, a record that does not end it changes nothing but its slot. Nor does any
record directly behind the table. -/
theorem getElem?_store_of_ne (before : index < table.size)
    (other : slot ≠ index) (keeps : record.flags.isLast = false ∨ slot = table.size) :
    (table.store slot record).records[index]? = table.records[index]? := by
  have bound : index < table.records.length := before
  unfold store
  split
  · next isLast =>
      have atEnd : slot = table.size := by
        rcases keeps with keepsOpen | atEnd
        · rw [keepsOpen] at isLast
          contradiction
        · exact atEnd
      exact List.getElem?_take_of_lt (by omega)
  · split
    · exact List.getElem?_append_left bound
    · exact List.getElem?_set_ne other

/-- A record that does not end the table changes its slot, and that one only. -/
theorem getElem?_store_of_keepsOpen (inside : slot ≤ table.size)
    (keepsOpen : record.flags.isLast = false) (index : Nat) :
    (table.store slot record).records[index]?
      = if index = slot then some record else table.records[index]? := by
  have bound : slot ≤ table.records.length := inside
  by_cases atEnd : slot = table.records.length
  · subst atEnd
    simp only [store, keepsOpen, Bool.false_eq_true, size, ↓reduceIte]
    rw [records_ofRecords, List.getElem?_append, List.getElem?_singleton]
    split
    · next before => rw [if_neg (Nat.ne_of_lt before)]
    · next behind =>
        split
        · next first => rw [if_pos (by omega)]
        · next beyond =>
            rw [if_neg (by omega), List.getElem?_eq_none (Nat.not_lt.mp behind)]
  · simp only [store, keepsOpen, Bool.false_eq_true, size, atEnd, ↓reduceIte]
    have before : slot < table.records.length := by omega
    rw [records_ofRecords, List.getElem?_set]
    simp only [before, ↓reduceIte, eq_comm]

/-- The slot found for an identity holds a record of it. -/
theorem exists_of_position? {id : LinkId} (position : table.position? id = some slot) :
    ∃ record, table.records[slot]? = some record ∧ record.id = id := by
  rw [position?_eq_findIdx?, List.findIdx?_eq_some_iff_getElem] at position
  rcases position with ⟨inside, same, _⟩
  exact ⟨_, List.getElem?_eq_getElem inside, of_decide_eq_true same⟩

/-- The slot found free holds a free record. -/
theorem exists_of_nextAvailable? {start : Nat} (free : table.nextAvailable? start = some slot) :
    ∃ record, table.records[slot]? = some record ∧ record.flags.isAvailable = true := by
  rw [nextAvailable?, Option.map_eq_some_iff] at free
  rcases free with ⟨offset, found, rfl⟩
  rcases List.findIdx?_eq_some_iff_getElem.mp found with ⟨inside, available, _⟩
  rw [List.getElem_drop] at available
  rw [List.length_drop] at inside
  exact ⟨_, List.getElem?_eq_getElem (by omega), available⟩

/-- The slot for a new record lies in the table or directly behind it. -/
theorem getD_nextAvailable?_le (start : Nat) :
    (table.nextAvailable? start).getD table.size ≤ table.size := by
  cases free : table.nextAvailable? start with
  | none => exact Nat.le_refl _
  | some slot =>
      rcases exists_of_nextAvailable? free with ⟨_, present, _⟩
      exact Nat.le_of_lt (lt_size_of_getElem? present)

end LinkTable

end Powerline
