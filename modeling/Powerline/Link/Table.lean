import Powerline.Link.Index

/-!
# Link tables

The records of a device's link table in the order of their slots, with the index that finds the
slot of a link. Writing lands inside the table or directly behind it; a record with the last-record
mark ends the table at its slot.
-/

namespace Powerline

/-- The records of a table, without the one that ends it, and their index, which is built anew
whenever they change. -/
structure LinkTable where
  records : List LinkRecord
  index : LinkIndex := .ofRecords records
  reflects : index = .ofRecords records := by rfl
  deriving DecidableEq, Repr

namespace LinkTable

/-- The table with the given records. -/
def ofRecords (records : List LinkRecord) : LinkTable := { records }

instance : EmptyCollection LinkTable := ⟨ofRecords []⟩

/-- The number of records. -/
def size (table : LinkTable) : Nat :=
  table.records.length

/-- The slot of the first record with this identity, as the index names it. -/
def position? (table : LinkTable) (id : LinkId) : Option Nat :=
  table.index.slot? id

/-- The first free slot at or behind a given one. -/
def nextAvailable? (table : LinkTable) (start : Nat) : Option Nat :=
  ((table.records.drop start).findIdx? fun record => record.flags.isAvailable).map (start + ·)

/-- Refuses a slot that lies neither in the table nor directly behind it. -/
def checkSlot (table : LinkTable) (slot : Nat) : Except Error Unit :=
  if slot > table.size then .error (.invalidIndex slot table.size) else .ok ()

/-- The table after a record was stored in a slot. -/
def store (table : LinkTable) (slot : Nat) (record : LinkRecord) : LinkTable :=
  if record.flags.isLast then .ofRecords (table.records.take slot)
  else if slot = table.size then .ofRecords (table.records ++ [record])
  else .ofRecords (table.records.set slot record)

/-- Stores a record in a slot if that is allowed. -/
def write (table : LinkTable) (slot : Nat) (record : LinkRecord) : Except Error LinkTable := do
  table.checkSlot slot
  return table.store slot record

@[simp]
theorem records_ofRecords (records : List LinkRecord) : (ofRecords records).records = records :=
  rfl

/-- Tables with the same records are the same. -/
@[ext]
theorem ext {left right : LinkTable} (records : left.records = right.records) : left = right := by
  cases left with
  | mk _ _ reflects =>
      cases right with
      | mk _ _ alike =>
          subst reflects alike records
          rfl

@[simp]
theorem ofRecords_records (table : LinkTable) : ofRecords table.records = table :=
  ext rfl

theorem position?_eq_findIdx? (table : LinkTable) (id : LinkId) :
    table.position? id = table.records.findIdx? fun record => record.id = id := by
  rw [position?, table.reflects, LinkIndex.slot?_ofRecords]

theorem write_of_le {table : LinkTable} {slot : Nat} (record : LinkRecord)
    (inside : slot ≤ table.size) : table.write slot record = .ok (table.store slot record) := by
  have fine : ¬ slot > table.size := by omega
  simp only [write, checkSlot, fine, ↓reduceIte]
  rfl

theorem write_of_lt {table : LinkTable} {slot : Nat} (record : LinkRecord)
    (outside : table.size < slot) :
    table.write slot record = .error (.invalidIndex slot table.size) := by
  simp only [write, checkSlot, gt_iff_lt, outside, ↓reduceIte]
  rfl

end LinkTable

end Powerline
