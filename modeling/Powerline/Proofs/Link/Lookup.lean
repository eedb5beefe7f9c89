import Mathlib.Data.Set.Basic
import Mathlib.Order.Bounds.Defs
import Powerline.Proofs.Link.Vacancies

/-!
# Looking for records

Whatever was stored in a table before, and whatever was refused, its index names the first slot of
each link (`lookups_reflect_records`). So a link that stands in several slots is found in the next
one when the first is overwritten, and is no longer found when the table was cut off before all of
them.
-/

namespace Powerline

theorem findIdx?_eq_some_iff_isLeast {α : Type} {list : List α} {found : α → Bool} {index : Nat} :
    list.findIdx? found = some index
      ↔ IsLeast {index | ∃ entry, list[index]? = some entry ∧ found entry = true} index := by
  rw [List.findIdx?_eq_some_iff_getElem]
  constructor
  · rintro ⟨inside, here, before⟩
    refine ⟨⟨list[index], List.getElem?_eq_getElem inside, here⟩, ?_⟩
    rintro other ⟨entry, present, hit⟩
    rcases List.getElem?_eq_some_iff.mp present with ⟨_, rfl⟩
    apply Nat.le_of_not_lt
    intro earlier
    exact before other earlier hit
  · rintro ⟨⟨entry, present, hit⟩, least⟩
    rcases List.getElem?_eq_some_iff.mp present with ⟨inside, rfl⟩
    refine ⟨inside, hit, ?_⟩
    intro other earlier found
    have behind := least ⟨_, List.getElem?_eq_getElem (Nat.lt_trans earlier inside), found⟩
    exact Nat.not_lt.mpr behind earlier

theorem head?_eq_some_iff_isLeast {list : List Nat} {first : Nat}
    (ascending : list.Pairwise (· < ·)) :
    list.head? = some first ↔ IsLeast {entry | entry ∈ list} first := by
  cases list with
  | nil => simp [IsLeast]
  | cons head rest =>
      have least : IsLeast {entry | entry ∈ head :: rest} head := by
        refine ⟨List.mem_cons_self, ?_⟩
        intro entry mem
        rcases List.mem_cons.mp mem with rfl | behind
        · exact Nat.le_refl _
        · exact Nat.le_of_lt (List.rel_of_pairwise_cons ascending behind)
      rw [List.head?_cons, Option.some.injEq]
      constructor
      · rintro rfl
        exact least
      · intro other
        exact Nat.le_antisymm (least.2 other.1) (other.2 least.1)

namespace LinkTable

variable {table : LinkTable} {id : LinkId} {slot start : Nat} {record : LinkRecord}

/-- The slots with a record of a link. -/
def slotsOf (table : LinkTable) (id : LinkId) : Set Nat :=
  {slot | ∃ record, table.records[slot]? = some record ∧ record.id = id}

/-- The slots from a given one on with a record that is not in use. -/
def unusedFrom (table : LinkTable) (start : Nat) : Set Nat :=
  {slot | start ≤ slot ∧ ∃ record, table.records[slot]? = some record ∧ record.flags.inUse = false}

theorem position?_eq_some_iff :
    table.position? id = some slot ↔ IsLeast (table.slotsOf id) slot := by
  rw [position?_eq_findIdx?, findIdx?_eq_some_iff_isLeast]
  simp only [decide_eq_true_eq]
  rfl

theorem position?_eq_none_iff : table.position? id = none ↔ table.slotsOf id = ∅ := by
  rw [position?_eq_findIdx?, List.findIdx?_eq_none_iff, Set.eq_empty_iff_forall_notMem]
  constructor
  · rintro absent slot ⟨record, present, same⟩
    simpa [same] using absent record (List.mem_of_getElem? present)
  · intro empty record mem
    rcases List.getElem?_of_mem mem with ⟨slot, present⟩
    simpa using fun same => empty slot ⟨record, present, same⟩

theorem unusedFrom_eq (table : LinkTable) (start : Nat) :
    table.unusedFrom start = {slot | slot ∈ table.freeFrom start} := by
  ext slot
  simp only [unusedFrom, Set.mem_ofPred_eq, mem_freeFrom, isFree, Option.any_eq_true,
    RecordFlags.isAvailable, Bool.not_eq_true']

theorem nextAvailable?_eq_some_iff :
    table.nextAvailable? start = some slot ↔ IsLeast (table.unusedFrom start) slot := by
  rw [nextAvailable?_eq, unusedFrom_eq]
  exact head?_eq_some_iff_isLeast (table.pairwise_freeFrom start)

theorem nextAvailable?_eq_none_iff :
    table.nextAvailable? start = none ↔ table.unusedFrom start = ∅ := by
  rw [nextAvailable?_eq, unusedFrom_eq, List.head?_eq_none_iff, Set.eq_empty_iff_forall_notMem,
    List.eq_nil_iff_forall_not_mem]
  rfl

/-- The table after an attempt to store a record. One that is refused leaves the table as it is. -/
def attempt (table : LinkTable) (place : Nat × LinkRecord) : LinkTable :=
  match table.write place.1 place.2 with
  | .ok stored => stored
  | .error _ => table

theorem attempt_of_le (inside : slot ≤ table.size) :
    table.attempt (slot, record) = table.store slot record := by
  rw [attempt, write_of_le record inside]

theorem attempt_of_lt (outside : table.size < slot) : table.attempt (slot, record) = table := by
  rw [attempt, write_of_lt record outside]

theorem records_store (table : LinkTable) (slot : Nat) (record : LinkRecord) :
    (table.store slot record).records
      = if record.flags.isLast then table.records.take slot
        else if slot = table.size then table.records ++ [record]
        else table.records.set slot record := by
  rw [store, apply_ite records, apply_ite records]
  rfl

/-- After any attempts to store records, the index names the first slot of each link that is in the
table, and none for any other. The search for a slot finds the first record from there on that is
not in use. Another attempt fails exactly behind the slot that follows the table, and then it
changes neither the records nor their index. One that succeeds cuts the records off at the slot if
the new one is the last, appends it if the slot follows the table, and otherwise puts it into the
slot and nowhere else. -/
theorem lookups_reflect_records (records : List LinkRecord) (history : List (Nat × LinkRecord)) :
    let table := history.foldl attempt (ofRecords records)
    (∀ id slot, table.position? id = some slot ↔ IsLeast (table.slotsOf id) slot) ∧
      (∀ id, table.position? id = none ↔ table.slotsOf id = ∅) ∧
      (∀ start slot,
        table.nextAvailable? start = some slot ↔ IsLeast (table.unusedFrom start) slot) ∧
      (∀ start, table.nextAvailable? start = none ↔ table.unusedFrom start = ∅) ∧
      ∀ slot record,
        let next := table.attempt (slot, record)
        ((∃ error, table.write slot record = .error error) ↔ table.size < slot) ∧
          (table.size < slot →
            table.write slot record = .error (.invalidIndex slot table.size) ∧
              next.records = table.records ∧ next.index = table.index) ∧
          (slot ≤ table.size →
            table.write slot record = .ok next ∧
              next.records
                = if record.flags.isLast then table.records.take slot
                  else if slot = table.size then table.records ++ [record]
                  else table.records.set slot record) := by
  intro table
  refine ⟨fun _ _ => position?_eq_some_iff, fun _ => position?_eq_none_iff,
    fun _ _ => nextAvailable?_eq_some_iff, fun _ => nextAvailable?_eq_none_iff, ?_⟩
  intro slot record next
  refine ⟨?_, ?_, ?_⟩
  · constructor
    · rintro ⟨error, refused⟩
      apply Nat.lt_of_not_le
      intro inside
      rw [write_of_le record inside] at refused
      contradiction
    · intro outside
      exact ⟨_, write_of_lt record outside⟩
  · intro outside
    have unchanged : next = table := attempt_of_lt outside
    rw [unchanged]
    exact ⟨write_of_lt record outside, rfl, rfl⟩
  · intro inside
    have stored : next = table.store slot record := attempt_of_le inside
    rw [stored]
    exact ⟨write_of_le record inside, table.records_store slot record⟩

/-- The second one of two equal records is found when a tombstone is in the place of the first, and
nothing is found when the table then ends before it. -/
example :
    let record : LinkRecord := .responder 1 ⟨1, 2, 3⟩ 0 0 0
    let released := (ofRecords [record, record]).attempt (0, record.tombstone)
    released.position? record.id = some 1 ∧
      (released.attempt (1, .terminator)).position? record.id = none := by
  decide

end LinkTable

end Powerline
