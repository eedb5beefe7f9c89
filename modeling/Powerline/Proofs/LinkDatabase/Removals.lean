import Powerline.Proofs.LinkDatabase.Additions

/-!
# Removing links

A removal releases one record for each record that it is given: the first one of the link that is
still in use. A table that has a link more often than it is given keeps the rest of it, so that
nothing is left of the given links exactly if each of them is given often enough
(`remove_clears_iff`).
-/

namespace Powerline.Edit

variable {database : LinkDatabase} {world : World} {past : List Exchange} {copy : LinkCopy}
  {records : List LinkRecord}

theorem table_remove (fresh : copy.isStale database.maxAge (world.now past) = false)
    (succeeded : (((remove records).work database).carryOut world past copy).result = .ok ()) :
    (((remove records).work database).carryOut world past copy).memory.table
      = copy.table.releaseAll records := by
  have made := carryOut_of_planned (fun table => table.plan LinkTable.release? records) rfl
    succeeded fun _ _ => LinkDatabase.wrote_releaseEach records
  rw [made.1, LinkTable.storeAll_plan_release?, LinkDatabase.carryOut_refresh_of_fresh fresh]

/-- No record of the given links is left exactly if the table has none of them more often than it is
given. -/
theorem remove_clears_iff (database : LinkDatabase) (records : List LinkRecord) (world : World)
    (past : List Exchange) (copy : LinkCopy)
    (inUse : ∀ record ∈ records, record.flags.inUse = true)
    (fresh : copy.isStale database.maxAge (world.now past) = false)
    (succeeded : (((remove records).work database).carryOut world past copy).result = .ok ()) :
    let run := ((remove records).work database).carryOut world past copy
    let table := copy.table
    let final := run.memory.table
    let given := records.map LinkRecord.id
    final.size = table.size ∧
      (∀ slot, final.records[slot]? = (table.records[slot]?).map fun old =>
        if (table.ids.take slot).count old.id < given.count old.id then old.tombstone else old) ∧
      (∀ (slot : Nat) (old new : LinkRecord), table.records[slot]? = some old →
        final.records[slot]? = some new → new ≠ old →
          new.group = old.group ∧ new.address = old.address ∧
            new.data1 = old.data1 ∧ new.data2 = old.data2 ∧ new.data3 = old.data3 ∧
            new.flags.isController = old.flags.isController ∧
            new.flags.isAvailable = true ∧ new.flags.isLast = false) ∧
      (∀ id, id.inUse = true → final.ids.count id = table.ids.count id - given.count id) ∧
      ((∀ record ∈ records, ∀ left ∈ final.records,
          left.flags.inUse = true → left.id ≠ record.id) ↔
        ∀ record ∈ records, table.ids.count record.id ≤ given.count record.id) := by
  intro run table final given
  have released : final = table.releaseAll records := table_remove fresh succeeded
  have slots : ∀ slot, final.records[slot]? = (table.records[slot]?).map fun old =>
      if (table.ids.take slot).count old.id < given.count old.id then old.tombstone else old := by
    rw [released]
    exact LinkTable.getElem?_releaseAll inUse table
  have counts : ∀ id, id.inUse = true →
      final.ids.count id = table.ids.count id - given.count id := by
    intro id used
    rw [released]
    exact LinkTable.count_ids_releaseAll used table
  refine ⟨?_, slots, ?_, counts, ?_⟩
  · rw [released]
    exact table.size_releaseAll records
  · intro slot old new before after changed
    rw [slots, before, Option.map_some, Option.some.injEq] at after
    split at after
    · rw [← after]
      refine ⟨rfl, rfl, rfl, rfl, rfl, old.isController_tombstone, ?_, old.isLast_tombstone⟩
      rw [RecordFlags.isAvailable, old.inUse_tombstone]
      rfl
    · exact absurd after.symm changed
  · have left (record : LinkRecord) (mem : record ∈ records) :
        (∀ left ∈ final.records, left.flags.inUse = true → left.id ≠ record.id)
          ↔ table.ids.count record.id ≤ given.count record.id := by
      rw [← Nat.sub_eq_zero_iff_le, ← counts record.id (inUse record mem), List.count_eq_zero]
      constructor
      · intro cleared there
        rcases List.mem_map.mp there with ⟨left, held, same⟩
        have used : left.flags.inUse = record.flags.inUse := congrArg LinkId.inUse same
        exact cleared left held (used.trans (inUse record mem)) same
      · intro absent left held _ same
        apply absent
        rw [← same]
        exact List.mem_map_of_mem held
    exact forall₂_congr left

open LinkDatabase

/-- A table that has a link three times and is asked to release it twice, along with a link that it
has once and one that it does not have. The third record of the first link stays. -/
theorem remove_clears_iff_thrice :
    let copy : LinkCopy := ⟨.ofRecords [sampleRecord 1, sampleRecord 2, sampleRecord 1,
      sampleRecord 1], some 0⟩
    let records := [sampleRecord 1, sampleRecord 2, sampleRecord 5, sampleRecord 1]
    let run := ((remove records).work sample).carryOut (sampleWorld []) [] copy
    (∀ record ∈ records, record.flags.inUse = true) ∧
      copy.isStale sample.maxAge ((sampleWorld []).now []) = false ∧ run.result = .ok () ∧
      run.memory.table.records = [(sampleRecord 1).tombstone, (sampleRecord 2).tombstone,
        (sampleRecord 1).tombstone, sampleRecord 1] ∧
      ¬ ∀ record ∈ records, ∀ left ∈ run.memory.table.records,
        left.flags.inUse = true → left.id ≠ record.id := by
  intro copy records run
  have inUse : ∀ record ∈ records, record.flags.inUse = true := by decide
  have fresh : copy.isStale sample.maxAge ((sampleWorld []).now []) = false := rfl
  have succeeded : run.result = .ok () := rfl
  rcases remove_clears_iff sample records (sampleWorld []) [] copy inUse fresh succeeded with
    ⟨_, _, _, _, cleared⟩
  refine ⟨inUse, fresh, succeeded, by decide, ?_⟩
  rw [cleared]
  decide

/-- Of two equal records one is left in use when their link is removed. -/
theorem second_record_stays :
    let copy : LinkCopy := ⟨.ofRecords [sampleRecord 1, sampleRecord 1], some 0⟩
    let run := ((remove [sampleRecord 1]).work sample).carryOut (sampleWorld []) [] copy
    (sampleRecord 1).flags.inUse = true ∧
      copy.isStale sample.maxAge ((sampleWorld []).now []) = false ∧
      run.Acknowledged sample.connection ∧ run.result = .ok () ∧
      run.memory.table.records = [(sampleRecord 1).tombstone, sampleRecord 1] := by
  decide

end Powerline.Edit
