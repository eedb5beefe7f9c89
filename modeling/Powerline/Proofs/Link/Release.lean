import Powerline.Proofs.Link.Plan

/-!
# Releasing links

To release a link is to put the tombstone of its first record into the slot of that record. A
tombstone stands for no link, so the next release of the same link finds its second record, and so
on. Releasing several links one after another therefore clears as many records of each as it is
named, the first ones, and leaves the others (`getElem?_releaseAll`).
-/

namespace Powerline

namespace LinkRecord

variable (record : LinkRecord)

theorem byte_tombstone_and (bits : UInt8) (apart : 0x02 &&& bits = 0) :
    record.tombstone.flags.byte &&& bits = record.flags.byte &&& (0x7f &&& bits) := by
  change (record.flags.byte &&& 0x7f ||| 0x02) &&& bits = _
  rw [or_and_of_apart _ apart, UInt8.and_assoc]

theorem inUse_tombstone : record.tombstone.flags.inUse = false := by
  rw [RecordFlags.inUse, byte_tombstone_and record 0x80 rfl]
  exact congrArg (· != 0) UInt8.and_zero

theorem isLast_tombstone : record.tombstone.flags.isLast = false :=
  isLast_notLast record.flags.release

theorem isController_tombstone :
    record.tombstone.flags.isController = record.flags.isController := by
  rw [RecordFlags.isController, byte_tombstone_and record 0x40 rfl]
  rfl

end LinkRecord

namespace LinkTable

/-- The write that releases a link, if it is in the table. -/
def release? (table : LinkTable) (wanted : LinkRecord) : Option (Nat × LinkRecord) := do
  let slot ← table.position? wanted.id
  let existing ← table.records[slot]?
  some (slot, existing.tombstone)

/-- The table with one link released. -/
def release (table : LinkTable) (wanted : LinkRecord) : LinkTable :=
  table.storeAll (table.release? wanted).toList

/-- The table with links released, one after another. -/
def releaseAll (table : LinkTable) (wanted : List LinkRecord) : LinkTable :=
  wanted.foldl release table

variable {table : LinkTable} {slot first : Nat} {record wanted : LinkRecord} {id : LinkId}

theorem release_of_absent (absent : table.position? wanted.id = none) :
    table.release wanted = table := by
  rw [release, release?, absent]
  rfl

theorem release_of_present (position : table.position? wanted.id = some first)
    (present : table.records[first]? = some record) :
    table.release wanted = .ofRecords (table.records.set first record.tombstone) := by
  rw [release, release?, position, Option.bind_eq_bind, Option.bind_some, present]
  exact store_inside (lt_size_of_getElem? present) record.isLast_tombstone

theorem getElem?_release (table : LinkTable) (wanted : LinkRecord) (slot : Nat) :
    (table.release wanted).records[slot]? = (table.records[slot]?).map fun old =>
      if table.position? wanted.id = some slot then old.tombstone else old := by
  cases position : table.position? wanted.id with
  | none => simp [release_of_absent position]
  | some first =>
      rcases exists_of_position? position with ⟨record, present, _⟩
      rw [release_of_present position present, records_ofRecords, List.getElem?_set]
      by_cases here : first = slot
      · subst here
        rcases List.getElem?_eq_some_iff.mp present with ⟨inside, rfl⟩
        simp [inside]
      · simp [here]

theorem size_release (table : LinkTable) (wanted : LinkRecord) :
    (table.release wanted).size = table.size := by
  cases position : table.position? wanted.id with
  | none => rw [release_of_absent position]
  | some first =>
      rcases exists_of_position? position with ⟨record, present, _⟩
      rw [release_of_present position present]
      exact List.length_set

theorem position?_eq_some_iff_count : table.position? id = some slot
    ↔ table.ids[slot]? = some id ∧ (table.ids.take slot).count id = 0 := by
  rw [position?_eq, List.findIdx?_eq_some_iff_getElem, List.getElem?_eq_some_iff,
    List.count_eq_zero]
  constructor
  · rintro ⟨inside, here, before⟩
    refine ⟨⟨inside, of_decide_eq_true here⟩, ?_⟩
    intro mem
    rcases List.mem_take_iff_getElem.mp mem with ⟨index, bound, same⟩
    exact before index (by omega) (decide_eq_true same)
  · rintro ⟨⟨inside, here⟩, before⟩
    refine ⟨inside, decide_eq_true here, ?_⟩
    intro index earlier same
    exact before (List.mem_take_iff_getElem.mpr
      ⟨index, by omega, of_decide_eq_true same⟩)

theorem position?_eq_none_iff_notMem : table.position? id = none ↔ id ∉ table.ids := by
  rw [position?_eq, List.findIdx?_eq_none_iff]
  constructor
  · intro absent mem
    simpa using absent id mem
  · rintro absent other mem
    rw [decide_eq_false_iff_not]
    rintro rfl
    exact absent mem

/-- A release takes one record of the link away, the first one, and what it leaves in its place
stands for no link. -/
theorem count_take_release (inUse : id.inUse = true) (table : LinkTable) (wanted : LinkRecord)
    (slot : Nat) :
    ((table.release wanted).ids.take slot).count id
      = (table.ids.take slot).count id - if wanted.id = id then 1 else 0 := by
  cases position : table.position? wanted.id with
  | none =>
      rw [release_of_absent position]
      split
      · next same =>
          have absent : id ∉ table.ids.take slot := by
            rw [← same]
            intro mem
            exact position?_eq_none_iff_notMem.mp position (List.mem_of_mem_take mem)
          rw [List.count_eq_zero_of_not_mem absent]
      · rfl
  | some first =>
      rcases exists_of_position? position with ⟨record, present, link⟩
      have released : (table.release wanted).ids = table.ids.set first record.tombstone.id := by
        rw [release_of_present position present]
        exact List.map_set
      have other : record.tombstone.id ≠ id := by
        rintro rfl
        rw [LinkRecord.id, LinkRecord.inUse_tombstone] at inUse
        contradiction
      rw [position?_eq_some_iff_count, List.getElem?_eq_some_iff] at position
      rcases position with ⟨⟨inside, here⟩, notBefore⟩
      rw [released, List.take_set]
      by_cases before : first < slot
      · have bound : first < (table.ids.take slot).length := by
          rw [List.length_take]
          omega
        rw [List.count_set bound, List.getElem_take, here, beq_false_of_ne other]
        simp
      · -- The change lies behind these slots, and none of them has the link.
        have short : (table.ids.take slot).length ≤ first := by
          rw [List.length_take]
          omega
        rw [List.set_eq_of_length_le short]
        split
        · next same =>
            have fewer : (table.ids.take slot).Sublist (table.ids.take first) :=
              List.take_sublist_take_left (Nat.le_of_not_lt before)
            have count := fewer.count_le wanted.id
            rw [same] at count notBefore
            omega
        · rfl

theorem size_releaseAll (table : LinkTable) (wanted : List LinkRecord) :
    (table.releaseAll wanted).size = table.size := by
  induction wanted generalizing table with
  | nil => rfl
  | cons first rest ih => exact (ih _).trans (table.size_release first)

theorem count_ids_of_free {wanted : List LinkRecord}
    (inUse : ∀ record ∈ wanted, record.id.inUse = true) (free : id.inUse = false) :
    (wanted.map LinkRecord.id).count id = 0 := by
  apply List.count_eq_zero_of_not_mem
  intro mem
  rcases List.mem_map.mp mem with ⟨record, there, rfl⟩
  rw [inUse record there] at free
  contradiction

/-- Of each link as many records are released as it is named, from the first one on. -/
theorem getElem?_releaseAll {wanted : List LinkRecord}
    (inUse : ∀ record ∈ wanted, record.id.inUse = true) (table : LinkTable) (slot : Nat) :
    (table.releaseAll wanted).records[slot]? = (table.records[slot]?).map fun old =>
      if (table.ids.take slot).count old.id < (wanted.map LinkRecord.id).count old.id
      then old.tombstone else old := by
  induction wanted generalizing table with
  | nil => simp [releaseAll]
  | cons first rest ih =>
      have all := inUse
      rw [List.forall_mem_cons] at inUse
      have behind : (table.releaseAll (first :: rest)).records[slot]? = _ :=
        ih inUse.2 (table.release first)
      rw [behind, getElem?_release, Option.map_map]
      cases present : table.records[slot]? with
      | none => rfl
      | some old =>
          have here : table.ids[slot]? = some old.id := by
            rw [ids, List.getElem?_map, present, Option.map_some]
          rw [Option.map_some, Option.map_some, Function.comp_apply]
          congr 1
          by_cases hit : table.position? first.id = some slot
          · -- The tombstone that is now in the slot stands for no link, so nobody names it.
            have free : old.tombstone.id.inUse = false := old.inUse_tombstone
            rcases position?_eq_some_iff_count.mp hit with ⟨link, notBefore⟩
            rw [here, Option.some.injEq] at link
            rw [if_pos hit, count_ids_of_free inUse.2 free, if_neg (Nat.not_lt_zero _), if_pos]
            rw [link, notBefore, ← link, List.map_cons, link, List.count_cons_self]
            exact Nat.zero_lt_succ _
          · rw [if_neg hit]
            cases used : old.id.inUse with
            | false =>
                rw [count_ids_of_free inUse.2 used, count_ids_of_free all used,
                  if_neg (Nat.not_lt_zero _), if_neg (Nat.not_lt_zero _)]
            | true =>
                rw [count_take_release used, List.map_cons, List.count_cons]
                by_cases same : first.id = old.id
                · -- The record that was released stands before this slot, and is named once less.
                  have earlier : (table.ids.take slot).count old.id ≠ 0 := by
                    intro notBefore
                    rw [same] at hit
                    exact hit (position?_eq_some_iff_count.mpr ⟨here, notBefore⟩)
                  simp only [same, beq_self_eq_true, ↓reduceIte]
                  apply if_congr _ rfl rfl
                  omega
                · simp [same]

/-- Of a link that was there more often than it is named, the rest stays. -/
theorem count_ids_releaseAll {wanted : List LinkRecord} (inUse : id.inUse = true)
    (table : LinkTable) :
    (table.releaseAll wanted).ids.count id
      = table.ids.count id - (wanted.map LinkRecord.id).count id := by
  induction wanted generalizing table with
  | nil => rfl
  | cons first rest ih =>
      have behind : (table.releaseAll (first :: rest)).ids.count id = _ := ih (table.release first)
      have once := count_take_release inUse table first table.size
      rw [List.take_of_length_le, List.take_of_length_le] at once
      · rw [behind, once, List.map_cons, List.count_cons]
        simp only [beq_iff_eq]
        omega
      · rw [ids, List.length_map]
        exact Nat.le_refl _
      · rw [ids, List.length_map]
        exact Nat.le_of_eq (table.size_release first)

theorem storeAll_plan_release? (table : LinkTable) (records : List LinkRecord) :
    table.storeAll (table.plan release? records) = table.releaseAll records :=
  storeAll_plan (fun _ _ => rfl) table records

theorem keepsOpen_of_mem_plan_release? {records : List LinkRecord} {place : Nat × LinkRecord}
    (mem : place ∈ table.plan release? records) : place.2.flags.isLast = false := by
  rcases mem_plan mem with ⟨table, record, _, chosen⟩
  simp only [release?, Option.bind_eq_bind, Option.bind_eq_some_iff, Option.some.injEq] at chosen
  rcases chosen with ⟨slot, _, existing, _, rfl⟩
  exact existing.isLast_tombstone

end LinkTable

end Powerline
