import Mathlib.Data.List.Basic
import Powerline.Proofs.Link.Upsert

/-!
# The writes that bring links into a table

A change of a table is made by writes of single records, each chosen from the table that the ones
before it left (`plan`). For links that are all different the choices do not depend on each other:
every record whose flags differ is written where it is, and the new ones go to the vacancies of the
table one after another.
-/

namespace Powerline.LinkTable

/-- The write that gives a link of the table the wanted flags, unless it has them. -/
def rewrite? (table : LinkTable) (wanted : LinkRecord) : Option (Nat × LinkRecord) := do
  let slot ← table.position? wanted.id
  let existing ← table.first? wanted.id
  if existing.flags = wanted.notLast.flags then none
  else some (slot, existing.reflagged wanted)

/-- The write that brings a link into the table, unless it is there. -/
def insertion? (table : LinkTable) (record : LinkRecord) : Option (Nat × LinkRecord) :=
  if (table.first? record.id).isNone then some (table.vacancy, record) else none

/-- Writes for one record after another, each chosen from the table that is left. -/
def plan (choose : LinkTable → LinkRecord → Option (Nat × LinkRecord)) (table : LinkTable) :
    List LinkRecord → List (Nat × LinkRecord)
  | [] => []
  | record :: rest =>
      (choose table record).toList
        ++ plan choose (table.storeAll (choose table record).toList) rest

/-- The write that ends the table anew if it has more records than before. -/
def closing (table : LinkTable) (before : Nat) : List (Nat × LinkRecord) :=
  if before < table.size then [(table.size, .terminator)] else []

/-- All the writes that add records: each to its vacancy, and the end of a table that grew. -/
def addPlan (table : LinkTable) (records : List LinkRecord) : List (Nat × LinkRecord) :=
  let places := (table.vacancies 0 records.length).zip (records.map LinkRecord.notLast)
  places ++ (table.storeAll places).closing table.size

/-- All the writes of an update. -/
def updatePlan (table : LinkTable) (records : List LinkRecord) : List (Nat × LinkRecord) :=
  table.plan rewrite? records
    ++ (table.reflagAll records).plan insertion? (table.missing records)
    ++ (table.upsert records).closing table.size

variable {table other : LinkTable} {slot : Nat} {record wanted : LinkRecord}
  {records : List LinkRecord}

theorem rewrite?_of_absent (absent : table.first? wanted.id = none) :
    table.rewrite? wanted = none := by
  simp [rewrite?, absent]

theorem rewrite?_of_present (position : table.position? wanted.id = some slot)
    (present : table.records[slot]? = some record) :
    table.rewrite? wanted = if record.flags = wanted.notLast.flags then none
      else some (slot, record.reflagged wanted) := by
  have first : table.first? wanted.id = some record := by
    rw [first?_eq, position]
    exact present
  simp [rewrite?, position, first]

theorem storeAll_rewrite? (table : LinkTable) (wanted : LinkRecord) :
    table.storeAll (table.rewrite? wanted).toList = table.reflag wanted := by
  cases position : table.position? wanted.id with
  | none =>
      have absent : table.first? wanted.id = none := by
        rw [first?_eq, position]
        rfl
      rw [rewrite?_of_absent absent, reflag_of_absent absent]
      rfl
  | some slot =>
      rcases exists_of_position? position with ⟨record, present, _⟩
      have first : table.first? wanted.id = some record := by
        rw [first?_eq, position]
        exact present
      rw [rewrite?_of_present position present]
      split
      · next same =>
          rw [reflag_eq_self]
          · rfl
          · intro found there
            rw [first, Option.some.injEq] at there
            rw [← there]
            exact same
      · rw [position?_eq_findIdx?] at position
        rw [reflag, reflagFirst_eq_set position present]
        exact store_inside (lt_size_of_getElem? present) (LinkRecord.isLast_reflagged _ _)

theorem plan_rewrite?_cons (table : LinkTable) (record : LinkRecord) (rest : List LinkRecord) :
    table.plan rewrite? (record :: rest)
      = (table.rewrite? record).toList ++ (table.reflag record).plan rewrite? rest := by
  rw [plan, storeAll_rewrite?]

theorem storeAll_insertion? (table : LinkTable) (record : LinkRecord) :
    table.storeAll (table.insertion? record).toList = table.insert record := by
  rw [insertion?, insert]
  split
  · rfl
  · rfl

/-- Carrying out a plan makes one change after another. -/
theorem storeAll_plan {choose : LinkTable → LinkRecord → Option (Nat × LinkRecord)}
    {change : LinkTable → LinkRecord → LinkTable}
    (makes : ∀ table record, table.storeAll (choose table record).toList = change table record)
    (table : LinkTable) (records : List LinkRecord) :
    table.storeAll (table.plan choose records) = records.foldl change table := by
  induction records generalizing table with
  | nil => rfl
  | cons record rest ih =>
      rw [plan, storeAll_append, makes, ih]
      rfl

theorem storeAll_plan_rewrite? (table : LinkTable) (records : List LinkRecord) :
    table.storeAll (table.plan rewrite? records) = table.reflagAll records :=
  storeAll_plan storeAll_rewrite? table records

theorem storeAll_plan_insertion? (table : LinkTable) (records : List LinkRecord) :
    table.storeAll (table.plan insertion? records) = table.insertAll records :=
  storeAll_plan storeAll_insertion? table records

/-- The record that ends the table is no part of it. -/
theorem storeAll_closing (table : LinkTable) (before : Nat) :
    table.storeAll (table.closing before) = table := by
  rw [closing]
  split
  · exact LinkTable.ext List.take_length
  · rfl

/-- Added records are in the vacancies, the other slots are as before, and the table grows by the
records for which no slot was free. -/
theorem storeAll_additions (table : LinkTable) (records : List LinkRecord) :
    let slots := table.vacancies 0 records.length
    let final := table.storeAll (slots.zip (records.map LinkRecord.notLast))
    (∀ place ∈ slots.zip records, final.records[place.1]? = some place.2.notLast) ∧
      (∀ index ∉ slots, final.records[index]? = table.records[index]?) ∧
      final.size = table.size + (records.length - (table.freeFrom 0).length) ∧
      final.closing table.size = if (table.freeFrom 0).length < records.length
        then [(final.size, .terminator)] else [] := by
  intro slots final
  have keepOpen : ∀ record ∈ records.map LinkRecord.notLast, record.flags.isLast = false := by
    intro record mem
    rcases List.mem_map.mp mem with ⟨given, _, rfl⟩
    exact isLast_notLast given.flags
  rcases table.getElem?_storeAll_vacancies 0 keepOpen with ⟨placed, untouched⟩
  have size := table.size_storeAll_vacancies 0 keepOpen
  rw [List.length_map] at placed untouched size
  have grown : final.size = table.size + (records.length - (table.freeFrom 0).length) := size
  refine ⟨?_, untouched, grown, ?_⟩
  · intro place mem
    apply placed (place.1, place.2.notLast)
    rw [List.zip_map_right]
    exact List.mem_map_of_mem mem
  · have longer : table.size < final.size ↔ (table.freeFrom 0).length < records.length := by omega
    simp only [closing, longer]

theorem storeAll_addPlan (table : LinkTable) (records : List LinkRecord) :
    table.storeAll (table.addPlan records) = table.storeAll
      ((table.vacancies 0 records.length).zip (records.map LinkRecord.notLast)) := by
  rw [addPlan, storeAll_append, storeAll_closing]

theorem storeAll_updatePlan (table : LinkTable) (records : List LinkRecord) :
    table.storeAll (table.updatePlan records) = table.upsert records := by
  rw [updatePlan, storeAll_append, storeAll_append, storeAll_plan_rewrite?,
    storeAll_plan_insertion?]
  exact storeAll_closing _ _

theorem missing_congr (same : table.ids = other.ids) (records : List LinkRecord) :
    table.missing records = other.missing records := by
  have absence (record : LinkRecord) :
      (table.first? record.id).isNone = (other.first? record.id).isNone := by
    rw [← isNone_position?, ← isNone_position?, position?_congr same]
  simp only [missing, absence]

theorem mem_plan {choose : LinkTable → LinkRecord → Option (Nat × LinkRecord)}
    {place : Nat × LinkRecord} (mem : place ∈ table.plan choose records) :
    ∃ table, ∃ record ∈ records, choose table record = some place := by
  induction records generalizing table with
  | nil => contradiction
  | cons record rest ih =>
      rcases List.mem_append.mp mem with now | later
      · exact ⟨table, record, List.mem_cons_self, Option.mem_toList.mp now⟩
      · rcases ih later with ⟨table, other, behind, chosen⟩
        exact ⟨table, other, List.mem_cons_of_mem record behind, chosen⟩

theorem isLast_of_rewrite? {place : Nat × LinkRecord}
    (chosen : table.rewrite? wanted = some place) : place.2.flags.isLast = false := by
  simp only [rewrite?, Option.bind_eq_bind, Option.bind_eq_some_iff] at chosen
  rcases chosen with ⟨slot, _, existing, _, written⟩
  split at written
  · contradiction
  · rw [Option.some.injEq] at written
    rw [← written]
    exact LinkRecord.isLast_reflagged existing wanted

theorem keepsOpen_of_mem_plan_rewrite? {place : Nat × LinkRecord}
    (mem : place ∈ table.plan rewrite? records) : place.2.flags.isLast = false := by
  rcases mem_plan mem with ⟨table, record, _, chosen⟩
  exact isLast_of_rewrite? chosen

theorem eq_of_insertion? {place : Nat × LinkRecord}
    (chosen : table.insertion? record = some place) : place.2 = record := by
  rw [insertion?] at chosen
  split at chosen
  · rw [Option.some.injEq] at chosen
    rw [← chosen]
  · contradiction

theorem keepsOpen_of_mem_plan_insertion? {place : Nat × LinkRecord}
    (keepOpen : ∀ record ∈ records, record.flags.isLast = false)
    (mem : place ∈ table.plan insertion? records) : place.2.flags.isLast = false := by
  rcases mem_plan mem with ⟨table, record, given, chosen⟩
  rw [eq_of_insertion? chosen]
  exact keepOpen record given

theorem keepsOpen_of_mem_zip_notLast {slots : List Nat} {place : Nat × LinkRecord}
    (mem : place ∈ slots.zip (records.map LinkRecord.notLast)) :
    place.2.flags.isLast = false := by
  rcases List.mem_map.mp (List.of_mem_zip mem).2 with ⟨record, _, same⟩
  rw [← same]
  exact isLast_notLast record.flags

/-- The flags of another link do not matter. -/
theorem rewrite?_reflag (apart : wanted.id ≠ record.id) (table : LinkTable) :
    (table.reflag wanted).rewrite? record = table.rewrite? record := by
  rw [rewrite?, rewrite?, position?_congr (table.ids_reflag wanted), first?_reflag, if_neg apart]

theorem plan_rewrite? (distinct : (records.map LinkRecord.id).Nodup) (table : LinkTable) :
    table.plan rewrite? records = records.filterMap table.rewrite? := by
  induction records generalizing table with
  | nil => rfl
  | cons first rest ih =>
      rw [List.map_cons, List.nodup_cons] at distinct
      have behind : rest.filterMap (table.reflag first).rewrite?
          = rest.filterMap table.rewrite? := by
        apply List.filterMap_congr
        intro other mem
        apply rewrite?_reflag
        intro same
        apply distinct.1
        rw [same]
        exact List.mem_map_of_mem mem
      rw [plan_rewrite?_cons, ih distinct.2, behind, List.filterMap_cons]
      cases table.rewrite? first with
      | none => rfl
      | some place => rfl

/-- New links that are all different take one vacancy after another. -/
theorem plan_insertion? (distinct : (records.map LinkRecord.id).Nodup)
    (keepOpen : ∀ record ∈ records, record.flags.isLast = false)
    (inUse : ∀ record ∈ records, record.id.inUse = true)
    (absent : ∀ record ∈ records, table.first? record.id = none) :
    table.plan insertion? records = (table.vacancies 0 records.length).zip records := by
  induction records generalizing table with
  | nil => rw [List.zip_nil_right, plan]
  | cons first rest ih =>
      rw [List.map_cons, List.nodup_cons] at distinct
      rw [List.forall_mem_cons] at keepOpen inUse absent
      have chosen : table.insertion? first = some (table.vacancy, first) := by
        rw [insertion?, absent.1]
        rfl
      have absentBehind : ∀ record ∈ rest, (table.insert first).first? record.id = none := by
        intro record mem
        have apart : first.id ≠ record.id := by
          intro same
          apply distinct.1
          rw [same]
          exact List.mem_map_of_mem mem
        rw [first?_insert keepOpen.1 (inUse.2 record mem), absent.2 record mem, if_neg apart]
        rfl
      have put : table.insert first = table.store table.vacancy first := by
        rw [insert, absent.1]
        rfl
      rw [plan, storeAll_insertion?, chosen, ih distinct.2 keepOpen.2 inUse.2 absentBehind, put,
        List.length_cons, vacancies_succ_of_inUse table rest.length keepOpen.1 inUse.1]
      rfl

theorem nodup_missing (distinct : (records.map LinkRecord.id).Nodup) (table : LinkTable) :
    ((table.missing records).map LinkRecord.id).Nodup := by
  have ids : (table.missing records).map LinkRecord.id
      = (records.filter fun record => (table.first? record.id).isNone).map LinkRecord.id := by
    rw [missing, List.map_map]
    apply List.map_congr_left
    intro record _
    exact id_notLast record
  rw [ids]
  exact distinct.sublist (List.filter_sublist.map LinkRecord.id)

/-- The new ones of different links take the vacancies that the table has before the update. -/
theorem plan_insertion?_missing (distinct : (records.map LinkRecord.id).Nodup)
    (inUse : ∀ record ∈ records, record.id.inUse = true) (table : LinkTable) :
    (table.reflagAll records).plan insertion? (table.missing records)
      = (table.vacancies 0 (table.missing records).length).zip (table.missing records) := by
  have slots := vacancies_congr (table.ids_reflagAll records) 0 (table.missing records).length
  rw [plan_insertion? (nodup_missing distinct table) (fun _ => isLast_of_mem_missing)
    (fun _ => inUse_of_mem_missing inUse), slots]
  intro record mem
  rw [← Option.isNone_iff_eq_none, isNone_first?_reflagAll, absent_of_mem_missing mem]
  rfl

theorem upsert_eq_storeAll (distinct : (records.map LinkRecord.id).Nodup)
    (inUse : ∀ record ∈ records, record.id.inUse = true) (table : LinkTable) :
    table.upsert records = (table.reflagAll records).storeAll
      ((table.vacancies 0 (table.missing records).length).zip (table.missing records)) := by
  rw [upsert, ← storeAll_plan_insertion?, plan_insertion?_missing distinct inUse]

theorem updatePlan_of_nodup (distinct : (records.map LinkRecord.id).Nodup)
    (inUse : ∀ record ∈ records, record.id.inUse = true) (table : LinkTable) :
    table.updatePlan records = records.filterMap table.rewrite?
      ++ (table.vacancies 0 (table.missing records).length).zip (table.missing records)
      ++ (table.upsert records).closing table.size := by
  rw [updatePlan, plan_rewrite? distinct, plan_insertion?_missing distinct inUse]

theorem isSome_rewrite? (table : LinkTable) (wanted : LinkRecord) :
    (table.rewrite? wanted).isSome
      = (table.first? wanted.id).any fun old => old.flags ≠ wanted.notLast.flags := by
  rw [rewrite?, first?_eq]
  cases position : table.position? wanted.id with
  | none => rfl
  | some slot =>
      rcases exists_of_position? position with ⟨record, present, _⟩
      by_cases same : record.flags = wanted.notLast.flags
      · simp [present, same]
      · simp [present, same]

end Powerline.LinkTable
