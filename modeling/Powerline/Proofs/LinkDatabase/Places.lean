import Powerline.Proofs.LinkDatabase.Mirror

/-!
# The places of writes

Which records an edit writes, and to which slots, is planned by the table that it finds when it is
opened (`Edit.planned`). It asks for these writes in their order, and one that fails is the last
(`Performs`). No planned slot lies behind the reach of the edit, which the length of the table and
the number of records give.
-/

namespace Powerline

namespace LinkTable

variable {choose : LinkTable → LinkRecord → Option (Nat × LinkRecord)} {place : Nat × LinkRecord}

theorem size_store_le {table : LinkTable} {slot : Nat} (record : LinkRecord)
    (inside : slot ≤ table.size) : (table.store slot record).size ≤ table.size + 1 := by
  cases isLast : record.flags.isLast with
  | true =>
      rw [size_store_of_isLast inside isLast]
      omega
  | false =>
      rw [size_store_of_keepsOpen inside isLast]
      omega

/-- If every choice lies in the table or right behind it, each write makes room for one record
more at most. -/
theorem plan_le (inside : ∀ table record place, choose table record = some place →
      place.1 ≤ table.size) (table : LinkTable) (records : List LinkRecord) :
    (∀ place ∈ table.plan choose records, place.1 ≤ table.size + records.length) ∧
      (table.storeAll (table.plan choose records)).size ≤ table.size + records.length := by
  induction records generalizing table with
  | nil => simp [plan, storeAll]
  | cons record rest ih =>
      rw [plan, List.length_cons, storeAll_append]
      cases chosen : choose table record with
      | none =>
          rcases ih table with ⟨behind, final⟩
          refine ⟨?_, Nat.le_succ_of_le final⟩
          intro place mem
          exact Nat.le_succ_of_le (behind place mem)
      | some first =>
          have here := inside table record first chosen
          have longer := size_store_le first.2 here
          rcases ih (table.store first.1 first.2) with ⟨behind, final⟩
          refine ⟨?_, Nat.le_trans final (by omega)⟩
          intro place mem
          rcases List.mem_cons.mp mem with rfl | later
          · omega
          · exact Nat.le_trans (behind place later) (by omega)

theorem lt_size_of_rewrite? {table : LinkTable} {wanted : LinkRecord}
    (chosen : table.rewrite? wanted = some place) : place.1 < table.size := by
  cases position : table.position? wanted.id with
  | none =>
      rw [rewrite?, position] at chosen
      contradiction
  | some slot =>
      rcases exists_of_position? position with ⟨record, present, _⟩
      rw [rewrite?_of_present position present] at chosen
      split at chosen
      · contradiction
      · rcases Option.some.inj chosen with rfl
        exact lt_size_of_getElem? present

theorem le_size_of_insertion? {table : LinkTable} {record : LinkRecord}
    (chosen : table.insertion? record = some place) : place.1 ≤ table.size := by
  rw [insertion?] at chosen
  split at chosen
  · rcases Option.some.inj chosen with rfl
    exact table.vacancy_le
  · contradiction

theorem lt_size_of_release? {table : LinkTable} {wanted : LinkRecord}
    (chosen : table.release? wanted = some place) : place.1 < table.size := by
  simp only [release?, Option.bind_eq_bind, Option.bind_eq_some_iff] at chosen
  rcases chosen with ⟨slot, _, record, present, same⟩
  rcases Option.some.inj same with rfl
  exact lt_size_of_getElem? present

theorem lt_size_of_mem_plan_release? {table : LinkTable} {records : List LinkRecord}
    (mem : place ∈ table.plan release? records) : place.1 < table.size := by
  induction records generalizing table with
  | nil => contradiction
  | cons record rest ih =>
      rcases List.mem_append.mp mem with now | later
      · exact lt_size_of_release? (Option.mem_toList.mp now)
      · rw [← table.size_release record]
        exact ih later

theorem lt_of_mem_vacancies {table : LinkTable} {start count slot : Nat}
    (mem : slot ∈ table.vacancies start count) : slot < table.size + count := by
  rcases List.mem_append.mp mem with free | behind
  · have inside := lt_size_of_isFree (mem_freeFrom.mp (List.mem_of_mem_take free)).2
    omega
  · have inside := (List.mem_range'_1.mp behind).2
    omega

theorem length_missing_le (table : LinkTable) (records : List LinkRecord) :
    (table.missing records).length ≤ records.length := by
  rw [missing, List.length_map]
  exact List.length_filter_le _ _

theorem eq_of_mem_closing {table : LinkTable} {before : Nat}
    (mem : place ∈ table.closing before) : place = (table.size, .terminator) := by
  rw [closing] at mem
  split at mem
  · exact List.mem_singleton.mp mem
  · contradiction

theorem le_of_mem_addPlan {table : LinkTable} {records : List LinkRecord}
    (mem : place ∈ table.addPlan records) : place.1 ≤ table.size + records.length := by
  rcases List.mem_append.mp mem with added | last
  · exact Nat.le_of_lt (lt_of_mem_vacancies (List.of_mem_zip added).1)
  · have grown := (table.storeAll_additions records).2.2.1
    rcases eq_of_mem_closing last with rfl
    omega

theorem le_of_mem_updatePlan {table : LinkTable} {records : List LinkRecord}
    (mem : place ∈ table.updatePlan records) : place.1 ≤ table.size + records.length := by
  have fewer := table.length_missing_le records
  have same := size_congr (table.ids_reflagAll records)
  rcases plan_le (fun _ _ _ => le_size_of_insertion?) (table.reflagAll records)
    (table.missing records) with ⟨inserted, final⟩
  rw [storeAll_plan_insertion?] at final
  rcases List.mem_append.mp mem with written | last
  · rcases List.mem_append.mp written with rewritten | new
    · exact (plan_le (fun _ _ _ chosen => Nat.le_of_lt (lt_size_of_rewrite? chosen)) table
        records).1 place rewritten
    · have behind := inserted place new
      omega
  · have grown : (table.upsert records).size
        ≤ (table.reflagAll records).size + (table.missing records).length := final
    rcases eq_of_mem_closing last with rfl
    omega

end LinkTable

/-- What goes over the wire when a record is written to a slot. -/
def addressed (place : Nat × LinkRecord) : UInt16 × LinkRecord :=
  (memoryAddress place.1, place.2)

namespace LinkDatabase

/-- The outcome has asked for planned writes one after another. If it brings a value, it has asked
for all of them, and the table is as they leave it. -/
structure Performs {α : Type} (database : LinkDatabase) (copy : LinkCopy)
    (plan : List (Nat × LinkRecord)) (condition : α → Prop) (outcome : Outcome LinkCopy α) :
    Prop where
  starts : outcome.exchanges.filterMap (Exchange.write? database.connection.address)
    <+: plan.map addressed
  finishes : ∀ value, outcome.result = .ok value → condition value ∧
    outcome.memory.table = copy.table.storeAll plan ∧
    outcome.exchanges.filterMap (Exchange.write? database.connection.address)
      = plan.map addressed

variable {database : LinkDatabase} {world : World} {past : List Exchange} {copy : LinkCopy}
  {slot : Nat} {record : LinkRecord}

namespace Performs

variable {α β : Type} {condition : α → Prop} {middle : β → Prop}
  {plan later : List (Nat × LinkRecord)}

theorem of_error {outcome : Outcome LinkCopy α} {error : Error}
    (failed : outcome.result = .error error)
    (starts : outcome.exchanges.filterMap (Exchange.write? database.connection.address)
      <+: plan.map addressed) : database.Performs copy plan condition outcome where
  starts := starts
  finishes := by
    intro value succeeded
    rw [failed] at succeeded
    contradiction

theorem pure {value : α} (holds : condition value) :
    database.Performs copy [] condition ((Pure.pure value : Work α).carryOut world past copy) where
  starts := List.nil_prefix
  finishes := by
    rintro _ ⟨⟩
    exact ⟨holds, rfl, rfl⟩

theorem bind {first : Work β} {second : β → Work α}
    (performs : database.Performs copy plan middle (first.carryOut world past copy))
    (next : ∀ past value between, middle value → between.table = copy.table.storeAll plan →
      database.Performs between later condition ((second value).carryOut world past between)) :
    database.Performs copy (plan ++ later) condition
      ((first >>= second).carryOut world past copy) := by
  rw [Dialogue.carryOut_bind]
  generalize first.carryOut world past copy = outcome at performs
  cases result : outcome.result with
  | error error =>
      rw [Outcome.andThen_of_error result]
      apply of_error rfl
      rw [List.map_append]
      exact performs.starts.trans (List.prefix_append _ _)
  | ok value =>
      rcases performs.finishes value result with ⟨holds, table, written⟩
      have rest := next (past ++ outcome.exchanges) value outcome.memory holds table
      rw [Outcome.andThen_of_ok result]
      constructor
      · rw [Outcome.exchanges_behind, List.filterMap_append, written, List.map_append]
        exact (List.prefix_append_right_inj _).mpr rest.starts
      · intro value succeeded
        rcases rest.finishes value succeeded with ⟨holds, final, behind⟩
        refine ⟨holds, ?_, ?_⟩
        · rw [LinkTable.storeAll_append, ← table]
          exact final
        · rw [Outcome.exchanges_behind, List.filterMap_append, written, behind, List.map_append]

theorem behind {outcome : Outcome LinkCopy α} {exchanges : List Exchange}
    (silent : exchanges.filterMap (Exchange.write? database.connection.address) = [])
    (performs : database.Performs copy plan condition outcome) :
    database.Performs copy plan condition (outcome.behind exchanges) := by
  refine ⟨?_, ?_⟩
  · rw [Outcome.exchanges_behind, List.filterMap_append, silent]
    exact performs.starts
  · intro value succeeded
    rcases performs.finishes value succeeded with ⟨holds, table, written⟩
    refine ⟨holds, table, ?_⟩
    rw [Outcome.exchanges_behind, List.filterMap_append, silent]
    exact written

theorem memory {second : LinkCopy → Work α}
    (performs : database.Performs copy plan condition ((second copy).carryOut world past copy)) :
    database.Performs copy plan condition
      ((Dialogue.memory >>= second).carryOut world past copy) := by
  rw [Dialogue.carryOut_bind, Dialogue.carryOut_memory, Outcome.andThen_ok, List.append_nil]
  exact performs

end Performs

/-- A write behind the table is refused and not asked for. -/
theorem performs_writeLink :
    database.Performs copy [(slot, record)] (fun _ => True)
      ((database.writeLink slot record).carryOut world past copy) := by
  by_cases inside : slot ≤ copy.table.size
  · have carriedOut := carryOut_writeLink database world past record inside
    generalize world.answer past (database.message (.write slot record)) = answer at carriedOut
    have asked : [database.exchange ⟨slot, record, answer⟩].filterMap
        (Exchange.write? database.connection.address) = [(slot, record)].map addressed :=
      List.filterMap_cons_some (write?_exchange database ⟨slot, record, answer⟩)
    have starts : [database.exchange ⟨slot, record, answer⟩].filterMap
        (Exchange.write? database.connection.address) <+: [(slot, record)].map addressed :=
      ⟨[], by rw [asked, List.append_nil]⟩
    rw [carriedOut]
    split
    · exact ⟨starts, fun _ _ => ⟨trivial, rfl, asked⟩⟩
    · exact .of_error rfl starts
  · rw [carryOut_writeLink_outside (Nat.lt_of_not_le inside)]
    exact .of_error rfl List.nil_prefix

theorem performs_writeFrom (records : List LinkRecord) :
    database.Performs copy (placements slot records) (fun _ => True)
      ((database.writeFrom slot records).carryOut world past copy) := by
  induction records generalizing slot copy past with
  | nil => exact .pure trivial
  | cons record rest ih => exact performs_writeLink.bind fun _ _ _ _ _ => ih

theorem performs_addFrom (records : List LinkRecord) (start : Nat) :
    database.Performs copy
      ((copy.table.vacancies start records.length).zip (records.map LinkRecord.notLast))
      (fun _ => True) ((database.addFrom start records).carryOut world past copy) := by
  induction records generalizing start copy past with
  | nil =>
      rw [List.map_nil, List.zip_nil_right]
      exact .pure trivial
  | cons record rest ih =>
      have keepsOpen : record.notLast.flags.isLast = false := isLast_notLast record.flags
      apply Performs.memory
      rw [List.length_cons, copy.table.vacancies_succ start rest.length keepsOpen]
      apply performs_writeLink.bind
      intro past _ between _ stored
      change between.table = copy.table.store _ record.notLast at stored
      rw [← stored]
      exact ih _

theorem performs_closeGrown (before : Nat) :
    database.Performs copy (copy.table.closing before) (fun _ => True)
      ((database.closeGrown before).carryOut world past copy) := by
  apply Performs.memory
  rw [LinkTable.closing]
  dsimp only
  split
  · exact performs_writeLink
  · exact .pure trivial

theorem performs_adjustFlags (records : List LinkRecord) :
    database.Performs copy (copy.table.plan LinkTable.rewrite? records)
      (fun missing => missing = copy.table.missing records)
      ((database.adjustFlags records).carryOut world past copy) := by
  induction records generalizing copy past with
  | nil => exact .pure rfl
  | cons record rest ih =>
      have first := copy.table.first?_eq record.id
      apply Performs.memory
      rw [LinkTable.missing_cons, LinkTable.plan_rewrite?_cons, id_notLast]
      cases position : copy.table.position? record.id with
      | none =>
          simp only [position, Option.bind_none] at first ⊢
          rw [LinkTable.rewrite?_of_absent first, LinkTable.reflag_of_absent first, first,
            Option.toList_none, List.nil_append, ← List.append_nil (copy.table.plan _ rest)]
          apply ih.bind
          rintro past missing between rfl _
          exact .pure rfl
      | some slot =>
          rcases LinkTable.exists_of_position? position with ⟨existing, found, _⟩
          simp only [position, found, Option.bind_some] at first ⊢
          rw [first, LinkTable.rewrite?_of_present position found]
          by_cases same : existing.flags = record.notLast.flags
          · have kept : copy.table.reflag record = copy.table := by
              apply LinkTable.reflag_eq_self
              intro other there
              rw [first, Option.some.injEq] at there
              rw [← there]
              exact same
            rw [if_pos same, if_neg (not_not_intro same), kept]
            exact ih
          · have next : copy.table.storeAll [(slot, existing.reflagged record)]
                = copy.table.reflag record := by
              rw [← LinkTable.storeAll_rewrite?, LinkTable.rewrite?_of_present position found,
                if_neg same]
              rfl
            rw [if_neg same, if_pos same]
            apply performs_writeLink.bind
            intro past _ between _ stored
            have rest := @ih past between
            rw [stored, next, LinkTable.missing_congr (copy.table.ids_reflag record)] at rest
            exact rest

theorem performs_insertMissing (records : List LinkRecord) :
    database.Performs copy (copy.table.plan LinkTable.insertion? records) (fun _ => True)
      ((database.insertMissing records).carryOut world past copy) := by
  induction records generalizing copy past with
  | nil => exact .pure trivial
  | cons record rest ih =>
      apply Performs.memory
      dsimp only
      rw [LinkTable.isNone_position?, LinkTable.plan, LinkTable.insertion?]
      split
      · apply performs_writeLink.bind
        intro past _ between _ stored
        have rest := @ih past between
        rw [stored] at rest
        exact rest
      · exact ih

theorem performs_releaseEach (records : List LinkRecord) :
    database.Performs copy (copy.table.plan LinkTable.release? records) (fun _ => True)
      ((database.releaseEach records).carryOut world past copy) := by
  induction records generalizing copy past with
  | nil => exact .pure trivial
  | cons record rest ih =>
      apply Performs.memory
      rw [LinkTable.plan]
      cases position : copy.table.position? record.id with
      | none =>
          simp only [LinkTable.release?, position]
          exact ih
      | some slot =>
          rcases LinkTable.exists_of_position? position with ⟨existing, found, _⟩
          simp only [LinkTable.release?, position, found, Option.bind_eq_bind, Option.bind_some]
          apply performs_writeLink.bind
          intro past _ between _ stored
          have rest := @ih past between
          rw [stored] at rest
          exact rest

end LinkDatabase

namespace Edit

open LinkDatabase (Performs)

/-- The writes of an edit, from the table that it finds when it is opened. -/
def planned (table : LinkTable) : Edit → List (Nat × LinkRecord)
  | write slot record => if slot ≤ table.size then [(slot, record)] else []
  | replace records => LinkDatabase.placements 0 records ++ [(records.length, .terminator)]
  | add records => table.addPlan records
  | update records => table.updatePlan records
  | remove records => table.plan LinkTable.release? records

/-- The last slot that an edit may write to, from the length of the table when it is opened. -/
def reach (size : Nat) : Edit → Nat
  | write slot _ => min slot size
  | replace records => records.length
  | add records | update records => size + records.length
  | remove _ => size - 1

theorem le_reach_of_mem_planned {edit : Edit} {table : LinkTable} {place : Nat × LinkRecord}
    (mem : place ∈ edit.planned table) : place.1 ≤ edit.reach table.size := by
  cases edit with
  | write slot record =>
      rw [planned] at mem
      split at mem
      · next inside =>
          rcases List.mem_singleton.mp mem with rfl
          exact Nat.le_min.mpr ⟨Nat.le_refl slot, inside⟩
      · contradiction
  | replace records =>
      rcases List.mem_append.mp mem with placed | last
      · have inside := (LinkDatabase.mem_placements placed).1
        rw [Nat.zero_add] at inside
        exact Nat.le_of_lt inside
      · rcases List.mem_singleton.mp last with rfl
        exact Nat.le_refl _
  | add records => exact LinkTable.le_of_mem_addPlan mem
  | update records => exact LinkTable.le_of_mem_updatePlan mem
  | remove records => exact Nat.le_sub_one_of_lt (LinkTable.lt_size_of_mem_plan_release? mem)

theorem performs_writing (edit : Edit) (database : LinkDatabase) (world : World)
    (past : List Exchange) (copy : LinkCopy) :
    database.Performs copy (edit.planned copy.table) (fun _ => True)
      ((edit.writing database).carryOut world past copy) := by
  cases edit with
  | write slot record =>
      rw [planned]
      split
      · exact LinkDatabase.performs_writeLink
      · next outside =>
          rw [writing, LinkDatabase.carryOut_writeLink_outside (Nat.lt_of_not_le outside)]
          exact .of_error rfl List.nil_prefix
  | replace records =>
      apply (LinkDatabase.performs_writeFrom records).bind
      intro past _ between _ _
      exact LinkDatabase.performs_writeLink
  | add records =>
      apply Performs.memory
      apply (LinkDatabase.performs_addFrom records 0).bind
      intro past _ between _ stored
      rw [← stored]
      exact LinkDatabase.performs_closeGrown _
  | update records =>
      rw [planned, LinkTable.updatePlan, List.append_assoc]
      apply (LinkDatabase.performs_adjustFlags records).bind
      rintro past missing between rfl reflagged
      rw [LinkTable.storeAll_plan_rewrite?] at reflagged
      apply Performs.memory
      rw [← reflagged]
      apply (LinkDatabase.performs_insertMissing _).bind
      intro past _ last _ inserted
      have upserted : last.table = copy.table.upsert records := by
        rw [inserted, LinkTable.storeAll_plan_insertion?, reflagged]
        rfl
      have same : between.table.size = copy.table.size := by
        rw [reflagged]
        exact LinkTable.size_congr (copy.table.ids_reflagAll records)
      rw [← upserted, ← same]
      exact LinkDatabase.performs_closeGrown _
  | remove records => exact LinkDatabase.performs_releaseEach records

theorem filterMap_opening (edit : Edit) (database : LinkDatabase) (world : World)
    (past : List Exchange) (copy : LinkCopy) :
    ((edit.opening database).carryOut world past copy).exchanges.filterMap
      (Exchange.write? database.connection.address) = [] := by
  apply List.filterMap_eq_nil_iff.mpr
  cases edit with
  | write | replace =>
      intro _ mem
      contradiction
  | add | update | remove => exact (database.refreshed copy world past).unwritten

theorem performs_finish (edit : Edit) (database : LinkDatabase) (world : World)
    (past : List Exchange) (copy : LinkCopy) :
    database.Performs copy [] (fun _ => True) (edit.finish.carryOut world past copy) := by
  have silent : (edit.finish.carryOut world past copy).exchanges.filterMap
      (Exchange.write? database.connection.address) = [] := by
    apply List.filterMap_eq_nil_iff.mpr
    intro exchange mem
    rcases eq_clock_of_mem_finish mem with ⟨now, rfl⟩
    rfl
  refine ⟨?_, ?_⟩
  · rw [silent]
    exact List.nil_prefix
  · intro _ _
    exact ⟨trivial, LinkDatabase.table_finish edit, silent⟩

/-- Whatever the modem answers, an edit asks for the writes that are planned when it has been
opened. -/
theorem performs_work (edit : Edit) (database : LinkDatabase) (world : World)
    (past : List Exchange) (copy : LinkCopy) :
    let opened := (edit.opening database).carryOut world past copy
    database.Performs opened.memory (edit.planned opened.memory.table) (fun _ => True)
      ((edit.work database).carryOut world past copy) := by
  intro opened
  have silent : opened.exchanges.filterMap (Exchange.write? database.connection.address) = [] :=
    edit.filterMap_opening database world past copy
  rw [work_eq, Dialogue.carryOut_bind]
  cases result : opened.result with
  | error error =>
      rw [Outcome.andThen_of_error result]
      apply Performs.of_error rfl
      rw [silent]
      exact List.nil_prefix
  | ok value =>
      rw [Outcome.andThen_of_ok result, ← List.append_nil (edit.planned _)]
      apply Performs.behind silent
      apply (edit.performs_writing database world _ _).bind
      intro past _ between _ _
      exact edit.performs_finish database world past between

end Edit

end Powerline
