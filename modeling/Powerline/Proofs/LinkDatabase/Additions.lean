import Powerline.Proofs.LinkDatabase.Bystanders
import Powerline.Proofs.LinkDatabase.Requests

/-!
# Adding records

An edit whose writes are all acknowledged makes the writes that are planned for the table it starts
with, and nothing else goes out (`carryOut_of_acknowledged`). So added records lie one behind
another in the slots that were free, and behind the old end when there are no more of those.
-/

namespace Powerline

/-- Nothing that was exchanged failed. -/
def Outcome.Acknowledged {σ α : Type} (outcome : Outcome σ α) (connection : Connection) : Prop :=
  ∀ exchange ∈ outcome.exchanges, exchange.failure? connection = none

instance {σ α : Type} (outcome : Outcome σ α) (connection : Connection) :
    Decidable (outcome.Acknowledged connection) :=
  inferInstanceAs (Decidable (∀ exchange ∈ outcome.exchanges, exchange.failure? connection = none))

namespace Edit

open LinkDatabase (Operation)

variable {database : LinkDatabase} {edit : Edit} {world : World} {past : List Exchange}
  {copy : LinkCopy}

theorem result_of_acknowledged (fits : edit.Fits copy.table)
    (acknowledged :
      ((edit.work database).carryOut world past copy).Acknowledged database.connection) :
    ((edit.work database).carryOut world past copy).result = .ok () := by
  cases result : ((edit.work database).carryOut world past copy).result with
  | ok => rfl
  | error error =>
      rcases endsAtFailure_of_fits fits result with ⟨_, before, failing, after, exchanges, _,
        failure, _⟩
      have silent := acknowledged failing (by simp [exchanges])
      rw [failure] at silent
      contradiction

theorem finish_of_refreshes (begins : (Operation.edit edit).refreshes = true) :
    edit.finish = pure () := by
  cases edit with
  | write | replace => contradiction
  | add | update | remove => rfl

/-- An edit that succeeds makes the planned writes behind its refresh. -/
theorem carryOut_of_planned (plan : LinkTable → List (Nat × LinkRecord))
    (begins : (Operation.edit edit).refreshes = true)
    (succeeded : ((edit.work database).carryOut world past copy).result = .ok ())
    (planned : ∀ past copy, database.Wrote copy
      (fun _ writes _ => writes.map SlotWrite.place = plan copy.table)
      ((edit.writing database).carryOut world past copy)) :
    let run := (edit.work database).carryOut world past copy
    let read := database.refresh.carryOut world past copy
    run.memory = { read.memory with table := read.memory.table.storeAll (plan read.memory.table) } ∧
      run.packets = read.packets ++ database.writePackets (plan read.memory.table) := by
  intro run read
  rcases exists_writing_of_ok (fun before writes _ => writes.map SlotWrite.place = plan before)
    (fun past copy _ => planned past copy) succeeded with
    ⟨_, writes, table, writing, places, whole⟩
  have opened : (edit.opening database).carryOut world past copy = read := by
    rw [LinkDatabase.opening_eq_refresh database begins]
  rw [opened] at writing places
  have final := writing.eq_storeAll
  rw [places] at final
  simp only [run, whole, opened, finish_of_refreshes begins, Dialogue.carryOut_pure,
    Outcome.memory_behind, Outcome.packets_behind]
  refine ⟨by rw [final], ?_⟩
  rw [List.filterMap_append, LinkDatabase.filterMap_packet?_exchange, places]
  exact List.append_nil _

/-- On a fresh copy, an edit that is acknowledged makes the planned writes, and nothing else goes
out. -/
theorem carryOut_of_acknowledged (plan : LinkTable → List (Nat × LinkRecord))
    (begins : (Operation.edit edit).refreshes = true)
    (fresh : copy.isStale database.maxAge (world.now past) = false)
    (acknowledged :
      ((edit.work database).carryOut world past copy).Acknowledged database.connection)
    (planned : ∀ past copy, database.Wrote copy
      (fun _ writes _ => writes.map SlotWrite.place = plan copy.table)
      ((edit.writing database).carryOut world past copy)) :
    let run := (edit.work database).carryOut world past copy
    run.result = .ok () ∧
      run.memory = { copy with table := copy.table.storeAll (plan copy.table) } ∧
      run.packets = database.writePackets (plan copy.table) := by
  intro run
  have fits : edit.Fits copy.table := by
    cases edit with
    | write | replace => contradiction
    | add | update | remove => trivial
  have succeeded := result_of_acknowledged fits acknowledged
  have made := carryOut_of_planned plan begins succeeded planned
  rw [LinkDatabase.carryOut_refresh_of_fresh fresh] at made
  exact ⟨succeeded, made⟩

/-- Adding records on a fresh copy puts each of them into a slot of its own, without the last-record
mark: one after another into the free slots and, when there are no more, behind the old end. Only
these slots change, and the table grows by the records for which none was free. Each record is
written once, and a terminator behind the end if the table grew. -/
theorem add_fills_vacancies (database : LinkDatabase) (records : List LinkRecord) (world : World)
    (past : List Exchange) (copy : LinkCopy)
    (fresh : copy.isStale database.maxAge (world.now past) = false)
    (acknowledged :
      (((add records).work database).carryOut world past copy).Acknowledged database.connection) :
    let run := ((add records).work database).carryOut world past copy
    let table := copy.table
    let final := run.memory.table
    let free := (List.range table.size).filter table.isFree
    let slots := free.take records.length
      ++ List.range' table.size (records.length - free.length)
    run.result = .ok () ∧
      slots.length = records.length ∧ slots.Pairwise (· < ·) ∧
      (∀ place ∈ slots.zip records, final.records[place.1]? = some place.2.notLast) ∧
      (∀ index ∉ slots, final.records[index]? = table.records[index]?) ∧
      final.size = table.size + (records.length - free.length) ∧
      run.packets = database.writePackets (slots.zip (records.map LinkRecord.notLast)
        ++ if free.length < records.length then [(final.size, .terminator)] else []) := by
  intro run table final free slots
  have vacant : table.vacancies 0 records.length = slots := table.vacancies_zero records.length
  rcases table.storeAll_additions records with ⟨placed, untouched, grown, closing⟩
  rcases carryOut_of_acknowledged (fun table => table.addPlan records) rfl fresh acknowledged
    (fun _ _ => (wrote_add records).imp fun _ _ _ _ planned => planned.1) with
    ⟨succeeded, memory, packets⟩
  have stored : final = table.storeAll (slots.zip (records.map LinkRecord.notLast)) := by
    change run.memory.table = _
    rw [memory, LinkTable.storeAll_addPlan, vacant]
  rw [vacant, ← stored] at placed untouched grown closing
  rw [LinkTable.freeFrom_zero] at grown closing
  refine ⟨succeeded, ?_, ?_, placed, untouched, grown, ?_⟩
  · rw [← vacant]
    exact table.length_vacancies 0 records.length
  · rw [← vacant]
    exact table.pairwise_vacancies 0 records.length
  · rw [LinkTable.addPlan, vacant] at packets
    rw [← closing, stored]
    exact packets

open LinkDatabase

/-- Of three records that are added, one is marked as the last, and two are the same free record.
The first takes the free slot, and the table grows by the others. -/
theorem add_fills_vacancies_sample :
    let last := { sampleRecord 5 with flags := (sampleRecord 5).flags.asLast }
    let records := [last, (sampleRecord 6).tombstone, (sampleRecord 6).tombstone]
    let run := ((add records).work sample).carryOut (sampleWorld []) [] sampleCopy
    sampleCopy.isStale sample.maxAge ((sampleWorld []).now []) = false ∧
      run.Acknowledged sample.connection ∧ run.result = .ok () ∧
      run.memory.table.records
        = sampleCopy.table.records.set 2 (sampleRecord 5)
          ++ [(sampleRecord 6).tombstone, (sampleRecord 6).tombstone] ∧
      run.packets = sample.writePackets [(2, sampleRecord 5), (4, (sampleRecord 6).tombstone),
        (5, (sampleRecord 6).tombstone), (6, .terminator)] := by
  intro last records run
  have fresh : sampleCopy.isStale sample.maxAge ((sampleWorld []).now []) = false := rfl
  have acknowledged : run.Acknowledged sample.connection := by decide
  rcases add_fills_vacancies sample records (sampleWorld []) [] sampleCopy fresh acknowledged with
    ⟨succeeded, _, _, _, _, _, packets⟩
  refine ⟨fresh, acknowledged, succeeded, by decide, packets.trans ?_⟩
  exact congrArg sample.writePackets (by decide)

end Edit

end Powerline
