import Powerline.Proofs.LinkDatabase.Mirror

/-!
# Links that an edit was not asked about

Adding, updating and removing links choose their slots from a copy that the writes before have
changed already. Each write still goes right behind the table, over a free record, or over the
record of a link that the edit was asked about (`Permits`). Such writes leave every other link in
its slot (`Spares`), whether the edit comes to its end or stops at a write that fails.
-/

namespace Powerline

namespace LinkTable

variable {asked : List LinkId} {id : LinkId} {table : LinkTable} {slot index : Nat}
  {record found : LinkRecord}

/-- The slot holds the record of a link that is none of those asked about. -/
structure Bystander (asked : List LinkId) (table : LinkTable) (slot : Nat) (record : LinkRecord) :
    Prop where
  present : table.records[slot]? = some record
  inUse : record.flags.inUse = true
  unasked : record.id ∉ asked

/-- An edit that was asked about these links may write the record to the slot: right behind the
table, or over a record that is free or stands for one of them. There it must not end the table. -/
inductive Permits (asked : List LinkId) (table : LinkTable) (slot : Nat) (record : LinkRecord) :
    Prop where
  | behind (atEnd : slot = table.size)
  | inPlace {existing : LinkRecord} (present : table.records[slot]? = some existing)
      (licensed : existing.flags.isAvailable = true ∨ existing.id ∈ asked)
      (keepsOpen : record.flags.isLast = false)

theorem permits_nextAvailable? (start : Nat) (keepsOpen : record.flags.isLast = false) :
    Permits asked table ((table.nextAvailable? start).getD table.size) record := by
  cases free : table.nextAvailable? start with
  | none => exact .behind rfl
  | some slot =>
      rcases exists_of_nextAvailable? free with ⟨existing, present, available⟩
      exact .inPlace present (Or.inl available) keepsOpen

theorem permits_position? (position : table.position? id = some slot) (mem : id ∈ asked)
    (keepsOpen : record.flags.isLast = false) : Permits asked table slot record := by
  rcases exists_of_position? position with ⟨existing, present, same⟩
  apply Permits.inPlace present _ keepsOpen
  rw [same]
  exact Or.inr mem

namespace Permits

theorem inside (permits : Permits asked table slot record) : slot ≤ table.size := by
  cases permits with
  | behind atEnd => omega
  | inPlace present => exact Nat.le_of_lt (lt_size_of_getElem? present)

theorem keeps (permits : Permits asked table slot record) :
    record.flags.isLast = false ∨ slot = table.size := by
  cases permits with
  | behind atEnd => exact Or.inr atEnd
  | inPlace _ _ keepsOpen => exact Or.inl keepsOpen

theorem size_le (permits : Permits asked table slot record) :
    table.size ≤ (table.store slot record).size := by
  have inside := permits.inside
  cases isLast : record.flags.isLast with
  | false =>
      have size := size_store_of_keepsOpen inside isLast
      omega
  | true =>
      have size := size_store_of_isLast inside isLast
      rcases permits.keeps with keepsOpen | atEnd
      · simp [isLast] at keepsOpen
      · omega

/-- A permitted write goes past a bystander, which stays one. -/
theorem bystander_store (permits : Permits asked table slot record)
    (bystander : Bystander asked table index found) :
    slot ≠ index ∧ Bystander asked (table.store slot record) index found := by
  rcases bystander with ⟨present, inUse, unasked⟩
  have before : index < table.size := lt_size_of_getElem? present
  have other : slot ≠ index := by
    cases permits with
    | behind atEnd => omega
    | inPlace there licensed =>
        rintro rfl
        rw [present, Option.some.injEq] at there
        subst there
        rcases licensed with available | mem
        · simp [RecordFlags.isAvailable, inUse] at available
        · exact unasked mem
  refine ⟨other, ?_, inUse, unasked⟩
  rw [getElem?_store_of_ne before other permits.keeps]
  exact present

end Permits

end LinkTable

/-- Writes that lead from one table to another without touching a bystander: the table has not
become shorter, and nothing was written behind its end. -/
structure Spares (asked : List LinkId) (before : LinkTable) (writes : List SlotWrite)
    (final : LinkTable) : Prop where
  grows : before.size ≤ final.size
  covers : ∀ write ∈ writes, write.slot ≤ final.size
  kept : ∀ slot record, before.Bystander asked slot record →
    final.Bystander asked slot record ∧ ∀ write ∈ writes, write.slot ≠ slot

namespace LinkDatabase

open LinkTable (Permits)

/-- How a work comes to its end that makes permitted writes only. It fails with a write that the
copy does not take over, or brings a value that fulfils the condition. -/
inductive Confined {α : Type} (database : LinkDatabase) (asked : List LinkId)
    (condition : α → Prop) : LinkCopy → Outcome LinkCopy α → Prop where
  | done {copy : LinkCopy} {value : α} (holds : condition value) :
      Confined database asked condition copy ⟨.ok value, copy, []⟩
  | failed {copy : LinkCopy} {failing : SlotWrite} {error : Error}
      (permits : Permits asked copy.table failing.slot failing.record) :
      Confined database asked condition copy ⟨.error error, copy, [database.exchange failing]⟩
  | write {copy : LinkCopy} {write : SlotWrite} {outcome : Outcome LinkCopy α}
      (permits : Permits asked copy.table write.slot write.record)
      (later : Confined database asked condition
        { copy with table := copy.table.store write.slot write.record } outcome) :
      Confined database asked condition copy (outcome.behind [database.exchange write])

variable {database : LinkDatabase} {asked : List LinkId} {copy : LinkCopy} {world : World}
  {past : List Exchange} {slot : Nat} {record : LinkRecord}

namespace Confined

variable {α β : Type} {condition : α → Prop} {middle : β → Prop}

theorem andThen {outcome : Outcome LinkCopy β}
    {next : β → LinkCopy → List Exchange → Outcome LinkCopy α}
    (confined : database.Confined asked middle copy outcome)
    (later : ∀ value copy exchanges, middle value →
      database.Confined asked condition copy (next value copy exchanges)) :
    database.Confined asked condition copy (outcome.andThen next) := by
  induction confined generalizing next with
  | done holds =>
      rw [Outcome.andThen_ok, Outcome.behind_nil]
      exact later _ _ _ holds
  | failed permits =>
      rw [Outcome.andThen_error]
      exact .failed permits
  | write permits _ ih =>
      rw [Outcome.andThen_behind]
      apply Confined.write permits
      apply ih
      intro value copy exchanges holds
      exact later _ _ _ holds

theorem bind {first : Work β} {second : β → Work α}
    (confined : database.Confined asked middle copy (first.carryOut world past copy))
    (later : ∀ past value copy, middle value →
      database.Confined asked condition copy ((second value).carryOut world past copy)) :
    database.Confined asked condition copy ((first >>= second).carryOut world past copy) := by
  rw [Dialogue.carryOut_bind]
  apply confined.andThen
  intro value copy exchanges holds
  exact later _ _ _ holds

theorem memory {second : LinkCopy → Work α}
    (later : database.Confined asked condition copy ((second copy).carryOut world past copy)) :
    database.Confined asked condition copy
      ((Dialogue.memory >>= second).carryOut world past copy) := by
  rw [Dialogue.carryOut_bind, Dialogue.carryOut_memory, Outcome.andThen_ok, List.append_nil]
  exact later

/-- Permitted writes spare the bystanders, up to the one that fails and with it. -/
theorem spares {outcome : Outcome LinkCopy α}
    (confined : database.Confined asked condition copy outcome) :
    ∃ writes : List SlotWrite, outcome.exchanges = writes.map database.exchange ∧
      Spares asked copy.table writes outcome.memory.table := by
  induction confined with
  | @done copy value holds =>
      refine ⟨[], rfl, Nat.le_refl _, by simp, ?_⟩
      intro slot record bystander
      exact ⟨bystander, by simp⟩
  | @failed copy failing error permits =>
      refine ⟨[failing], rfl, Nat.le_refl _, ?_, ?_⟩
      · simpa using permits.inside
      · intro slot record bystander
        refine ⟨bystander, ?_⟩
        simpa using (permits.bystander_store bystander).1
  | @write copy write outcome permits _ ih =>
      rcases ih with ⟨writes, exchanges, grows, covers, kept⟩
      have longer := permits.size_le
      have inside := permits.inside
      refine ⟨write :: writes, ?_, Nat.le_trans longer grows, ?_, ?_⟩
      · rw [Outcome.exchanges_behind, exchanges]
        rfl
      · intro made mem
        rcases List.mem_cons.mp mem with rfl | behind
        · exact Nat.le_trans inside (Nat.le_trans longer grows)
        · exact covers made behind
      · intro slot record bystander
        rcases permits.bystander_store bystander with ⟨other, stays⟩
        rcases kept slot record stays with ⟨final, untouched⟩
        refine ⟨final, ?_⟩
        intro made mem
        rcases List.mem_cons.mp mem with rfl | behind
        · exact other
        · exact untouched made behind

end Confined

theorem confined_writeLink (permits : Permits asked copy.table slot record) :
    database.Confined asked (fun _ => True) copy
      ((database.writeLink slot record).carryOut world past copy) := by
  have carriedOut := carryOut_writeLink database world past record permits.inside
  generalize world.answer past (database.message (.write slot record)) = answer at carriedOut
  have permitted : Permits asked copy.table (SlotWrite.mk slot record answer).slot
      (SlotWrite.mk slot record answer).record := permits
  rw [carriedOut]
  split
  · exact .write permitted (.done trivial)
  · exact .failed permitted

theorem confined_addFrom (records : List LinkRecord) (start : Nat) :
    database.Confined asked (fun _ => True) copy
      ((database.addFrom start records).carryOut world past copy) := by
  induction records generalizing start copy past with
  | nil => exact .done trivial
  | cons record rest ih =>
      apply Confined.memory
      apply (confined_writeLink (LinkTable.permits_nextAvailable? start _)).bind
      · intro past _ copy _
        exact ih _
      · exact isLast_notLast record.flags

theorem confined_closeGrown (before : Nat) :
    database.Confined asked (fun _ => True) copy
      ((database.closeGrown before).carryOut world past copy) := by
  apply Confined.memory
  dsimp only
  split
  · exact confined_writeLink (.behind rfl)
  · exact .done trivial

/-- The records that are left for later do not end the table. -/
theorem confined_adjustFlags {records : List LinkRecord}
    (asks : ∀ record ∈ records, record.id ∈ asked) :
    database.Confined asked (fun missing => ∀ record ∈ missing, record.flags.isLast = false) copy
      ((database.adjustFlags records).carryOut world past copy) := by
  induction records generalizing copy past with
  | nil => exact .done (by simp)
  | cons record rest ih =>
      rw [List.forall_mem_cons] at asks
      have wantedOpen : record.notLast.flags.isLast = false := isLast_notLast record.flags
      apply Confined.memory
      cases position : copy.table.position? record.notLast.id with
      | none =>
          simp only [position]
          apply (ih asks.2).bind
          intro past missing copy missingOpen
          apply Confined.done
          rw [List.forall_mem_cons]
          exact ⟨wantedOpen, missingOpen⟩
      | some slot =>
          cases found : copy.table.records[slot]? with
          | none =>
              simp only [position, found]
              exact ih asks.2
          | some existing =>
              simp only [position, found]
              split
              · have mem : record.notLast.id ∈ asked := by simpa using asks.1
                have permits : Permits asked copy.table slot
                    { existing with flags := record.notLast.flags } :=
                  LinkTable.permits_position? position mem wantedOpen
                apply (confined_writeLink permits).bind
                intro past _ copy _
                exact ih asks.2
              · exact ih asks.2

theorem confined_insertMissing {records : List LinkRecord}
    (missingOpen : ∀ record ∈ records, record.flags.isLast = false) :
    database.Confined asked (fun _ => True) copy
      ((database.insertMissing records).carryOut world past copy) := by
  induction records generalizing copy past with
  | nil => exact .done trivial
  | cons record rest ih =>
      rw [List.forall_mem_cons] at missingOpen
      apply Confined.memory
      dsimp only
      split
      · apply (confined_writeLink (LinkTable.permits_nextAvailable? 0 missingOpen.1)).bind
        intro past _ copy _
        exact ih missingOpen.2
      · exact ih missingOpen.2

theorem confined_releaseEach {records : List LinkRecord}
    (asks : ∀ record ∈ records, record.id ∈ asked) :
    database.Confined asked (fun _ => True) copy
      ((database.releaseEach records).carryOut world past copy) := by
  induction records generalizing copy past with
  | nil => exact .done trivial
  | cons record rest ih =>
      rw [List.forall_mem_cons] at asks
      apply Confined.memory
      cases position : copy.table.position? record.id with
      | none =>
          simp only [position]
          exact ih asks.2
      | some slot =>
          cases found : copy.table.records[slot]? with
          | none =>
              simp only [position, found]
              exact ih asks.2
          | some existing =>
              simp only [position, found]
              have permits : Permits asked copy.table slot existing.tombstone :=
                LinkTable.permits_position? position asks.1 (isLast_notLast _)
              apply (confined_writeLink permits).bind
              intro past _ copy _
              exact ih asks.2

/-- A write that goes past a slot names another address, unless the addresses come around. -/
theorem write?_ne_of_spares {before final : LinkTable} {writes : List SlotWrite}
    (spares : Spares asked before writes final) (fits : final.size < addressableSlots)
    (bystander : before.Bystander asked slot record) :
    ∀ exchange ∈ writes.map database.exchange, ∀ written,
      exchange.write? database.connection.address ≠ some (memoryAddress slot, written) := by
  intro exchange mem written same
  rcases List.mem_map.mp mem with ⟨write, made, rfl⟩
  rcases spares.kept slot record bystander with ⟨stays, untouched⟩
  rw [write?_exchange, Option.some.injEq, Prod.mk.injEq] at same
  have covered := spares.covers write made
  have inside : slot < final.size := LinkTable.lt_size_of_getElem? stays.present
  apply untouched write made
  exact memoryAddress_inj_of_addressable (by omega) (by omega) same.1

end LinkDatabase

namespace Edit

open LinkDatabase (Confined)

variable {database : LinkDatabase} {world : World} {past : List Exchange} {copy : LinkCopy}

/-- The edits that look for the slots of these records themselves. -/
def bulk (records : List LinkRecord) : List Edit :=
  [add records, update records, remove records]

theorem mem_bulk {edit : Edit} {records : List LinkRecord} :
    edit ∈ bulk records ↔ edit = add records ∨ edit = update records ∨ edit = remove records := by
  simp [bulk]

theorem confined_writing {edit : Edit} {records : List LinkRecord} (mem : edit ∈ bulk records) :
    database.Confined (records.map LinkRecord.id) (fun _ => True) copy
      ((edit.writing database).carryOut world past copy) := by
  have asks : ∀ record ∈ records, record.id ∈ records.map LinkRecord.id := by
    intro record mem
    exact List.mem_map_of_mem mem
  rcases mem_bulk.mp mem with rfl | rfl | rfl
  · apply Confined.memory
    apply (LinkDatabase.confined_addFrom records 0).bind
    intro past _ later _
    exact LinkDatabase.confined_closeGrown _
  · apply (LinkDatabase.confined_adjustFlags asks).bind
    intro past missing middle missingOpen
    apply Confined.memory
    apply (LinkDatabase.confined_insertMissing missingOpen).bind
    intro past _ later _
    exact LinkDatabase.confined_closeGrown _
  · exact LinkDatabase.confined_releaseEach asks

/-- Whatever the modem answers, adding, updating or removing links on a fresh copy leaves every
link alone that is none of those asked about, also if it fails at any of its writes: the record is
in its slot as before, none of the writes went there, and the table has not become shorter. On the
wire no write names the address of that slot, as long as the table is no longer than the addresses
can tell slots apart. -/
theorem spares_bystanders (database : LinkDatabase) (records : List LinkRecord) (world : World)
    (past : List Exchange) (copy : LinkCopy)
    (fresh : copy.isStale database.maxAge (world.now past) = false) :
    ∀ edit ∈ bulk records,
      let run := (edit.work database).carryOut world past copy
      copy.table.size ≤ run.memory.table.size ∧
      ∃ writes : List SlotWrite,
        run.exchanges = .clock (world.now past) :: writes.map database.exchange ∧
        ∀ slot record, copy.table.Bystander (records.map LinkRecord.id) slot record →
          run.memory.table.records[slot]? = some record ∧
          (∀ write ∈ writes, write.slot ≠ slot) ∧
          (run.memory.table.size < addressableSlots → ∀ exchange ∈ run.exchanges, ∀ written,
            exchange.write? database.connection.address
              ≠ some (memoryAddress slot, written)) := by
  intro edit mem run
  have opened : (edit.opening database).carryOut world past copy
      = ⟨.ok (), copy, [.clock (world.now past)]⟩ := by
    rcases mem_bulk.mp mem with rfl | rfl | rfl <;>
      exact LinkDatabase.carryOut_refresh_of_fresh fresh
  have finished : edit.finish = pure () := by
    rcases mem_bulk.mp mem with rfl | rfl | rfl <;> rfl
  have whole : run = ((edit.writing database).carryOut world
      (past ++ [.clock (world.now past)]) copy).behind [.clock (world.now past)] := by
    change (edit.work database).carryOut world past copy = _
    simp only [work_eq, finished, Dialogue.bind_pure_unit, Dialogue.carryOut_bind, opened,
      Outcome.andThen_ok]
  rcases (confined_writing mem).spares with ⟨writes, exchanges, spares⟩
  rw [whole, Outcome.memory_behind, Outcome.exchanges_behind, exchanges]
  refine ⟨spares.grows, writes, rfl, ?_⟩
  intro slot record bystander
  rcases spares.kept slot record bystander with ⟨stays, untouched⟩
  refine ⟨stays.present, untouched, ?_⟩
  intro fits exchange made written
  rcases List.mem_cons.mp made with rfl | behind
  · simp [Exchange.write?]
  · exact LinkDatabase.write?_ne_of_spares spares fits bystander exchange behind written

open LinkDatabase

/-- A fresh copy with a free record between others. The first one has other flags than it will be
asked to have. -/
def sampleCopy : LinkCopy where
  table := .ofRecords [{ sampleRecord 1 with flags := ⟨0xc2⟩ }, sampleRecord 2,
    (sampleRecord 3).tombstone, sampleRecord 4]
  refreshed := some 0

/-- The device falls silent after it has confirmed one write. -/
def sampleFailure : World :=
  { sampleWorld [] with
    answer := fun past _ => if past.length < 2 then .ok sampleAck else .error .readTimeout }

/-- An update of a link that is in the table and of one that is not: the write of the first is
confirmed, that of the second to the free slot between two bystanders fails. -/
theorem spares_bystanders_failing :
    let records := [sampleRecord 1, sampleRecord 5, sampleRecord 1]
    let run := ((update records).work sample).carryOut sampleFailure [] sampleCopy
    sampleCopy.isStale sample.maxAge (sampleFailure.now []) = false ∧
      run.result = .error .readTimeout ∧
      run.exchanges.filterMap (Exchange.write? sample.connection.address)
        = [(memoryAddress 0, sampleRecord 1), (memoryAddress 2, sampleRecord 5)] ∧
      run.memory.table.records
        = [sampleRecord 1, sampleRecord 2, (sampleRecord 3).tombstone, sampleRecord 4] ∧
      ∀ place ∈ [(1, sampleRecord 2), (3, sampleRecord 4)],
        run.memory.table.records[place.1]? = some place.2 ∧
        ∀ exchange ∈ run.exchanges, ∀ written,
          exchange.write? sample.connection.address ≠ some (memoryAddress place.1, written) := by
  intro records run
  have fresh : sampleCopy.isStale sample.maxAge (sampleFailure.now []) = false := rfl
  have spared := spares_bystanders sample records sampleFailure [] sampleCopy fresh
    (update records) (by simp [bulk])
  rcases spared with ⟨_, writes, _, kept⟩
  refine ⟨fresh, rfl, by decide, by decide, ?_⟩
  intro place mem
  have bystander :
      sampleCopy.table.Bystander (records.map LinkRecord.id) place.1 place.2 := by
    simp only [List.mem_cons, List.not_mem_nil, or_false] at mem
    rcases mem with rfl | rfl
    · exact ⟨rfl, rfl, by decide⟩
    · exact ⟨rfl, rfl, by decide⟩
  rcases kept place.1 place.2 bystander with ⟨stays, _, apart⟩
  exact ⟨stays, apart (by decide)⟩

end Edit

end Powerline
