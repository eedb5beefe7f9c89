import Powerline.Proofs.LinkDatabase.Places

/-!
# The addresses of writes

The memory below the first record has room for `maxRecords` slots. Nobody checks a slot against
that: a slot behind them has an address that has come around. What an operation writes stays in
the memory as far as its slots do, and how far they go depends on the length of the table and the
number of records (`Operation.reach`).
-/

namespace Powerline

/-- An address is counted down from the first one without coming around exactly if the slot lies in
the memory. -/
theorem memoryAddress_exact_iff (slot : Nat) :
    (memoryAddress slot).toNat + slot * recordSize = baseAddress.toNat ↔ slot < maxRecords := by
  have records : maxRecords = 512 := by decide
  have octets : recordSize = 8 := rfl
  have base : baseAddress.toNat = 4095 := by decide
  constructor
  · rw [octets, base, records]
    omega
  · intro inside
    rw [toNat_memoryAddress inside, base, octets]
    omega

/-- Two slots have the same address exactly if the addresses have come around between them. -/
theorem memoryAddress_eq_iff (slot other : Nat) :
    memoryAddress slot = memoryAddress other
      ↔ slot % addressableSlots = other % addressableSlots := by
  have slots : addressableSlots = 8192 := by decide
  have octets : recordSize = 8 := rfl
  have base : baseAddress.toNat = 4095 := by decide
  simp only [memoryAddress, ← UInt16.toNat_inj, UInt16.toNat_sub, UInt16.toNat_ofNat', base,
    octets, slots]
  omega

namespace Edit

/-- In a world that confirms everything, replacing the table writes all records and a terminator
behind them. -/
theorem replace_of_confirming (database : LinkDatabase) (world : World) (past : List Exchange)
    (copy : LinkCopy) (records : List LinkRecord)
    (confirming : ∀ past message, ∃ ack,
      database.connection.verdict (world.answer past message) = .ok ack) :
    let run := ((replace records).work database).carryOut world past copy
    run.result = .ok () ∧
      run.exchanges.filterMap (Exchange.write? database.connection.address)
        = (LinkDatabase.placements 0 records
            ++ [(records.length, LinkRecord.terminator)]).map addressed := by
  intro run
  have succeeded : run.result = .ok () := by
    cases result : run.result with
    | ok => rfl
    | error error =>
        have failed := (carryOut_of_writing_error rfl result).1
        have wrote : database.Wrote copy
            (fun _ writes final => (replace records).Leaves copy.table writes final)
            (((replace records).writing database).carryOut world (past ++ []) copy) :=
          wrote_replace records
        have met (exchange : Exchange) (mem : exchange ∈ (((replace records).writing
            database).carryOut world (past ++ []) copy).exchanges) : world.Meets exchange :=
          Dialogue.meets_of_mem_carryOut mem
        change (((replace records).writing database).carryOut world (past ++ []) copy).result = _
          at failed
        generalize ((replace records).writing database).carryOut world _ copy = written
          at failed wrote met
        cases wrote with
        | done => contradiction
        | @failed _ writes failing table _ _ _ failure =>
            rcases met (database.exchange failing) (by simp) with ⟨time, answer⟩
            rcases confirming time _ with ⟨ack, accepted⟩
            rw [answer, accepted] at failure
            contradiction
  have performs := (replace records).performs_work database world past copy
  exact ⟨succeeded, (performs.finishes () succeeded).2.2⟩

end Edit

namespace LinkDatabase

/-- What can be done with a link database. -/
inductive Operation where
  | refresh
  | links
  | expire
  | edit (change : Edit)

namespace Operation

/-- The dialogue of an operation. -/
def work (database : LinkDatabase) : Operation → Work Unit
  | refresh => database.refresh
  | links => do
      let _ ← database.links
  | expire => do
      let copy ← .memory
      .setMemory copy.expire
  | edit change => change.work database

/-- What an operation does before it writes anything. -/
def opening (database : LinkDatabase) : Operation → Work Unit
  | edit change => change.opening database
  | refresh | links | expire => pure ()

/-- The writes of an operation, from the table that it finds when it is opened. -/
def planned (table : LinkTable) : Operation → List (Nat × LinkRecord)
  | edit change => change.planned table
  | refresh | links | expire => []

/-- The last slot that an operation may write to, from the length of the table when it is
opened. -/
def reach (size : Nat) : Operation → Nat
  | edit change => change.reach size
  | refresh | links | expire => 0

theorem le_reach_of_mem_planned {operation : Operation} {table : LinkTable}
    {place : Nat × LinkRecord} (mem : place ∈ operation.planned table) :
    place.1 ≤ operation.reach table.size := by
  cases operation with
  | edit change => exact Edit.le_reach_of_mem_planned mem
  | refresh | links | expire => contradiction

end Operation

/-- Operations one after another, each from the copy that the one before has left, also if that
one failed. -/
def inTurn (database : LinkDatabase) : List Operation → Work Unit
  | [] => pure ()
  | operation :: rest => do
      let _ ← (operation.work database).attempt
      database.inTurn rest

/-- The slots that operations write to, and what they write there: of each the planned writes, as
many as it comes to. -/
def written (database : LinkDatabase) (world : World) :
    List Exchange → LinkCopy → List Operation → List (Nat × LinkRecord)
  | _, _, [] => []
  | past, copy, operation :: rest =>
      let opened := (operation.opening database).carryOut world past copy
      let run := (operation.work database).carryOut world past copy
      let count := (run.exchanges.filterMap (Exchange.write? database.connection.address)).length
      (operation.planned opened.memory.table).take count
        ++ database.written world (past ++ run.exchanges) run.memory rest

/-- The furthest reach of the operations. -/
def peak (database : LinkDatabase) (world : World) :
    List Exchange → LinkCopy → List Operation → Nat
  | _, _, [] => 0
  | past, copy, operation :: rest =>
      let opened := (operation.opening database).carryOut world past copy
      let run := (operation.work database).carryOut world past copy
      max (operation.reach opened.memory.table.size)
        (database.peak world (past ++ run.exchanges) run.memory rest)

variable {database : LinkDatabase} {world : World} {past : List Exchange} {copy : LinkCopy}

/-- Asking for the records goes as a refresh does. -/
theorem carryOut_work_links :
    (Operation.links.work database).carryOut world past copy
      = database.refresh.carryOut world past copy :=
  carryOut_links database world past copy

theorem writes_of_operation (operation : Operation) :
    ((operation.work database).carryOut world past copy).exchanges.filterMap
        (Exchange.write? database.connection.address)
      <+: (operation.planned
          ((operation.opening database).carryOut world past copy).memory.table).map addressed := by
  have silent : (database.refresh.carryOut world past copy).exchanges.filterMap
      (Exchange.write? database.connection.address) = [] :=
    List.filterMap_eq_nil_iff.mpr (database.refreshed copy world past).unwritten
  cases operation with
  | refresh =>
      rw [Operation.work, silent]
      exact List.nil_prefix
  | links =>
      rw [carryOut_work_links, silent]
      exact List.nil_prefix
  | expire => exact List.nil_prefix
  | edit change => exact (change.performs_work database world past copy).starts

theorem carryOut_inTurn (operation : Operation) (rest : List Operation) :
    (database.inTurn (operation :: rest)).carryOut world past copy
      = let run := (operation.work database).carryOut world past copy
        ((database.inTurn rest).carryOut world (past ++ run.exchanges) run.memory).behind
          run.exchanges := by
  simp only [inTurn, Dialogue.carryOut_bind, Dialogue.carryOut_attempt, Outcome.andThen_ok]

/-- The writes that operations ask for are those of the written places, in their order. -/
theorem writes_of_inTurn (operations : List Operation) :
    ((database.inTurn operations).carryOut world past copy).exchanges.filterMap
        (Exchange.write? database.connection.address)
      = (database.written world past copy operations).map addressed := by
  induction operations generalizing past copy with
  | nil => rfl
  | cons operation rest ih =>
      rw [carryOut_inTurn, written, Outcome.exchanges_behind, List.filterMap_append, ih,
        List.map_append, List.map_take,
        ← List.prefix_iff_eq_take.mp (writes_of_operation operation)]

/-- No operation writes behind the peak. -/
theorem le_peak_of_mem_written {operations : List Operation} {place : Nat × LinkRecord}
    (mem : place ∈ database.written world past copy operations) :
    place.1 ≤ database.peak world past copy operations := by
  induction operations generalizing past copy with
  | nil => contradiction
  | cons operation rest ih =>
      rcases List.mem_append.mp mem with now | later
      · exact Nat.le_trans (Operation.le_reach_of_mem_planned (List.mem_of_mem_take now))
          (Nat.le_max_left _ _)
      · exact Nat.le_trans (ih later) (Nat.le_max_right _ _)

/-- Whatever is done with a link database, and whatever the modem answers: the writes go to the
addresses of the slots that the operations write to, none of which lies behind the peak. An address
has not come around exactly if its slot lies in the memory, and two slots share one exactly if the
addresses have come around between them. So with a peak in the memory, every write goes to one of
its slots, and different slots have different addresses. -/
theorem addresses_of_writes (database : LinkDatabase) (operations : List Operation) (world : World)
    (past : List Exchange) (copy : LinkCopy) :
    let run := (database.inTurn operations).carryOut world past copy
    let places := database.written world past copy operations
    let peak := database.peak world past copy operations
    run.exchanges.filterMap (Exchange.write? database.connection.address)
        = places.map addressed ∧
      (∀ place ∈ places, place.1 ≤ peak ∧
        ((memoryAddress place.1).toNat + place.1 * recordSize = baseAddress.toNat
          ↔ place.1 < maxRecords)) ∧
      (∀ place ∈ places, ∀ other ∈ places,
        memoryAddress place.1 = memoryAddress other.1
          ↔ place.1 % addressableSlots = other.1 % addressableSlots) ∧
      (peak < maxRecords → ∀ place ∈ places,
        0x0007 ≤ memoryAddress place.1 ∧ memoryAddress place.1 ≤ 0x0fff ∧
          ∀ other ∈ places, place.1 ≠ other.1 →
            memoryAddress place.1 ≠ memoryAddress other.1) := by
  intro run places peak
  refine ⟨writes_of_inTurn operations, ?_, ?_, ?_⟩
  · intro place mem
    exact ⟨le_peak_of_mem_written mem, memoryAddress_exact_iff place.1⟩
  · intro place _ other _
    exact memoryAddress_eq_iff place.1 other.1
  · intro small place mem
    have inside : place.1 < maxRecords := Nat.lt_of_le_of_lt (le_peak_of_mem_written mem) small
    have address := toNat_memoryAddress inside
    have records : maxRecords = 512 := by decide
    have octets : recordSize = 8 := rfl
    have base : baseAddress.toNat = 4095 := by decide
    rw [octets, base] at address
    refine ⟨?_, ?_, ?_⟩
    · rw [UInt16.le_iff_toNat_le, address]
      simp only [UInt16.reduceToNat]
      omega
    · rw [UInt16.le_iff_toNat_le, address]
      exact Nat.sub_le _ _
    · intro other otherMem apart same
      have otherInside : other.1 < maxRecords :=
        Nat.lt_of_le_of_lt (le_peak_of_mem_written otherMem) small
      exact apart (memoryAddress_inj inside otherInside same)

/-- A table that fills the memory with its terminator in the last slot. -/
theorem addresses_of_writes_full :
    let operations := [Operation.edit (.replace (List.replicate 511 (sampleRecord 1)))]
    let run := (sample.inTurn operations).carryOut (sampleWorld []) [] {}
    sample.peak (sampleWorld []) [] {} operations < maxRecords ∧
      ∀ written ∈ run.exchanges.filterMap (Exchange.write? sample.connection.address),
        0x0007 ≤ written.1 ∧ written.1 ≤ 0x0fff := by
  intro operations run
  have small : sample.peak (sampleWorld []) [] {} operations < maxRecords := by
    have records : maxRecords = 512 := by decide
    simp only [operations, peak, Operation.reach, Edit.reach, List.length_replicate, records]
    omega
  refine ⟨small, ?_⟩
  rcases addresses_of_writes sample operations (sampleWorld []) [] {} with
    ⟨writes, _, _, inMemory⟩
  intro written mem
  rw [writes] at mem
  rcases List.mem_map.mp mem with ⟨place, placed, rfl⟩
  rcases inMemory small place placed with ⟨above, below, _⟩
  exact ⟨above, below⟩

/-- Replacing the table by as many records as the memory has slots puts the terminator to an address
that has come around and is that of no slot. With as many records as there are addresses for slots
the terminator goes where the first record went. Both succeed. -/
theorem terminator_comes_around :
    let run (count : Nat) := ((Edit.replace (List.replicate count (sampleRecord 1))).work
      sample).carryOut (sampleWorld []) [] {}
    let writes (count : Nat) :=
      (run count).exchanges.filterMap (Exchange.write? sample.connection.address)
    (run maxRecords).result = .ok () ∧
      (0xffff, LinkRecord.terminator) ∈ writes maxRecords ∧
      (∀ slot < maxRecords, memoryAddress slot ≠ 0xffff) ∧
      (run addressableSlots).result = .ok () ∧
      (memoryAddress 0, sampleRecord 1) ∈ writes addressableSlots ∧
      (memoryAddress 0, LinkRecord.terminator) ∈ writes addressableSlots := by
  intro run writes
  have replaced (count : Nat) : (run count).result = .ok () ∧ writes count
      = (placements 0 (List.replicate count (sampleRecord 1))
          ++ [(count, LinkRecord.terminator)]).map addressed := by
    have whole := Edit.replace_of_confirming sample (sampleWorld []) [] {}
      (List.replicate count (sampleRecord 1)) fun _ _ => ⟨sampleAck, rfl⟩
    rw [List.length_replicate] at whole
    exact whole
  have ended (count : Nat) : (memoryAddress count, LinkRecord.terminator) ∈ writes count := by
    rw [(replaced count).2]
    simp [addressed]
  refine ⟨(replaced _).1, ended maxRecords, ?_, (replaced _).1, ?_, ended addressableSlots⟩
  · intro slot inside same
    have counted := (memoryAddress_exact_iff slot).mpr inside
    have base : baseAddress.toNat = 4095 := by decide
    rw [same, base] at counted
    simp only [UInt16.reduceToNat] at counted
    omega
  · rw [(replaced addressableSlots).2]
    exact List.mem_cons_self

end LinkDatabase

end Powerline
