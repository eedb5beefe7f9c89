import Powerline.Proofs.LinkDatabase.Mirror

/-!
# Slots of a table that was read

A write reaches the memory of the device through the number of a slot in the copy, so that the copy
has to have every record in the slot that it came from. Reading compares the address of a response
only with the one before it and puts the records one behind the other. The numbers agree exactly if
the responses come in the order of the slots; a response that was lost, or that came again later,
shifts every record behind it.
-/

namespace Powerline

/-- A record of a link table and the memory address that it was reported for. -/
structure LinkReport where
  memory : UInt16
  record : LinkRecord
  deriving DecidableEq, Repr

/-- What a message reports of the link table, if it is a response. -/
def Message.linkReport? (message : Message) : Option LinkReport :=
  match message.linkRequest? with
  | some ⟨.response, memory, _, some record⟩ => some ⟨memory, record⟩
  | _ => none

theorem Message.linkReport?_of_linkRequest? {message : Message} {memory : UInt16} {count : UInt8}
    {record : LinkRecord}
    (request : message.linkRequest? = some ⟨.response, memory, count, some record⟩) :
    message.linkReport? = some ⟨memory, record⟩ := by
  simp only [linkReport?, request]

namespace LinkReading

/-- The reports whose records a reading keeps, given the address of the latest one: those before the
first last record that do not repeat the address before them. -/
def origins (latest : Option UInt16) : List LinkReport → List LinkReport
  | [] => []
  | report :: rest =>
      if latest = some report.memory then origins latest rest
      else if report.record.flags.isLast then []
      else report :: origins (some report.memory) rest

theorem origins_sublist (latest : Option UInt16) (reports : List LinkReport) :
    (origins latest reports).Sublist reports := by
  induction reports generalizing latest with
  | nil => exact .slnil
  | cons report rest ih =>
      simp only [origins]
      split
      · exact (ih latest).cons report
      · split
        · exact List.nil_sublist _
        · exact (ih (some report.memory)).cons_cons report

variable {reading : LinkReading} {message : Message} {report : LinkReport}

theorem observe_of_linkReport?_none (reading : LinkReading)
    (unreported : message.linkReport? = none) :
    reading.observe message = (reading, false) := by
  apply LinkMemory.observe_other
  rintro ⟨memory, count, record, request⟩
  rw [Message.linkReport?_of_linkRequest? request] at unreported
  contradiction

theorem observe_of_linkReport? (reading : LinkReading)
    (reported : message.linkReport? = some report) :
    reading.observe message =
      if reading.latest = some report.memory then (reading, false)
      else if report.record.flags.isLast then
        ({ reading with latest := some report.memory }, true)
      else (⟨reading.records ++ [report.record], some report.memory⟩, false) := by
  unfold Message.linkReport? at reported
  split at reported
  · next request =>
      rcases Option.some.inj reported with ⟨rfl⟩
      simp only [observe, request, accept]
  · contradiction

variable {read : LinkReading} {messages : List Message} {complete : Bool} {count : Nat}

theorem absorb_cons_of_observe {next : LinkReading}
    (observed : reading.observe message = (next, false))
    (absorbed : Bench.absorb reading (message :: messages) = (read, complete, count)) :
    ∃ fewer, Bench.absorb next messages = (read, complete, fewer) := by
  simp only [Bench.absorb, observed, Prod.mk.injEq] at absorbed
  rcases absorbed with ⟨rfl, rfl, _⟩
  exact ⟨_, rfl⟩

/-- A reading adds the records of the reports that it keeps, in their order. -/
theorem records_of_absorb (absorbed : Bench.absorb reading messages = (read, complete, count)) :
    read.records = reading.records
      ++ (origins reading.latest (messages.filterMap Message.linkReport?)).map
        LinkReport.record := by
  induction messages generalizing reading count with
  | nil =>
      rcases Prod.mk.inj absorbed with ⟨rfl, _⟩
      simp only [List.filterMap_nil, origins, List.map_nil, List.append_nil]
  | cons message rest ih =>
      cases reported : message.linkReport? with
      | none =>
          have observed := observe_of_linkReport?_none reading reported
          rcases absorb_cons_of_observe observed absorbed with ⟨_, later⟩
          rw [List.filterMap_cons_none reported]
          exact ih later
      | some report =>
          have observed := observe_of_linkReport? reading reported
          rw [List.filterMap_cons_some reported, origins]
          by_cases repeated : reading.latest = some report.memory
          · rw [if_pos repeated] at observed ⊢
            rcases absorb_cons_of_observe observed absorbed with ⟨_, later⟩
            exact ih later
          · rw [if_neg repeated] at observed ⊢
            by_cases last : report.record.flags.isLast = true
            · rw [if_pos last] at observed ⊢
              simp only [Bench.absorb, observed, Prod.mk.injEq] at absorbed
              rw [← absorbed.1, List.map_nil, List.append_nil]
            · rw [if_neg last] at observed ⊢
              rcases absorb_cons_of_observe observed absorbed with ⟨_, later⟩
              rw [ih later, List.map_cons]
              exact List.append_assoc reading.records [report.record] _

end LinkReading

/-- The memory address of the slot before a slot. -/
def addressBefore : Nat → Option UInt16
  | 0 => none
  | slot + 1 => some (memoryAddress slot)

theorem addressBefore_ne (slot : Nat) : addressBefore slot ≠ some (memoryAddress slot) := by
  cases slot with
  | zero => simp [addressBefore]
  | succ before =>
      intro same
      exact LinkMemory.memoryAddress_succ_ne before (Option.some.inj same)

/-- The reports come in the order of the slots, from a slot on and up to the first last record; the
one before may be repeated. -/
inductive InSlotOrder : Nat → List LinkReport → Prop where
  | nil {slot : Nat} : InSlotOrder slot []
  | last {slot : Nat} {report : LinkReport} {rest : List LinkReport}
      (unrepeated : addressBefore slot ≠ some report.memory)
      (ended : report.record.flags.isLast = true) : InSlotOrder slot (report :: rest)
  | next {slot : Nat} {report : LinkReport} {rest : List LinkReport}
      (here : report.memory = memoryAddress slot)
      (goesOn : report.record.flags.isLast = false)
      (later : InSlotOrder (slot + 1) rest) : InSlotOrder slot (report :: rest)
  | again {slot : Nat} {report : LinkReport} {rest : List LinkReport}
      (repeated : addressBefore slot = some report.memory)
      (later : InSlotOrder slot rest) : InSlotOrder slot (report :: rest)

namespace InSlotOrder

variable {slot : Nat} {report : LinkReport} {rest : List LinkReport}

theorem cons_iff_of_repeated (repeated : addressBefore slot = some report.memory) :
    InSlotOrder slot (report :: rest) ↔ InSlotOrder slot rest := by
  constructor
  · rintro (_ | ⟨unrepeated, _⟩ | ⟨here, _, _⟩ | ⟨_, later⟩)
    · exact absurd repeated unrepeated
    · rw [here] at repeated
      exact absurd repeated (addressBefore_ne slot)
    · exact later
  · exact .again repeated

theorem cons_iff_of_new (new : addressBefore slot ≠ some report.memory)
    (goesOn : report.record.flags.isLast = false) :
    InSlotOrder slot (report :: rest)
      ↔ report.memory = memoryAddress slot ∧ InSlotOrder (slot + 1) rest := by
  constructor
  · rintro (_ | ⟨_, ended⟩ | ⟨here, _, later⟩ | ⟨repeated, _⟩)
    · rw [ended] at goesOn
      contradiction
    · exact ⟨here, later⟩
    · exact absurd repeated new
  · rintro ⟨here, later⟩
    exact .next here goesOn later

/-- The origins of the records are the slots, one after the other, exactly if the reports come in
the order of the slots. -/
theorem origins_iff (slot : Nat) (reports : List LinkReport) :
    (∀ index origin, (LinkReading.origins (addressBefore slot) reports)[index]? = some origin →
        origin.memory = memoryAddress (slot + index)) ↔ InSlotOrder slot reports := by
  -- What is kept is a report of this slot; both sides then go on from the slot behind it.
  induction reports generalizing slot with
  | nil => simp [LinkReading.origins, InSlotOrder.nil]
  | cons report rest ih =>
      rw [LinkReading.origins]
      by_cases repeated : addressBefore slot = some report.memory
      · rw [if_pos repeated, cons_iff_of_repeated repeated]
        exact ih slot
      · rw [if_neg repeated]
        cases ended : report.record.flags.isLast with
        | true => simp [InSlotOrder.last repeated ended]
        | false =>
            rw [cons_iff_of_new repeated ended, if_neg Bool.false_ne_true]
            constructor
            · intro placed
              have here : report.memory = memoryAddress slot := placed 0 report rfl
              refine ⟨here, (ih (slot + 1)).mp ?_⟩
              intro index origin found
              rw [Nat.add_right_comm]
              rw [here] at placed
              exact placed (index + 1) origin found
            · rintro ⟨here, later⟩ index origin found
              rw [here] at found
              cases index with
              | zero =>
                  rcases Option.some.inj found with rfl
                  exact here
              | succ index =>
                  rw [← Nat.add_assoc, Nat.add_right_comm]
                  exact (ih (slot + 1)).mpr later index origin found

end InSlotOrder

namespace LinkDatabase

variable {database : LinkDatabase} {copy : LinkCopy}

/-- A write to a slot reaches the memory address that a report came from. -/
def WriteReaches (database : LinkDatabase) (slot : Nat) (origin : LinkReport) : Prop :=
  ∀ record, (database.message (.write slot record)).linkRequest?
    = some ⟨.write, origin.memory, UInt8.ofNat recordSize, some record⟩

theorem writeReaches_iff {slot : Nat} {origin : LinkReport} :
    database.WriteReaches slot origin ↔ origin.memory = memoryAddress slot := by
  have request := fun record =>
    database.linkRequest?_message (LinkRequest.isComplete_write slot record)
  constructor
  · intro reaches
    have same := reaches origin.record
    rw [request] at same
    exact (LinkRequest.mk.inj (Option.some.inj same)).2.1.symm
  · intro same record
    rw [request, same]
    rfl

/-- A refresh that reads the whole table. -/
theorem Refreshed.records_of_read {outcome : Outcome LinkCopy Unit}
    (refreshed : database.Refreshed copy outcome) {id : SubscriptionId} {arrivals : List Message}
    (read : .readTable id arrivals (.ok ()) ∈ outcome.exchanges) :
    outcome.result = .ok () ∧ outcome.memory.table.records
      = (LinkReading.origins none (arrivals.filterMap Message.linkReport?)).map
          LinkReport.record := by
  cases refreshed with
  | fresh | refused | broken => simp at read
  | complete stale accepted complete =>
      simp only [List.mem_cons, Exchange.readTable.injEq, reduceCtorEq, List.not_mem_nil,
        false_or, or_false, and_true] at read
      rcases read with ⟨_, rfl⟩
      exact ⟨rfl, LinkReading.records_of_absorb complete⟩

/-- A refresh that read the table succeeds with the records of the reports that the reading kept, in
their order. Each record is in the slot that it came from, so that a write to the slot reaches it,
exactly if the responses came in the order of the slots. -/
theorem slots_are_origins_iff (database : LinkDatabase) (world : World) (past : List Exchange)
    (copy : LinkCopy) (id : SubscriptionId) (arrivals : List Message)
    (read : .readTable id arrivals (.ok ())
      ∈ (database.refresh.carryOut world past copy).exchanges) :
    (database.refresh.carryOut world past copy).result = .ok () ∧
      (database.refresh.carryOut world past copy).memory.table.records
        = (LinkReading.origins none (arrivals.filterMap Message.linkReport?)).map
            LinkReport.record ∧
      (LinkReading.origins none (arrivals.filterMap Message.linkReport?)).Sublist
        (arrivals.filterMap Message.linkReport?) ∧
      ((∀ slot origin,
          (LinkReading.origins none (arrivals.filterMap Message.linkReport?))[slot]? = some origin →
            origin.memory = memoryAddress slot ∧ database.WriteReaches slot origin) ↔
        InSlotOrder 0 (arrivals.filterMap Message.linkReport?)) := by
  rcases (database.refreshed copy world past).records_of_read read with ⟨succeeded, records⟩
  refine ⟨succeeded, records, LinkReading.origins_sublist none _, ?_⟩
  have placed := InSlotOrder.origins_iff 0 (arrivals.filterMap Message.linkReport?)
  simp only [Nat.zero_add] at placed
  simp only [writeReaches_iff, and_self]
  exact placed

/-- The responses come in order, one of them twice. -/
theorem slots_are_origins_repeated :
    .readTable 0 ([(0, sampleRecord 1), (0, sampleRecord 1), (1, sampleRecord 2),
          (2, .terminator)].map sampleResponse) (.ok ())
        ∈ (sample.refresh.carryOut (sampleWorld [(0, sampleRecord 1), (0, sampleRecord 1),
            (1, sampleRecord 2), (2, .terminator)]) [] ⟨{}, none⟩).exchanges ∧
      ∀ slot origin,
        [LinkReport.mk (memoryAddress 0) (sampleRecord 1),
            LinkReport.mk (memoryAddress 1) (sampleRecord 2)][slot]? = some origin →
          origin.memory = memoryAddress slot ∧ sample.WriteReaches slot origin := by
  have read : .readTable 0 ([(0, sampleRecord 1), (0, sampleRecord 1), (1, sampleRecord 2),
        (2, .terminator)].map sampleResponse) (.ok ())
      ∈ (sample.refresh.carryOut (sampleWorld [(0, sampleRecord 1), (0, sampleRecord 1),
          (1, sampleRecord 2), (2, .terminator)]) [] ⟨{}, none⟩).exchanges :=
    List.mem_of_getElem? (i := 3) rfl
  have ordered : InSlotOrder 0
      ([LinkReport.mk (memoryAddress 0) (sampleRecord 1), ⟨memoryAddress 0, sampleRecord 1⟩,
        ⟨memoryAddress 1, sampleRecord 2⟩, ⟨memoryAddress 2, .terminator⟩]) :=
    .next rfl rfl (.again rfl (.next rfl rfl (.last (addressBefore_ne 2) rfl)))
  exact ⟨read, (slots_are_origins_iff sample _ [] _ 0 _ read).2.2.2.mpr ordered⟩

/-- The response for the first slot is lost. The refresh succeeds all the same, the record of the
second slot is in the first one of the copy, and removing it overwrites the first slot of the
device. -/
theorem lost_response_shifts_slots :
    let reported := [(1, sampleRecord 2), (2, .terminator)]
    let refresh := sample.refresh.carryOut (sampleWorld reported) [] ⟨{}, none⟩
    let removal := (sample.removeLinks [sampleRecord 2]).carryOut (sampleWorld reported) []
      ⟨{}, none⟩
    .readTable 0 (reported.map sampleResponse) (.ok ()) ∈ refresh.exchanges ∧
      refresh.result = .ok () ∧ refresh.memory.table.records = [sampleRecord 2] ∧
      (∀ message ∈ reported.map sampleResponse, ∀ report, message.linkReport? = some report →
        report.memory ≠ memoryAddress 0) ∧
      sample.exchange ⟨0, (sampleRecord 2).tombstone, .ok sampleAck⟩ ∈ removal.exchanges := by
  refine ⟨List.mem_of_getElem? (i := 3) rfl, rfl, rfl, ?_, List.mem_of_getElem? (i := 6) rfl⟩
  intro message mem report reported
  simp only [List.map_cons, List.map_nil, List.mem_cons, List.not_mem_nil, or_false] at mem
  rcases mem with rfl | rfl
  · rcases Option.some.inj reported with rfl
    decide
  · rcases Option.some.inj reported with rfl
    decide

end LinkDatabase

end Powerline
