import Powerline.Proofs.LinkDatabase.Slots
import Powerline.Proofs.Modem.Readers

/-!
# Tables that are reported at least once

A device reports its table slot by slot, each slot once or several times in a row, while messages
of all kinds come in between. The subscription of a refresh lets through what the device says about
its table, the mailbox keeps it until it is read, and the reading skips what is repeated. What it
ends up with is the table, record by record.
-/

namespace Powerline

/-- The items arrive in their order, each of them once or several times in a row. -/
inductive AtLeastOnce {α : Type} : List α → List α → Prop where
  | nil : AtLeastOnce [] []
  | next {item : α} {items arrived : List α} (later : AtLeastOnce items arrived) :
      AtLeastOnce (item :: items) (item :: arrived)
  | again {item : α} {items arrived : List α} (later : AtLeastOnce (item :: items) arrived) :
      AtLeastOnce (item :: items) (item :: arrived)

namespace AtLeastOnce

variable {α : Type} {item first : α} {items arrived : List α}

theorem not_nil : ¬ AtLeastOnce (item :: items) [] := by
  rintro ⟨⟩

theorem first_eq (arrives : AtLeastOnce (item :: items) (first :: arrived)) :
    first = item ∧ (AtLeastOnce items arrived ∨ AtLeastOnce (item :: items) arrived) := by
  cases arrives with
  | next later => exact ⟨rfl, Or.inl later⟩
  | again later => exact ⟨rfl, Or.inr later⟩

end AtLeastOnce

/-- The reports of a table from a slot on, up to that of the record which ends it. -/
def tableReports (last : LinkRecord) (slot : Nat) : List LinkRecord → List LinkReport
  | [] => [⟨memoryAddress slot, last⟩]
  | record :: rest => ⟨memoryAddress slot, record⟩ :: tableReports last (slot + 1) rest

namespace LinkReading

variable {last : LinkRecord} {latest : Option UInt16} {slot : Nat} {records : List LinkRecord}
  {report : LinkReport} {rest : List LinkReport} {reading : LinkReading} {messages : List Message}

/-- What comes of a table when the reports from this slot on are still missing. The latest report
may come again before them. -/
inductive Remains (last : LinkRecord) (slot : Nat) (records : List LinkRecord)
    (reports : List LinkReport) : Option UInt16 → Prop where
  | new {latest : Option UInt16} (unrepeated : latest ≠ some (memoryAddress slot))
      (delivered : AtLeastOnce (tableReports last slot records) reports) :
      Remains last slot records reports latest
  | again {report : LinkReport} (apart : report.memory ≠ memoryAddress slot)
      (delivered : AtLeastOnce (report :: tableReports last slot records) reports) :
      Remains last slot records reports (some report.memory)

theorem not_remains_nil : ¬ Remains last slot records [] latest := by
  rintro (⟨_, delivered⟩ | ⟨_, delivered⟩)
  · cases records with
    | nil => exact AtLeastOnce.not_nil delivered
    | cons record rest => exact AtLeastOnce.not_nil delivered
  · exact AtLeastOnce.not_nil delivered

/-- What a report does to what is missing: it repeats the latest one, ends the table, or is that of
the next slot. -/
inductive Fills (last : LinkRecord) (slot : Nat) (rest : List LinkReport)
    (latest : Option UInt16) (report : LinkReport) : List LinkRecord → Prop where
  | again {records : List LinkRecord} (repeated : latest = some report.memory)
      (remains : Remains last slot records rest latest) :
      Fills last slot rest latest report records
  | ends (unrepeated : latest ≠ some report.memory) (same : report.record = last) :
      Fills last slot rest latest report []
  | next {records : List LinkRecord} (unrepeated : latest ≠ some report.memory)
      (remains : Remains last (slot + 1) records rest (some report.memory)) :
      Fills last slot rest latest report (report.record :: records)

theorem Remains.fills (remains : Remains last slot records (report :: rest) latest) :
    Fills last slot rest latest report records := by
  cases remains with
  | new unrepeated delivered =>
      cases records with
      | nil =>
          rcases delivered.first_eq with ⟨rfl, _⟩
          exact .ends unrepeated rfl
      | cons record records =>
          have apart := LinkMemory.memoryAddress_succ_ne slot
          rcases delivered.first_eq with ⟨rfl, later | later⟩
          · exact .next unrepeated (.new (by simpa using apart) later)
          · exact .next unrepeated (.again apart later)
  | again apart delivered =>
      rcases delivered.first_eq with ⟨rfl, later | later⟩
      · exact .again rfl (.new (by simpa using apart) later)
      · exact .again rfl (.again apart later)

/-- A reading of all that remains is complete and has the missing records behind those that it had
before. -/
theorem absorb_of_remains (ended : last.flags.isLast = true)
    (isOpen : ∀ record ∈ records, record.flags.isLast = false)
    (remains : Remains last slot records (messages.filterMap Message.linkReport?)
      reading.latest) :
    ∃ final count, Bench.absorb reading messages = (final, true, count) ∧
      final.records = reading.records ++ records := by
  induction messages generalizing reading slot records with
  | nil => exact absurd remains not_remains_nil
  | cons message rest ih =>
      cases reported : message.linkReport? with
      | none =>
          rw [List.filterMap_cons_none reported] at remains
          rcases ih isOpen remains with ⟨final, count, absorbed, collects⟩
          refine ⟨final, count + 1, ?_, collects⟩
          simp only [Bench.absorb, observe_of_linkReport?_none reading reported, absorbed]
      | some report =>
          rw [List.filterMap_cons_some reported] at remains
          have observed := observe_of_linkReport? reading reported
          cases remains.fills with
          | again repeated later =>
              rw [if_pos repeated] at observed
              rcases ih isOpen later with ⟨final, count, absorbed, collects⟩
              refine ⟨final, count + 1, ?_, collects⟩
              simp only [Bench.absorb, observed, absorbed]
          | ends unrepeated same =>
              rw [if_neg unrepeated, same, if_pos ended] at observed
              refine ⟨{ reading with latest := some report.memory }, 1, ?_,
                (List.append_nil _).symm⟩
              simp only [Bench.absorb, observed]
          | next unrepeated later =>
              rw [List.forall_mem_cons] at isOpen
              rw [if_neg unrepeated, if_neg (by simp [isOpen.1])] at observed
              have kept : Remains last (slot + 1) _ (rest.filterMap Message.linkReport?)
                  (LinkReading.mk (reading.records ++ [report.record]) report.memory).latest :=
                later
              rcases ih isOpen.2 kept with ⟨final, count, absorbed, collects⟩
              refine ⟨final, count + 1, ?_, ?_⟩
              · simp only [Bench.absorb, observed, absorbed]
              · rw [collects, List.append_assoc]
                rfl

end LinkReading

namespace Connection

/-- What a message of the device reports of its link table, if it is no answer. -/
def linkReport? (connection : Connection) (message : Message) : Option LinkReport :=
  if message.source = connection.address && !message.isAnswer then message.linkReport? else none

variable {connection : Connection} {message : Message} {report : LinkReport}

theorem holds_heard_responses : (connection.heard LinkDatabase.responses).holds message = true ↔
    message.source = connection.address ∧ message.command.sameKind .linkDatabase = true ∧
      message.isExtended = true ∧ message.isAnswer = false := by
  have pattern : connection.heard LinkDatabase.responses
      = .all [.source connection.address,
          .all [.command .linkDatabase, .extended, .not .answer]] := rfl
  simp [pattern, Pattern.holds, Pattern.allHold]

/-- The subscription of a refresh hears whatever the device reports. -/
theorem holds_of_linkReport? (reported : connection.linkReport? message = some report) :
    (connection.heard LinkDatabase.responses).holds message = true := by
  unfold linkReport? at reported
  split at reported
  · next heard =>
      simp only [Bool.and_eq_true, decide_eq_true_eq, Bool.not_eq_true'] at heard
      have extended : message.isExtended = true ∧
          message.command.sameKind .linkDatabase = true := by
        unfold Message.linkReport? Message.linkRequest? at reported
        split at reported
        · next request =>
            split at request
            · next both => simpa using both
            · contradiction
        · contradiction
      exact holds_heard_responses.mpr ⟨heard.1, extended.2, extended.1, heard.2⟩
  · contradiction

theorem linkReport?_of_holds
    (holds : (connection.heard LinkDatabase.responses).holds message = true) :
    connection.linkReport? message = message.linkReport? := by
  rcases holds_heard_responses.mp holds with ⟨source, _, _, unanswering⟩
  simp [linkReport?, source, unanswering]

end Connection

namespace LinkDatabase

open Modem (Moment)

/-- What the device reports of its link table during a run, with the times. -/
def reportsIn (database : LinkDatabase) (modem : Modem) (moments : List Moment) :
    List (Instant × LinkReport) :=
  modem.reports database.connection.linkReport? moments

/-- A device reports its table to the subscription of a refresh. Until the device has acknowledged
the read request, at `since`, nothing is taken out of the mailbox; then the refresh reads. -/
structure Delivery (database : LinkDatabase) (records : List LinkRecord) (last : LinkRecord)
    (modem : Modem) (id : SubscriptionId) (before : List Moment) (since : Instant)
    (after : List Moment) : Prop where
  isOpen : ∀ record ∈ records, record.flags.isLast = false
  ended : last.flags.isLast = true
  heard : modem.Hears id (database.connection.heard responses) responseCapacity []
  undisturbed : ∀ moment ∈ before ++ after, ¬ moment.event.Concerns id
  unread : ∀ moment ∈ before, moment.event ≠ .receive id
  ordered : (before.map Moment.now ++ since :: after.map Moment.now).Pairwise (· ≤ ·)
  room : modem.HasRoom id (database.connection.heard responses) responseCapacity (before ++ after)
  delivered : AtLeastOnce (tableReports last 0 records)
    ((database.reportsIn modem (before ++ after)).map Prod.snd)
  /-- Consecutive reports are less than a timeout apart. -/
  spaced : ((database.reportsIn modem (before ++ after)).map Prod.fst).IsChain
    (Modem.InTime database.connection.config.readTimeout)
  /-- The first report reaches the subscription, which the refresh has not given up by then. -/
  begun : database.reportsIn modem before = [] →
    (modem.run before).1.Begins database.connection.linkReport? id
      database.connection.config.readTimeout since after

/-- What the refresh reads. -/
def readings (database : LinkDatabase) (modem : Modem) (id : SubscriptionId)
    (before : List Moment) (since : Instant) (after : List Moment) : List Message :=
  (modem.run before).1.collected id database.connection.config.readTimeout since after

variable {database : LinkDatabase} {records : List LinkRecord} {last : LinkRecord} {modem : Modem}
  {id : SubscriptionId} {before after : List Moment} {since : Instant}

namespace Delivery

/-- When the refresh begins to read, everything waits that the device has reported by then. -/
theorem exists_hears (delivery : database.Delivery records last modem id before since after) :
    ∃ waiting, (modem.run before).1.Hears id (database.connection.heard responses)
        responseCapacity waiting ∧
      waiting.filterMap database.connection.linkReport?
        = (modem.reports database.connection.linkReport? before).map Prod.snd := by
  have apart := List.forall_mem_append.mp delivery.undisturbed
  have room := Modem.hasRoom_append delivery.room
  rcases delivery.heard.run_unread (fun _ _ => Connection.holds_of_linkReport?) apart.1
    delivery.unread room.1 with ⟨waiting, hears, waits⟩
  refine ⟨waiting, hears, ?_⟩
  rw [waits, List.filterMap_nil, List.nil_append]

theorem holds_of_mem_readings
    (delivery : database.Delivery records last modem id before since after) :
    ∀ message ∈ database.readings modem id before since after,
      (database.connection.heard responses).holds message = true := by
  rcases delivery.exists_hears with ⟨waiting, hears, _⟩
  exact hears.holds_of_mem_collected (List.forall_mem_append.mp delivery.undisturbed).2

/-- The refresh reads everything that the device reports. -/
theorem filterMap_readings
    (delivery : database.Delivery records last modem id before since after) :
    (database.readings modem id before since after).filterMap database.connection.linkReport?
      = (database.reportsIn modem (before ++ after)).map Prod.snd := by
  have heard : ∀ message report, database.connection.linkReport? message = some report →
      (database.connection.heard responses).holds message = true :=
    fun _ _ => Connection.holds_of_linkReport?
  have apart := (List.forall_mem_append.mp delivery.undisturbed).2
  have room := (Modem.hasRoom_append delivery.room).2
  have spaced := delivery.spaced
  rw [reportsIn, Modem.reports_append, List.map_append, List.isChain_append] at spaced
  rcases List.pairwise_append.mp delivery.ordered with ⟨_, orderedAfter, apartTimes⟩
  have sorted := (List.pairwise_cons.mp orderedAfter).2
  rcases delivery.exists_hears with ⟨waiting, hears, waits⟩
  rw [reportsIn, Modem.reports_append, List.map_append, ← waits]
  cases final : ((modem.reports database.connection.linkReport? before).map Prod.fst).getLast? with
  | none =>
      -- Nothing has been reported yet, and the refresh still waits when the first report comes.
      rw [List.getLast?_eq_none_iff, List.map_eq_nil_iff] at final
      exact hears.filterMap_collected_of_begins heard apart room sorted spaced.2.1
        (delivery.begun final)
  | some latest =>
      rcases List.mem_map.mp (List.mem_of_getLast? final) with ⟨entry, reported, rfl⟩
      rcases Modem.exists_moment_of_mem_reports reported with ⟨moment, inside, same⟩
      have prompt : (entry.1 :: ((modem.run before).1.reports database.connection.linkReport?
          after).map Prod.fst).IsChain (Modem.InTime database.connection.config.readTimeout) :=
        List.isChain_cons.mpr ⟨spaced.2.2 entry.1 final, spaced.2.1⟩
      have ordered : (entry.1 :: after.map Moment.now).Pairwise (· ≤ ·) := by
        rw [List.pairwise_cons, same]
        refine ⟨?_, sorted⟩
        intro time later
        exact apartTimes _ (List.mem_map_of_mem inside) time (List.mem_cons_of_mem _ later)
      apply hears.filterMap_collected heard apart room ordered prompt
      rintro rfl
      rw [List.filterMap_nil, eq_comm, List.map_eq_nil_iff] at waits
      rw [waits] at reported
      contradiction

/-- The reading is complete and has the records of the table. -/
theorem absorb_readings
    (delivery : database.Delivery records last modem id before since after) :
    ∃ final count, Bench.absorb {} (database.readings modem id before since after)
        = (final, true, count) ∧ final.records = records := by
  have heard := delivery.holds_of_mem_readings
  have same : (database.readings modem id before since after).filterMap Message.linkReport?
      = (database.reportsIn modem (before ++ after)).map Prod.snd := by
    rw [← delivery.filterMap_readings]
    apply List.filterMap_congr
    intro message mem
    exact (Connection.linkReport?_of_holds (heard message mem)).symm
  have remains : LinkReading.Remains last 0 records
      ((database.readings modem id before since after).filterMap Message.linkReport?)
      (LinkReading.mk [] none).latest := by
    rw [same]
    exact .new (by simp) delivery.delivered
  exact LinkReading.absorb_of_remains delivery.ended delivery.isOpen remains

end Delivery

/-- A refresh after this past subscribes under this number, the device acknowledges the read
request, and these are the messages that the refresh reads. -/
structure Brings (database : LinkDatabase) (world : World) (past : List Exchange)
    (id : SubscriptionId) (arrivals : List Message) : Prop where
  subscribed : world.subscription (past ++ [.clock (world.now past)]) = id
  reads : ∃ answer ack,
    world.answer (past ++ [.clock (world.now past),
      .subscribe (database.connection.heard responses) responseCapacity id])
      (database.message .readAll) = answer ∧
    database.connection.verdict answer = .ok ack ∧
    world.arrivals (past ++ [.clock (world.now past),
      .subscribe (database.connection.heard responses) responseCapacity id,
      .send (database.message .readAll) answer]) id = arrivals

/-- A table that is reported at least once is read exactly. Whatever the copy was like and whatever
else came in between, the refresh succeeds, the copy has the records of the table in their slots,
octet for octet and also those of one link at several addresses, and it is fresh. -/
theorem refresh_of_delivery {world : World} {past : List Exchange} {copy : LinkCopy}
    (stale : copy.isStale database.maxAge (world.now past) = true)
    (delivery : database.Delivery records last modem id before since after)
    (brings : database.Brings world past id (database.readings modem id before since after)) :
    let run := database.refresh.carryOut world past copy
    run.result = .ok () ∧ run.memory.table.records = records ∧
      ∃ time, run.memory.refreshed = some time := by
  intro run
  rcases delivery.absorb_readings with ⟨final, count, absorbed, collects⟩
  rcases brings with ⟨subscribed, answer, ack, answered, accepted, arrivals⟩
  rw [← arrivals] at absorbed
  rcases carryOut_refresh_of_complete stale subscribed answered accepted absorbed with
    ⟨time, exchanges, whole⟩
  have carriedOut : run = _ := whole
  rw [carriedOut]
  exact ⟨rfl, collects, time, rfl⟩

/-! ### Two records of one link -/

/-- The packet with which a message arrives. -/
def samplePacket (message : Message) : Packet :=
  ⟨if message.isExtended then .extendedReceived else .standardReceived, message.toBytes, none⟩

/-- The dispatcher has taken the subscription of a refresh. -/
def sampleModem : Modem :=
  (Modem.run { ackTimeout := 3, filter := some { window := 3 } }
    [⟨0, .sound, .subscribe 0 (sample.connection.heard responses) responseCapacity⟩,
      ⟨0, .sound, .take⟩]).1

/-- Before the ack, another device reports its table. -/
def sampleBefore : List Moment :=
  [⟨1, .sound, .arrive (samplePacket { sampleResponse (0, sampleRecord 9) with
    source := ⟨0x0d, 0x0e, 0x0f⟩ })⟩]

/-- The device asks to write a record, and then reports its table, the first slot twice. -/
def sampleAfter : List Moment :=
  [⟨3, .sound, .arrive (samplePacket { sampleResponse (0, sampleRecord 9) with
      payload := (LinkRequest.write 5 (sampleRecord 9)).toPayload })⟩,
    ⟨4, .sound, .receive 0⟩,
    ⟨5, .sound, .arrive (samplePacket (sampleResponse (0, sampleRecord 1)))⟩,
    ⟨5, .sound, .arrive (samplePacket (sampleResponse (0, sampleRecord 1)))⟩,
    ⟨6, .sound, .receive 0⟩, ⟨7, .sound, .receive 0⟩,
    ⟨8, .sound, .arrive (samplePacket (sampleResponse (1, sampleRecord 1)))⟩,
    ⟨9, .sound, .arrive (samplePacket (sampleResponse (2, .terminator)))⟩]

/-- The device acknowledges everything, and this is what it reports. -/
def sampleDelivery : World :=
  { sampleWorld [] with
    arrivals := fun _ _ => sample.readings sampleModem 0 sampleBefore 2 sampleAfter }

theorem sampleModem_hears :
    sampleModem.Hears 0 (sample.connection.heard responses) responseCapacity [] := by
  have subscribers : sampleModem.subscribers = [⟨0, sample.connection.heard responses⟩] := rfl
  have controls : sampleModem.controls = [] := rfl
  refine ⟨rfl, ?_, ?_, ?_, by simp⟩
  · simp [subscribers]
  · simp [subscribers]
  · simp [controls]

theorem delivery_sample : sample.Delivery [sampleRecord 1, sampleRecord 1] .terminator sampleModem 0
    sampleBefore 2 sampleAfter where
  isOpen := by decide
  ended := by decide
  heard := sampleModem_hears
  undisturbed := by simp [sampleBefore, sampleAfter, Modem.Event.Concerns]
  unread := by simp [sampleBefore]
  ordered := by decide
  room := sampleModem_hears.hasRoom_of_short
    (by simp [sampleBefore, sampleAfter, Modem.Event.Concerns]) (by decide)
  delivered := by
    have reported : (sample.reportsIn sampleModem (sampleBefore ++ sampleAfter)).map Prod.snd
        = [⟨memoryAddress 0, sampleRecord 1⟩, ⟨memoryAddress 0, sampleRecord 1⟩,
          ⟨memoryAddress 1, sampleRecord 1⟩, ⟨memoryAddress 2, .terminator⟩] := by decide
    rw [reported]
    exact .again (.next (.next (.next .nil)))
  spaced := by
    have times : (sample.reportsIn sampleModem (sampleBefore ++ sampleAfter)).map Prod.fst
        = [5, 5, 8, 9] := by decide
    rw [times]
    simp [Modem.InTime, sample, Duration.ofSeconds, Duration.perSecond]
  begun := by
    intro _
    refine ⟨by decide, fun _ => ⟨by decide, fun _ => ⟨by decide, fun silent => ?_⟩⟩⟩
    exact absurd silent (by decide)

/-- Two slots hold the same record, the first is reported twice, and other messages come before the
ack and in between. -/
theorem refresh_of_delivery_repeated :
    let copy : LinkCopy := ⟨.ofRecords [sampleRecord 9, sampleRecord 1], none⟩
    let run := sample.refresh.carryOut sampleDelivery [] copy
    sample.Delivery [sampleRecord 1, sampleRecord 1] .terminator sampleModem 0 sampleBefore 2
        sampleAfter ∧
      run.result = .ok () ∧ run.memory.table.records = [sampleRecord 1, sampleRecord 1] ∧
      ∃ time, run.memory.refreshed = some time := by
  intro copy run
  have brings : sample.Brings sampleDelivery [] 0
      (sample.readings sampleModem 0 sampleBefore 2 sampleAfter) :=
    ⟨rfl, .ok sampleAck, sampleAck, rfl, rfl, rfl⟩
  exact ⟨delivery_sample, refresh_of_delivery rfl delivery_sample brings⟩

end LinkDatabase

end Powerline
