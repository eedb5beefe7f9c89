import Powerline.Proofs.Connection
import Powerline.Proofs.LinkDatabase.Addresses
import Powerline.Proofs.LinkDatabase.Failures

/-!
# What is asked of the device

Whatever is done with a link database, the device is asked for the whole table and for writes of
single records only. It is asked for the table once if an operation begins with a refresh and finds
the copy stale, and for writes behind that.
-/

namespace Powerline

namespace Outcome

variable {σ α : Type}

@[simp]
theorem packets_behind (exchanges : List Exchange) (outcome : Outcome σ α) :
    (outcome.behind exchanges).packets
      = exchanges.filterMap Exchange.packet? ++ outcome.packets :=
  List.filterMap_append

end Outcome

/-- The packet takes a request about the link table to the device, and is read as that. -/
def Connection.AsksFor (connection : Connection) (request : LinkRequest) (packet : Packet) : Prop :=
  ∃ sent, packet.message = .ok sent ∧ connection.Carries .linkDatabase request.toPayload sent ∧
    sent.linkRequest? = some request

/-- The request about a link table that the packet carries, if it carries one. -/
def Packet.linkRequest? (packet : Packet) : Option LinkRequest :=
  packet.message.toOption.bind Message.linkRequest?

namespace LinkDatabase

/-- The packet of a request to the device. -/
def packet (database : LinkDatabase) (request : LinkRequest) : Packet :=
  (Request.message (database.message request)).toPacket

/-- The packets of writes to slots. -/
def writePackets (database : LinkDatabase) (places : List (Nat × LinkRecord)) : List Packet :=
  places.map fun place => database.packet (.write place.1 place.2)

variable {database : LinkDatabase} {world : World} {past : List Exchange} {copy : LinkCopy}

theorem asksFor_packet (database : LinkDatabase) {request : LinkRequest}
    (complete : request.IsComplete) :
    database.connection.AsksFor request (database.packet request) := by
  have extended : Command.linkDatabase.isExtended = true := rfl
  have carries := database.connection.carries_direct request.toPayload extended
  exact ⟨_, Packet.message_send _, carries, carries.linkRequest?_eq complete⟩

theorem filterMap_packet?_exchange (database : LinkDatabase) (writes : List SlotWrite) :
    (writes.map database.exchange).filterMap Exchange.packet?
      = database.writePackets (writes.map SlotWrite.place) := by
  induction writes with
  | nil => rfl
  | cons write rest ih =>
      have sends : (database.exchange write).packet?
          = some (database.packet (.write write.slot write.record)) := rfl
      rw [List.map_cons, List.filterMap_cons_some sends, ih]
      rfl

/-- A refresh asks for the table exactly if the copy is stale. -/
theorem packets_refresh (database : LinkDatabase) (world : World) (past : List Exchange)
    (copy : LinkCopy) :
    (database.refresh.carryOut world past copy).packets
      = if copy.isStale database.maxAge (world.now past) then [database.packet .readAll]
        else [] := by
  have refreshed := database.refreshed copy world past
  have looked : ∃ later, (database.refresh.carryOut world past copy).exchanges
      = .clock (world.now past) :: later := by
    rw [carryOut_refresh]
    exact ⟨_, rfl⟩
  rcases looked with ⟨later, exchanges⟩
  generalize database.refresh.carryOut world past copy = outcome at refreshed exchanges
  cases refreshed with
  | fresh fresh =>
      rcases exchanges with ⟨⟩
      rw [fresh]
      rfl
  | refused stale | broken stale | complete stale =>
      rcases exchanges with ⟨⟩
      rw [stale]
      rfl

/-- A write goes out unless its slot lies outside the table. -/
theorem packets_writeLink (database : LinkDatabase) (slot : Nat) (record : LinkRecord)
    (world : World) (past : List Exchange) (copy : LinkCopy) :
    ((database.writeLink slot record).carryOut world past copy).packets
      = if slot ≤ copy.table.size then [database.packet (.write slot record)] else [] := by
  by_cases inside : slot ≤ copy.table.size
  · rw [if_pos inside, carryOut_writeLink database world past record inside]
    split
    · rfl
    · rfl
  · rw [if_neg inside, carryOut_writeLink_outside (Nat.lt_of_not_le inside)]
    rfl

end LinkDatabase

namespace Edit

variable {database : LinkDatabase} {world : World} {past : List Exchange} {copy : LinkCopy}

/-- An edit makes writes behind its opening, and to finish it looks at the clock at most. -/
theorem exchanges_work (edit : Edit) :
    ∃ writes finishing,
      ((edit.work database).carryOut world past copy).exchanges
          = ((edit.opening database).carryOut world past copy).exchanges
            ++ (List.map database.exchange writes ++ finishing) ∧
        ∀ exchange ∈ finishing, ∃ now, exchange = .clock now := by
  by_cases fits : edit.Fits copy.table
  · cases result : ((edit.work database).carryOut world past copy).result with
    | ok =>
        rcases wrote_of_ok result with ⟨_, writes, table, _, _, whole⟩
        rw [whole, Outcome.exchanges_behind, List.append_assoc]
        exact ⟨writes, _, rfl, fun _ mem => eq_clock_of_mem_finish mem⟩
    | error error =>
        cases opens : ((edit.opening database).carryOut world past copy).result with
        | error brought =>
            rw [carryOut_of_opening_error opens]
            exact ⟨[], [], by simp, by simp⟩
        | ok =>
            rcases stopsAt_of_writing_error fits opens result with ⟨writes, failing, _, stops⟩
            refine ⟨writes ++ [failing], [], ?_, by simp⟩
            rw [stops.exchanges, List.append_nil]
  · rcases carryOut_of_not_fits fits with ⟨slot, record, rfl, _, refused⟩
    rw [refused]
    exact ⟨[], [], rfl, by simp⟩

theorem packets_work (edit : Edit) (database : LinkDatabase) :
    ∃ places, ((edit.work database).carryOut world past copy).packets
      = ((edit.opening database).carryOut world past copy).packets
        ++ database.writePackets places := by
  rcases edit.exchanges_work with ⟨writes, finishing, exchanges, clocks⟩
  have silent : finishing.filterMap Exchange.packet? = [] := by
    apply List.filterMap_eq_nil_iff.mpr
    intro exchange mem
    rcases clocks exchange mem with ⟨now, rfl⟩
    rfl
  refine ⟨writes.map SlotWrite.place, ?_⟩
  rw [Outcome.packets, exchanges, List.filterMap_append, List.filterMap_append, silent,
    List.append_nil, LinkDatabase.filterMap_packet?_exchange]
  rfl

end Edit

namespace LinkDatabase

variable {database : LinkDatabase} {world : World} {past : List Exchange} {copy : LinkCopy}

/-- The operation begins with a refresh. -/
def Operation.refreshes : Operation → Bool
  | refresh | links | edit (.add _) | edit (.update _) | edit (.remove _) => true
  | expire | edit (.write _ _) | edit (.replace _) => false

theorem opening_eq_refresh (database : LinkDatabase) {edit : Edit}
    (begins : (Operation.edit edit).refreshes = true) :
    edit.opening database = database.refresh := by
  cases edit with
  | write | replace => contradiction
  | add | update | remove => rfl

/-- What an operation asks before it writes anything. -/
def openingPackets (database : LinkDatabase) (copy : LinkCopy) (now : Instant)
    (operation : Operation) : List Packet :=
  if operation.refreshes && copy.isStale database.maxAge now then [database.packet .readAll] else []

theorem openingPackets_of_refreshes {operation : Operation}
    (begins : operation.refreshes = true) :
    database.openingPackets copy (world.now past) operation
      = (database.refresh.carryOut world past copy).packets := by
  rw [openingPackets, begins, Bool.true_and, packets_refresh]

/-- An operation asks for the table at most, and then for writes. -/
theorem packets_operation (database : LinkDatabase) (operation : Operation) :
    ∃ places, ((operation.work database).carryOut world past copy).packets
      = database.openingPackets copy (world.now past) operation
        ++ database.writePackets places := by
  cases operation with
  | refresh =>
      rw [openingPackets_of_refreshes rfl]
      exact ⟨[], (List.append_nil _).symm⟩
  | links =>
      rw [carryOut_work_links, openingPackets_of_refreshes rfl]
      exact ⟨[], (List.append_nil _).symm⟩
  | expire => exact ⟨[], rfl⟩
  | edit change =>
      rcases change.packets_work database with ⟨places, packets⟩
      refine ⟨places, packets.trans ?_⟩
      cases change with
      | write | replace => rfl
      | add | update | remove =>
          rw [openingPackets_of_refreshes rfl]
          rfl

/-- The packet asks the device for its table or for a write. -/
def Asks (database : LinkDatabase) (packet : Packet) : Prop :=
  ∃ request, database.connection.AsksFor request packet ∧
    (request = .readAll ∨ ∃ slot record, request = .write slot record)

theorem asks_of_mem_operation (operation : Operation) {packet : Packet}
    (mem : packet ∈ ((operation.work database).carryOut world past copy).packets) :
    database.Asks packet := by
  rcases database.packets_operation operation with ⟨places, packets⟩
  rw [packets] at mem
  rcases List.mem_append.mp mem with opening | written
  · unfold openingPackets at opening
    split at opening
    · rw [List.mem_singleton.mp opening]
      exact ⟨_, database.asksFor_packet LinkRequest.isComplete_readAll, Or.inl rfl⟩
    · contradiction
  · rcases List.mem_map.mp written with ⟨place, _, rfl⟩
    exact ⟨_, database.asksFor_packet (LinkRequest.isComplete_write place.1 place.2),
      Or.inr ⟨place.1, place.2, rfl⟩⟩

/-- Whatever is done, nothing else is asked. -/
theorem asks_of_mem_inTurn (operations : List Operation) {packet : Packet}
    (mem : packet ∈ ((database.inTurn operations).carryOut world past copy).packets) :
    database.Asks packet := by
  induction operations generalizing past copy with
  | nil => contradiction
  | cons operation rest ih =>
      rw [carryOut_inTurn, Outcome.packets_behind] at mem
      rcases List.mem_append.mp mem with first | later
      · exact asks_of_mem_operation operation first
      · exact ih later

end LinkDatabase

end Powerline
