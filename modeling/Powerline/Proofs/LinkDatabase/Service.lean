import Powerline.Proofs.Link.Stream
import Powerline.Proofs.LinkDatabase.Writes

/-!
# The device behind the exchanges

What a device does with its memory when one caller writes its link table: a write that it confirmed
is stored, one that failed may or may not have been, and a complete reading shows the table as it
is. A copy that agrees with the memory goes on doing so, slot by slot.
-/

namespace Powerline

namespace Exchange

/-- The write that an exchange asks of the device with this address. -/
def write? (address : Address) : Exchange → Option (UInt16 × LinkRecord)
  | send message _ =>
      if message.destination = address then
        match message.linkRequest? with
        | some ⟨.write, memory, _, some record⟩ => some (memory, record)
        | _ => none
      else none
  | _ => none

/-- The error that an exchange brings, if it brings one. -/
def failure? (connection : Connection) : Exchange → Option Error
  | send _ answer =>
      match connection.verdict answer with
      | .ok _ => none
      | .error error => some error
  | readTable _ _ (.error error) => some error
  | _ => none

theorem failure?_send {connection : Connection} {message : Message}
    {answer : Except Error Message} {error : Error} :
    (send message answer).failure? connection = some error
      ↔ connection.verdict answer = .error error := by
  simp only [failure?]
  cases connection.verdict answer with
  | ok => simp
  | error => simp

/-- Something goes out to the modem. -/
def transmits : Exchange → Bool
  | send _ _ | command _ _ => true
  | _ => false

end Exchange

/-- What may become of the memory of the device in an exchange. -/
inductive Connection.Serves (connection : Connection) : LinkMemory → Exchange → LinkMemory → Prop
    where
  | stored {memory : LinkMemory} {exchange : Exchange} {address : UInt16} {record : LinkRecord}
      (written : exchange.write? connection.address = some (address, record)) :
      connection.Serves memory exchange (memory.store address record)
  /-- Only a write that fails can be lost. -/
  | lost {memory : LinkMemory} {exchange : Exchange} {error : Error}
      (failed : exchange.failure? connection = some error) :
      connection.Serves memory exchange memory
  | read {memory : LinkMemory} {id : SubscriptionId} {arrivals : List Message}
      (streams : memory.Streams 0 arrivals) :
      connection.Serves memory (.readTable id arrivals (.ok ())) memory
  | other {memory : LinkMemory} {exchange : Exchange}
      (silent : exchange.write? connection.address = none)
      (unread : ∀ id arrivals, exchange ≠ .readTable id arrivals (.ok ())) :
      connection.Serves memory exchange memory

/-- What may become of the memory in a series of exchanges. -/
inductive Connection.ServesAll (connection : Connection) :
    LinkMemory → List Exchange → LinkMemory → Prop where
  | rest (memory : LinkMemory) : connection.ServesAll memory [] memory
  | step {memory middle final : LinkMemory} {exchange : Exchange} {exchanges : List Exchange}
      (first : connection.Serves memory exchange middle)
      (later : connection.ServesAll middle exchanges final) :
      connection.ServesAll memory (exchange :: exchanges) final

theorem Connection.ServesAll.append {connection : Connection} {memory middle final : LinkMemory}
    {first second : List Exchange} (early : connection.ServesAll memory first middle)
    (late : connection.ServesAll middle second final) :
    connection.ServesAll memory (first ++ second) final := by
  induction early with
  | rest => exact late
  | step served _ ih => exact .step served (ih late)

theorem Connection.servesAll_append {connection : Connection} {memory final : LinkMemory}
    {first second : List Exchange}
    (served : connection.ServesAll memory (first ++ second) final) :
    ∃ middle, connection.ServesAll memory first middle
      ∧ connection.ServesAll middle second final := by
  induction first generalizing memory with
  | nil => exact ⟨memory, .rest memory, served⟩
  | cons exchange rest ih =>
      rcases served with _ | ⟨served, later⟩
      rcases ih later with ⟨middle, early, late⟩
      exact ⟨middle, .step served early, late⟩

namespace LinkDatabase

variable {database : LinkDatabase} {memory next : LinkMemory} {write : SlotWrite} {index : Nat}

@[simp]
theorem write?_exchange (database : LinkDatabase) (write : SlotWrite) :
    (database.exchange write).write? database.connection.address
      = some (memoryAddress write.slot, write.record) := by
  have request :=
    database.linkRequest?_message (LinkRequest.isComplete_write write.slot write.record)
  simp only [exchange, Exchange.write?, destination_message, ↓reduceIte, request]
  rfl

theorem failure?_exchange_of_confirms (confirmed : database.Confirms write) :
    (database.exchange write).failure? database.connection = none := by
  rcases confirmed with ⟨ack, verdict⟩
  simp only [exchange, Exchange.failure?, verdict]

/-- A write of the device is stored or, if it failed, lost. -/
theorem serves_write (served : database.connection.Serves memory (database.exchange write) next) :
    next = memory.store (memoryAddress write.slot) write.record ∨
      next = memory ∧ ¬ database.Confirms write := by
  generalize same : database.exchange write = exchange at served
  cases served with
  | stored written =>
      left
      rw [← same, write?_exchange, Option.some.injEq, Prod.mk.injEq] at written
      rw [written.1, written.2]
  | lost failed =>
      right
      refine ⟨rfl, ?_⟩
      intro confirmed
      rw [← same, failure?_exchange_of_confirms confirmed] at failed
      contradiction
  | read => simp [exchange] at same
  | other silent =>
      rw [← same, write?_exchange] at silent
      contradiction

/-- A write leaves the other slots of the memory alone. -/
theorem atSlot_of_serves_write
    (served : database.connection.Serves memory (database.exchange write) next)
    (slotFits : write.slot < maxRecords) (indexFits : index < maxRecords)
    (other : index ≠ write.slot) : next.atSlot index = memory.atSlot index := by
  rcases serves_write served with rfl | ⟨rfl, _⟩
  · exact LinkMemory.atSlot_store_of_ne slotFits indexFits other
  · rfl

namespace Writing

variable {table final : LinkTable} {writes : List SlotWrite}

/-- Confirmed writes make every slot agree that they reach, and let no other one disagree. -/
theorem agrees (writing : database.Writing table writes final)
    (served : database.connection.ServesAll memory (writes.map database.exchange) next)
    (fits : ∀ write ∈ writes, write.slot < maxRecords) (indexFits : index < maxRecords)
    (known : (∃ write ∈ writes, write.slot = index) ∨ memory.Agrees table index) :
    next.Agrees final index := by
  induction writing generalizing memory with
  | rest =>
      cases served
      rcases known with ⟨write, mem, _⟩ | agrees
      · simp at mem
      · exact agrees
  | @write table final write writes inside confirmed _ ih =>
      rcases served with _ | ⟨served, later⟩
      rcases serves_write served with rfl | ⟨_, unconfirmed⟩
      · apply ih later
        · intro other mem
          exact fits other (List.mem_cons_of_mem write mem)
        · by_cases behind : ∃ other ∈ writes, other.slot = index
          · exact Or.inl behind
          · right
            apply LinkMemory.agrees_store inside (fits write List.mem_cons_self) indexFits
            rcases known with ⟨other, mem, same⟩ | agrees
            · rcases List.mem_cons.mp mem with rfl | later
              · exact Or.inl same.symm
              · exact absurd ⟨other, later, same⟩ behind
            · exact Or.inr agrees
      · exact absurd confirmed unconfirmed

/-- Slots that no write reaches keep their records. -/
theorem atSlot_eq
    (served : database.connection.ServesAll memory (writes.map database.exchange) next)
    (fits : ∀ write ∈ writes, write.slot < maxRecords) (indexFits : index < maxRecords)
    (unreached : ∀ write ∈ writes, write.slot ≠ index) :
    next.atSlot index = memory.atSlot index := by
  induction writes generalizing memory with
  | nil =>
      cases served
      rfl
  | cons write rest ih =>
      rcases served with _ | ⟨served, later⟩
      have first := atSlot_of_serves_write served (fits write List.mem_cons_self) indexFits
        (unreached write List.mem_cons_self).symm
      rw [← first]
      apply ih later
      · intro other mem
        exact fits other (List.mem_cons_of_mem write mem)
      · intro other mem
        exact unreached other (List.mem_cons_of_mem write mem)

end Writing

end LinkDatabase

end Powerline
