import Powerline.Device
import Powerline.Proofs.LinkDatabase.Requests

/-!
# What devices are sent

A device keeps two connections, its own one and that of its link table. Both are the same however
the device was come by, and however often it was given another engine. So all packets to it have
the payload that was meant and the checksum that its engine wants.
-/

namespace Powerline

namespace Device

/-- The ways to come by a device at the end of a connection. A device that was opened has the
engine that the directory has for its address. -/
inductive ReachedBy : Connection → Device → Prop where
  | connected (connection : Connection) : ReachedBy connection (.ofConnection connection)
  | opened {config : Config} {address : Address} {world : World} {past : List Exchange}
      {directory : Directory} {device : Device} {info : DeviceInfo}
      (opens : ((openWith config address).carryOut world past directory).result = .ok device)
      (known : ((openWith config address).carryOut world past directory).memory.get? address
        = some info) :
      ReachedBy { config, address, engine := info.engine } device
  | engineSet {connection : Connection} {device : Device} (before : ReachedBy connection device)
      (engine : Engine) : ReachedBy { connection with engine } (device.setEngine engine)

variable {connection : Connection} {device : Device}

/-- Opening leaves the directory with the engine of the device. -/
theorem openWith_ok {config : Config} {address : Address} {world : World} {past : List Exchange}
    {directory : Directory}
    (opens : ((openWith config address).carryOut world past directory).result = .ok device) :
    ∃ info, ((openWith config address).carryOut world past directory).memory.get? address
        = some info ∧
      device = ofConnection { config, address, engine := info.engine } := by
  simp only [openWith, Dialogue.carryOut_bind, Dialogue.carryOut_memory, Outcome.andThen_ok,
    Outcome.behind_nil] at opens ⊢
  cases found : directory.get? address with
  | some info =>
      simp only [found, Dialogue.carryOut_pure, Except.ok.injEq] at opens ⊢
      exact ⟨info, rfl, opens.symm⟩
  | none =>
      simp only [found, Dialogue.carryOut_bind] at opens ⊢
      generalize (engine _).carryOut world _ directory = asked at opens ⊢
      cases result : asked.result with
      | error error =>
          rw [Outcome.andThen_of_error result] at opens
          contradiction
      | ok engine =>
          simp only [Outcome.andThen_of_ok result, Outcome.andThen_ok, Dialogue.carryOut_memory,
            Dialogue.carryOut_setMemory, Dialogue.carryOut_pure, Outcome.behind,
            Except.ok.injEq] at opens ⊢
          exact ⟨{ address, engine }, asked.memory.get?_put { address, engine }, opens.symm⟩

/-- Whoever opens a device has reached it. -/
theorem exists_reachedBy {config : Config} {address : Address} {world : World}
    {past : List Exchange} {directory : Directory}
    (opens : ((openWith config address).carryOut world past directory).result = .ok device) :
    ∃ engine, ReachedBy { config, address, engine } device := by
  rcases openWith_ok opens with ⟨info, known, _⟩
  exact ⟨info.engine, .opened opens known⟩

/-- The device and its link table are at the end of the same connection. -/
theorem ReachedBy.eq_ofConnection (reached : ReachedBy connection device) :
    device = .ofConnection connection := by
  induction reached with
  | connected connection => rfl
  | opened opens known =>
      rcases openWith_ok opens with ⟨info, found, same⟩
      rw [known, Option.some.injEq] at found
      rw [same, found]
  | engineSet before engine ih =>
      rw [ih]
      rfl

/-- The octets of a record that is written stand behind the five of the request. -/
theorem record_octets {slot : Nat} {record : LinkRecord} {sent : Message}
    (carries : connection.Carries .linkDatabase (LinkRequest.write slot record).toPayload sent) :
    (sent.payload.drop 5).take 8 = record.toBytes := by
  have octets : record.toBytes.length = 8 := record.length_toBytes
  rw [carries.payload_eq_append (LinkRequest.length_toPayload _)]
  simp [LinkRequest.toPayload, LinkRequest.write, octets]

/-- However a device was come by, what is sent to it goes to its address, with the payload that was
given, cut or filled up with zeros to 14 octets, the last of which is a checksum exactly if the
engine is the one that wants it. The requests of its link table go the same way and are read as
what was asked, and the write of a record to a slot brings the record to the address of the
slot. -/
theorem packets_intact (reached : ReachedBy connection device) (σ : Type) (world : World)
    (past : List Exchange) :
    (∀ (memory : σ) (message : Message), message.isExtended = true →
      connection.SendsOnce message.command message.payload
        ((device.connection.write message).carryOut world past memory)) ∧
    (∀ (memory : σ) (command : Command) (payload : Bytes) (response : Pattern),
      command.isExtended = true →
      connection.SendsOnce command payload
        ((device.connection.send command payload).carryOut world past memory) ∧
      connection.SendsOnce command payload
        ((device.connection.request command payload response).carryOut world past memory)) ∧
    (∀ operations copy,
      ∀ packet ∈ ((device.database.inTurn operations).carryOut world past copy).packets,
        ∃ request, connection.AsksFor request packet ∧
          (request = .readAll ∨ ∃ slot record, request = .write slot record)) ∧
    ∀ slot record copy, ∃ packet sent,
      ((device.database.writeLink slot record).carryOut world past copy).packets
          = (if slot ≤ copy.table.size then [packet] else []) ∧
        packet.message = .ok sent ∧
        connection.Carries .linkDatabase (LinkRequest.write slot record).toPayload sent ∧
        sent.linkRequest? = some ⟨.write, memoryAddress slot, 8, some record⟩ ∧
        (sent.payload.drop 5).take 8 = record.toBytes := by
  rw [reached.eq_ofConnection]
  refine ⟨?_, ?_, ?_, ?_⟩
  · intro memory message extended
    exact connection.sendsOnce_write world past memory extended
  · intro memory command payload response extended
    exact ⟨connection.sendsOnce_send world past memory payload extended,
      connection.sendsOnce_request world past memory payload extended response⟩
  · intro operations copy packet mem
    exact LinkDatabase.asks_of_mem_inTurn operations mem
  · intro slot record copy
    rcases (LinkDatabase.ofConnection connection).asksFor_packet
      (LinkRequest.isComplete_write slot record) with ⟨sent, message, carries, request⟩
    exact ⟨_, sent, LinkDatabase.packets_writeLink _ slot record world past copy, message, carries,
      request, record_octets carries⟩

/-- A device that refuses everything because it has no link to the modem. -/
def sampleRefusal : World :=
  { LinkDatabase.sampleWorld [] with
    answer := fun _ message => .ok
      (.standard message.destination .zero (.make .directNak false 0 0) (.standard 0x0d 0xff)) }

/-- A refusal shows an engine that wants checksums, and the device gets them from then on. -/
theorem packets_intact_refused :
    ∃ device,
      ((openWith {} ⟨0x1a, 0x2b, 0x3c⟩).carryOut sampleRefusal [] {}).result = .ok device ∧
      ∃ packet sent,
        ((device.database.writeLink 0 (LinkDatabase.sampleRecord 1)).carryOut sampleRefusal []
            {}).packets = [packet] ∧
          packet.message = .ok sent ∧ sent.octetSum % 256 = 0 := by
  let device : Device := .ofConnection ⟨{}, ⟨0x1a, 0x2b, 0x3c⟩, .i2cs⟩
  have opens : ((openWith {} ⟨0x1a, 0x2b, 0x3c⟩).carryOut sampleRefusal [] {}).result
      = .ok device := rfl
  have known : ((openWith {} ⟨0x1a, 0x2b, 0x3c⟩).carryOut sampleRefusal [] {}).memory.get?
      ⟨0x1a, 0x2b, 0x3c⟩ = some { address := ⟨0x1a, 0x2b, 0x3c⟩, engine := .i2cs } := rfl
  rcases packets_intact (.opened opens known) Unit sampleRefusal [] with ⟨_, _, _, written⟩
  rcases written 0 (LinkDatabase.sampleRecord 1) {} with
    ⟨packet, sent, packets, message, carries, _⟩
  exact ⟨device, opens, packet, sent, packets, message, carries.last⟩

end Device

end Powerline
