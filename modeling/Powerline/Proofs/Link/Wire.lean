import Powerline.LinkDatabase

/-!
# Link requests on the wire

A request about the link table survives the way to the device: whatever the hops and the engine,
the message that carries it is read as the same request. The slots of a table stand at memory
addresses of their own.
-/

namespace Powerline

theorem min_hops (hops limit : UInt8) (small : limit = 0 ∨ limit = 1 ∨ limit = 2 ∨ limit = 3) :
    min hops limit = 0 ∨ min hops limit = 1 ∨ min hops limit = 2 ∨ min hops limit = 3 := by
  have bound : limit.toNat ≤ 3 := by
    rcases small with rfl | rfl | rfl | rfl <;> decide
  have least : (min hops limit).toNat ≤ 3 := by
    change (if hops ≤ limit then hops else limit).toNat ≤ 3
    split
    · next fewer => exact Nat.le_trans (UInt8.le_iff_toNat_le.mp fewer) bound
    · exact bound
  simp only [← UInt8.toNat_inj, UInt8.reduceToNat]
  omega

/-- Neither the kind nor the hops reach the bit that marks an extended message. -/
@[simp]
theorem isExtended_make (kind : MessageKind) (extended : Bool) (hopsLeft hopLimit : UInt8) :
    (Flags.make kind extended hopsLeft hopLimit).isExtended = extended := by
  have limit := min_hops hopLimit maxHops (by decide)
  have left := min_hops hopsLeft (min hopLimit maxHops) limit
  simp only [Flags.make, Flags.isExtended]
  rcases limit with limit | limit | limit | limit <;> rw [limit] at left ⊢ <;>
    rcases left with left | left | left | left <;> rw [left] <;>
    cases kind <;> cases extended <;> rfl

/-- The number that two octets of an address make, the high one first. -/
theorem toNat_join (high low : UInt8) :
    (high.toUInt16 <<< 8 ||| low.toUInt16).toNat = high.toNat * 256 + low.toNat := by
  have highBound := high.toNat_lt
  have lowBound := low.toNat_lt
  have shifted : high.toNat <<< 8 % 2 ^ 16 = high.toNat <<< 8 := by
    rw [Nat.shiftLeft_eq]
    omega
  simp only [UInt16.toNat_or, UInt16.toNat_shiftLeft, UInt8.toNat_toUInt16, UInt16.reduceToNat,
    Nat.reduceMod]
  rw [shifted, ← Nat.shiftLeft_add_eq_or_of_lt lowBound, Nat.shiftLeft_eq]

theorem join_octets (memory : UInt16) :
    (memory >>> 8).toUInt8.toUInt16 <<< 8 ||| memory.toUInt8.toUInt16 = memory := by
  apply UInt16.toNat_inj.mp
  have bound := memory.toNat_lt
  simp only [toNat_join, UInt16.toNat_toUInt8, UInt16.toNat_shiftRight, UInt16.reduceToNat,
    Nat.reduceMod, Nat.shiftRight_eq_div_pow]
  omega

/-- The first slots stand at addresses that do not wrap around. -/
theorem toNat_memoryAddress {slot : Nat} (inside : slot < maxRecords) :
    (memoryAddress slot).toNat = baseAddress.toNat - slot * recordSize := by
  have records : maxRecords = 512 := by decide
  have octets : recordSize = 8 := rfl
  have base : baseAddress.toNat = 4095 := by decide
  rw [memoryAddress, UInt16.toNat_sub, UInt16.toNat_ofNat', base, octets]
  omega

/-- The slots that the addresses can tell apart. -/
def addressableSlots : Nat := UInt16.size / recordSize

/-- Different slots stand at different addresses, until the addresses come around again. -/
theorem memoryAddress_inj_of_addressable {slot other : Nat} (inside : slot < addressableSlots)
    (otherInside : other < addressableSlots) (same : memoryAddress slot = memoryAddress other) :
    slot = other := by
  have slots : addressableSlots = 8192 := by decide
  have octets : recordSize = 8 := rfl
  have base : baseAddress.toNat = 4095 := by decide
  have numbers := congrArg UInt16.toNat same
  simp only [memoryAddress, UInt16.toNat_sub, UInt16.toNat_ofNat', base, octets] at numbers
  omega

/-- Different slots stand at different addresses. -/
theorem memoryAddress_inj {slot other : Nat} (inside : slot < maxRecords)
    (otherInside : other < maxRecords) (same : memoryAddress slot = memoryAddress other) :
    slot = other := by
  have fits : maxRecords ≤ addressableSlots := by decide
  exact memoryAddress_inj_of_addressable (Nat.lt_of_lt_of_le inside fits)
    (Nat.lt_of_lt_of_le otherInside fits) same

namespace LinkRequest

/-- A request has a record unless it asks to read. -/
def IsComplete (request : LinkRequest) : Prop :=
  request.record = none ↔ request.kind = .read

@[simp]
theorem isComplete_readAll : readAll.IsComplete := by
  simp [IsComplete, readAll]

@[simp]
theorem isComplete_write (slot : Nat) (record : LinkRecord) : (write slot record).IsComplete := by
  simp [IsComplete, write]

theorem length_toPayload (request : LinkRequest) :
    request.toPayload.length = payloadLength - 1 := by
  rcases request with ⟨kind, memory, count, record⟩
  cases record <;> rfl

@[simp]
theorem ofByte_toByte (kind : LinkRequestKind) : LinkRequestKind.ofByte kind.toByte = .ok kind := by
  cases kind <;> rfl

theorem ofPayload_append {request : LinkRequest} (complete : request.IsComplete) (rest : Bytes) :
    ofPayload (request.toPayload ++ rest) = .ok request := by
  rcases request with ⟨kind, memory, count, record⟩
  cases kind with
  | read =>
      have empty : record = none := complete.mpr rfl
      subst empty
      simp only [toPayload, List.cons_append, List.nil_append, ofPayload, ofByte_toByte,
        join_octets]
      rfl
  | response | write =>
      cases record with
      | none => simp [IsComplete] at complete
      | some record =>
          simp only [toPayload, List.cons_append, List.nil_append, ofPayload, ofByte_toByte,
            join_octets, LinkRecord.ofBytes_toBytes_append]
          rfl

end LinkRequest

theorem fitPayload_of_length_le {length : Nat} {payload : Bytes} (fits : payload.length ≤ length) :
    fitPayload length payload = payload ++ List.replicate (length - payload.length) 0 := by
  rw [fitPayload, List.take_of_length_le fits]

theorem fitPayload_append {length : Nat} {payload : Bytes} (rest : Bytes)
    (full : payload.length = length) : fitPayload length (payload ++ rest) = payload := by
  simp [fitPayload, ← full]

namespace LinkDatabase

/-- The message that carries a request to the device. -/
def message (database : LinkDatabase) (request : LinkRequest) : Message :=
  database.connection.addressed (database.connection.direct .linkDatabase request.toPayload)

@[simp]
theorem destination_message (database : LinkDatabase) (request : LinkRequest) :
    (database.message request).destination = database.connection.address := by
  simp only [message, Connection.addressed]
  split
  · simp only [Message.withChecksum]
    split <;> rfl
  · rfl

/-- The octets of the request stand in front of one more, which may be a checksum. -/
theorem exists_payload_message (database : LinkDatabase) (request : LinkRequest) :
    ∃ last, (database.message request).payload = request.toPayload ++ [last]
      ∧ (database.message request).isExtended = true
      ∧ (database.message request).command = .linkDatabase := by
  have extended : (Flags.direct true database.connection.config.maxHops).isExtended = true :=
    isExtended_make _ _ _ _
  have payload : fitPayload payloadLength request.toPayload = request.toPayload ++ [0] := by
    rw [fitPayload_of_length_le (by rw [request.length_toPayload]; decide),
      request.length_toPayload]
    rfl
  have family : Command.linkDatabase.isExtended = true := rfl
  simp only [message, Connection.addressed, Connection.direct, family, ↓reduceIte,
    Message.extended]
  split
  · refine ⟨checksum .linkDatabase request.toPayload, ?_⟩
    simp only [Message.withChecksum, Message.isExtended, extended, ↓reduceIte, payload,
      fitPayload_append [0] request.length_toPayload, and_self]
  · exact ⟨0, payload, extended, rfl⟩

/-- The device reads the request that was meant. -/
theorem linkRequest?_message (database : LinkDatabase) {request : LinkRequest}
    (complete : request.IsComplete) :
    (database.message request).linkRequest? = some request := by
  rcases database.exists_payload_message request with ⟨last, payload, extended, command⟩
  have kind : Command.linkDatabase.sameKind .linkDatabase = true := by decide
  simp only [Message.linkRequest?, extended, command, kind, Bool.and_self, ↓reduceIte, payload,
    LinkRequest.ofPayload_append complete]
  rfl

end LinkDatabase

end Powerline
