import Powerline.Proofs.Link.Memory

/-!
# Reading a table from the responses of a device

A device that is asked for its table reports one slot after the other, up to and with the first
last record. Responses may be repeated, and other messages may come between them; what is read is
the table that the memory shows.
-/

namespace Powerline

/-- The message reports a record of the link table. -/
def Message.IsLinkResponse (message : Message) : Prop :=
  ∃ address count record, message.linkRequest? = some ⟨.response, address, count, some record⟩

namespace LinkMemory

/-- The message reports what stands in a slot. -/
def Reports (memory : LinkMemory) (index : Nat) (message : Message) : Prop :=
  ∃ count, message.linkRequest?
    = some ⟨.response, memoryAddress index, count, some (memory.atSlot index)⟩

/-- The messages report the table from a slot on to its end. -/
inductive Streams (memory : LinkMemory) : Nat → List Message → Prop where
  | last {index : Nat} {message : Message} (reported : memory.Reports index message)
      (ended : (memory.atSlot index).flags.isLast = true) : memory.Streams index [message]
  | record {index : Nat} {message : Message} {rest : List Message}
      (reported : memory.Reports index message)
      (goesOn : (memory.atSlot index).flags.isLast = false)
      (later : memory.Streams (index + 1) rest) : memory.Streams index (message :: rest)
  /-- The response before comes once more. -/
  | again {index : Nat} {message : Message} {rest : List Message}
      (reported : memory.Reports index message)
      (later : memory.Streams (index + 1) rest) : memory.Streams (index + 1) (message :: rest)
  /-- Something else comes in between. -/
  | other {index : Nat} {message : Message} {rest : List Message}
      (silent : ¬ message.IsLinkResponse)
      (later : memory.Streams index rest) : memory.Streams index (message :: rest)

/-- What has been read when the next response is that of a slot. -/
def readUpTo (memory : LinkMemory) (index : Nat) : LinkReading where
  records := (List.range index).map memory.atSlot
  latest := match index with
    | 0 => none
    | before + 1 => some (memoryAddress before)

variable {memory : LinkMemory} {index : Nat} {message : Message}

theorem memoryAddress_succ_ne (slot : Nat) : memoryAddress slot ≠ memoryAddress (slot + 1) := by
  intro same
  have numbers := congrArg UInt16.toNat same
  have octets : recordSize = 8 := rfl
  have base : baseAddress.toNat = 4095 := by decide
  rw [memoryAddress, memoryAddress, UInt16.toNat_sub, UInt16.toNat_sub, UInt16.toNat_ofNat',
    UInt16.toNat_ofNat', base, octets] at numbers
  omega

/-- The response of the next slot is no repetition. -/
theorem latest_readUpTo_ne (memory : LinkMemory) (index : Nat) :
    (memory.readUpTo index).latest ≠ some (memoryAddress index) := by
  cases index with
  | zero => simp [readUpTo]
  | succ before =>
      intro same
      exact memoryAddress_succ_ne before (Option.some.inj same)

theorem observe_last (reported : memory.Reports index message)
    (ended : (memory.atSlot index).flags.isLast = true) :
    (memory.readUpTo index).observe message
      = ({ memory.readUpTo index with latest := some (memoryAddress index) }, true) := by
  rcases reported with ⟨count, request⟩
  simp only [LinkReading.observe, request, LinkReading.accept, latest_readUpTo_ne, ended,
    ↓reduceIte]

theorem observe_record (reported : memory.Reports index message)
    (goesOn : (memory.atSlot index).flags.isLast = false) :
    (memory.readUpTo index).observe message = (memory.readUpTo (index + 1), false) := by
  rcases reported with ⟨count, request⟩
  simp only [LinkReading.observe, request, LinkReading.accept, latest_readUpTo_ne, goesOn,
    Bool.false_eq_true, ↓reduceIte]
  simp only [readUpTo, List.range_succ, List.map_append, List.map_cons, List.map_nil]

theorem observe_again (reported : memory.Reports index message) :
    (memory.readUpTo (index + 1)).observe message = (memory.readUpTo (index + 1), false) := by
  rcases reported with ⟨count, request⟩
  simp only [LinkReading.observe, request, LinkReading.accept, readUpTo, ↓reduceIte]

theorem observe_other (reading : LinkReading) (silent : ¬ message.IsLinkResponse) :
    reading.observe message = (reading, false) := by
  cases request : message.linkRequest? with
  | none => simp only [LinkReading.observe, request]
  | some found =>
      rcases found with ⟨kind, address, count, record⟩
      simp only [LinkReading.observe, request]
      cases kind with
      | read | write => rfl
      | response =>
          cases record with
          | none => rfl
          | some record => exact absurd ⟨address, count, record, request⟩ silent

/-- A reading of the whole stream ends with the records before the first last one. -/
theorem absorb_of_streams {messages : List Message} (streams : memory.Streams index messages) :
    ∃ final latest, index ≤ final ∧ (memory.atSlot final).flags.isLast = true
      ∧ (∀ other, index ≤ other → other < final → (memory.atSlot other).flags.isLast = false)
      ∧ Bench.absorb (memory.readUpTo index) messages
          = (⟨(List.range final).map memory.atSlot, latest⟩, true, messages.length) := by
  induction streams with
  | @last index message reported ended =>
      refine ⟨index, some (memoryAddress index), Nat.le_refl _, ended, by omega, ?_⟩
      simp only [Bench.absorb, observe_last reported ended]
      rfl
  | @record index message rest reported goesOn _ ih =>
      rcases ih with ⟨final, latest, behind, ended, before, absorbed⟩
      refine ⟨final, latest, by omega, ended, ?_, ?_⟩
      · intro other above below
        rcases Nat.eq_or_lt_of_le above with rfl | later
        · exact goesOn
        · exact before other later below
      · simp only [Bench.absorb, observe_record reported goesOn, absorbed]
        rfl
  | again reported _ ih =>
      rcases ih with ⟨final, latest, behind, ended, before, absorbed⟩
      refine ⟨final, latest, behind, ended, before, ?_⟩
      simp only [Bench.absorb, observe_again reported, absorbed]
      rfl
  | other silent _ ih =>
      rcases ih with ⟨final, latest, behind, ended, before, absorbed⟩
      refine ⟨final, latest, behind, ended, before, ?_⟩
      simp only [Bench.absorb, observe_other _ silent, absorbed]
      rfl

/-- Messages that a reading did not take do not matter to it. -/
theorem absorb_take {reading read : LinkReading} {messages : List Message} {complete : Bool}
    {count : Nat} (absorbed : Bench.absorb reading messages = (read, complete, count)) :
    Bench.absorb reading (messages.take count) = (read, complete, count) := by
  induction messages generalizing reading count with
  | nil => rwa [List.take_nil]
  | cons message rest ih =>
      cases observed : reading.observe message with
      | mk next done =>
          cases done with
          | true =>
              simp only [Bench.absorb, observed, Prod.mk.injEq] at absorbed
              rcases absorbed with ⟨rfl, rfl, rfl⟩
              simp only [List.take_succ_cons, List.take_zero, Bench.absorb, observed]
          | false =>
              cases later : Bench.absorb next rest with
              | mk last remaining =>
                  rcases remaining with ⟨ended, taken⟩
                  simp only [Bench.absorb, observed, later, Prod.mk.injEq] at absorbed
                  rcases absorbed with ⟨rfl, rfl, rfl⟩
                  simp only [List.take_succ_cons, Bench.absorb, observed, ih later]

/-- A complete reading of the table mirrors the memory. -/
theorem mirrors_of_streams {messages : List Message} {read : LinkReading} {complete : Bool}
    {count : Nat} (streams : memory.Streams 0 messages)
    (absorbed : Bench.absorb {} messages = (read, complete, count))
    (fits : read.records.length < maxRecords) : memory.Mirrors (.ofRecords read.records) := by
  rcases absorb_of_streams streams with ⟨final, latest, _, ended, before, same⟩
  have start : memory.readUpTo 0 = {} := rfl
  rw [start, absorbed] at same
  have records : read.records = (List.range final).map memory.atSlot := by
    rw [(Prod.mk.inj same).1]
  have size : (LinkTable.ofRecords read.records).size = final := by
    rw [LinkTable.size, LinkTable.records_ofRecords, records, List.length_map, List.length_range]
  refine ⟨?_, ?_, ?_, fits⟩
  · intro index record present
    rw [LinkTable.records_ofRecords, records, List.getElem?_map, Option.map_eq_some_iff] at present
    rcases present with ⟨slot, inside, found⟩
    rcases List.getElem?_eq_some_iff.mp inside with ⟨_, same⟩
    rw [List.getElem_range] at same
    rw [same]
    exact found
  · intro record mem
    rw [LinkTable.records_ofRecords, records] at mem
    rcases List.mem_map.mp mem with ⟨slot, inside, found⟩
    rw [← found]
    exact before slot (Nat.zero_le slot) (List.mem_range.mp inside)
  · rw [size]
    exact ended

end LinkMemory

end Powerline
