import Powerline.Proofs.Dialogue
import Powerline.Proofs.Link.Table
import Powerline.Proofs.Link.Wire

/-!
# Writing records

Whatever works on a link table writes its records one at a time. The writes that the device
confirmed lead from one table to the next (`Writing`); the first one that fails ends the work, and
the copy stays as the confirmed ones left it (`Wrote`).
-/

namespace Powerline

/-- A write of a record to a slot and how the modem answered it. -/
structure SlotWrite where
  slot : Nat
  record : LinkRecord
  answer : Except Error Message

namespace SlotWrite

/-- What was written, and where. -/
def place (write : SlotWrite) : Nat × LinkRecord :=
  (write.slot, write.record)

end SlotWrite

/-- None of the writes ends the table. -/
def KeepOpen (writes : List SlotWrite) : Prop :=
  ∀ write ∈ writes, write.record.flags.isLast = false

theorem keepOpen_append {first second : List SlotWrite} :
    KeepOpen (first ++ second) ↔ KeepOpen first ∧ KeepOpen second := by
  simp only [KeepOpen, List.mem_append, or_imp, forall_and]

theorem keepOpen_nil : KeepOpen [] := by
  simp [KeepOpen]

theorem keepOpen_of_places {writes : List SlotWrite} {places : List (Nat × LinkRecord)}
    (same : writes.map SlotWrite.place = places)
    (keepOpen : ∀ place ∈ places, place.2.flags.isLast = false) : KeepOpen writes := by
  intro write mem
  apply keepOpen write.place
  rw [← same]
  exact List.mem_map_of_mem mem

namespace LinkDatabase

variable {database : LinkDatabase}

@[simp]
theorem carryOut_sendRequest {σ : Type} (database : LinkDatabase) (request : LinkRequest)
    (world : World) (past : List Exchange) (memory : σ) :
    (database.connection.send .linkDatabase request.toPayload).carryOut world past memory
      = ⟨database.connection.verdict (world.answer past (database.message request)), memory,
          [.send (database.message request) (world.answer past (database.message request))]⟩ :=
  Connection.carryOut_send database.connection world past memory .linkDatabase request.toPayload

/-- The exchange of a write. -/
def exchange (database : LinkDatabase) (write : SlotWrite) : Exchange :=
  .send (database.message (.write write.slot write.record)) write.answer

/-- The device confirmed the write. -/
def Confirms (database : LinkDatabase) (write : SlotWrite) : Prop :=
  ∃ ack, database.connection.verdict write.answer = .ok ack

/-- Confirmed writes, each inside the table of its time or directly behind it, lead from one table
to another. -/
inductive Writing (database : LinkDatabase) : LinkTable → List SlotWrite → LinkTable → Prop where
  | rest (table : LinkTable) : database.Writing table [] table
  | write {table final : LinkTable} {write : SlotWrite} {writes : List SlotWrite}
      (inside : write.slot ≤ table.size) (confirmed : database.Confirms write)
      (later : database.Writing (table.store write.slot write.record) writes final) :
      database.Writing table (write :: writes) final

namespace Writing

variable {table middle final : LinkTable} {writes later : List SlotWrite}

theorem append (first : database.Writing table writes middle)
    (second : database.Writing middle later final) :
    database.Writing table (writes ++ later) final := by
  induction first with
  | rest => exact second
  | write inside confirmed _ ih => exact .write inside confirmed (ih second)

theorem confirms (writing : database.Writing table writes final) :
    ∀ write ∈ writes, database.Confirms write := by
  induction writing with
  | rest => simp
  | write inside confirmed _ ih =>
      intro other mem
      rcases List.mem_cons.mp mem with rfl | behind
      · exact confirmed
      · exact ih other behind

theorem eq_storeAll (writing : database.Writing table writes final) :
    final = table.storeAll (writes.map SlotWrite.place) := by
  induction writing with
  | rest => rfl
  | write _ _ _ ih => exact ih

/-- Every record of the final table was written, or it was there before and its slot was never
written. -/
theorem origin (writing : database.Writing table writes final) {index : Nat} {found : LinkRecord}
    (present : final.records[index]? = some found) :
    (∃ write ∈ writes, write.place = (index, found)) ∨
      table.records[index]? = some found ∧ ∀ write ∈ writes, write.slot ≠ index := by
  induction writing with
  | rest => exact Or.inr ⟨present, by simp⟩
  | @write table final write writes inside confirmed _ ih =>
      rcases ih present with ⟨other, mem, place⟩ | ⟨before, untouched⟩
      · exact Or.inl ⟨other, List.mem_cons_of_mem write mem, place⟩
      · rcases LinkTable.getElem?_store inside before with ⟨rfl, rfl⟩ | ⟨other, earlier⟩
        · exact Or.inl ⟨write, List.mem_cons_self, rfl⟩
        · right
          refine ⟨earlier, ?_⟩
          intro made mem
          rcases List.mem_cons.mp mem with rfl | later
          · exact other.symm
          · exact untouched made later

/-- While no write ends the table, it only grows, and covers every slot written. -/
theorem grows (writing : database.Writing table writes final) (keepOpen : KeepOpen writes) :
    table.size ≤ final.size ∧ ∀ write ∈ writes, write.slot < final.size := by
  induction writing with
  | rest => simp
  | @write table final write writes inside confirmed _ ih =>
      have size := LinkTable.size_store_of_keepsOpen inside (keepOpen write List.mem_cons_self)
      rcases ih fun other mem => keepOpen other (List.mem_cons_of_mem write mem) with
        ⟨longer, covered⟩
      refine ⟨by omega, ?_⟩
      intro other mem
      rcases List.mem_cons.mp mem with rfl | behind
      · omega
      · exact covered other behind

theorem lt_of_place (writing : database.Writing table writes final) (keepOpen : KeepOpen writes)
    {slot : Nat} {record : LinkRecord} (written : (slot, record) ∈ writes.map SlotWrite.place) :
    slot < final.size := by
  rcases List.mem_map.mp written with ⟨write, mem, place⟩
  have same : write.slot = slot := congrArg Prod.fst place
  rw [← same]
  exact (writing.grows keepOpen).2 write mem

end Writing

/-- How a work that only writes records comes to its end: with all its writes confirmed, or with
the first that failed. The condition speaks of the value, the writes and the table in the first
case. -/
inductive Wrote {α : Type} (database : LinkDatabase) (copy : LinkCopy)
    (condition : α → List SlotWrite → LinkTable → Prop) : Outcome LinkCopy α → Prop where
  | done {value : α} {writes : List SlotWrite} {table : LinkTable}
      (writing : database.Writing copy.table writes table)
      (holds : condition value writes table) :
      Wrote database copy condition
        ⟨.ok value, { copy with table }, writes.map database.exchange⟩
  | failed {error : Error} {writes : List SlotWrite} {failing : SlotWrite} {table : LinkTable}
      (writing : database.Writing copy.table writes table) (keepOpen : KeepOpen writes)
      (inside : failing.slot ≤ table.size)
      (failure : database.connection.verdict failing.answer = .error error) :
      Wrote database copy condition
        ⟨.error error, { copy with table }, (writes ++ [failing]).map database.exchange⟩

namespace Wrote

variable {α β : Type} {copy : LinkCopy} {condition weaker : α → List SlotWrite → LinkTable → Prop}
  {outcome : Outcome LinkCopy α} {world : World} {past : List Exchange}

theorem imp (wrote : database.Wrote copy condition outcome)
    (weaken : ∀ value writes table, database.Writing copy.table writes table →
      condition value writes table → weaker value writes table) :
    database.Wrote copy weaker outcome := by
  cases wrote with
  | done writing holds => exact .done writing (weaken _ _ _ writing holds)
  | failed writing keepOpen inside failure => exact .failed writing keepOpen inside failure

theorem pure {value : α} (holds : condition value [] copy.table) :
    database.Wrote copy condition
      ((Pure.pure value : Work α).carryOut world past copy) :=
  .done (.rest copy.table) holds

/-- One work after another. Only the last one may end the table, or else a failure could not tell
which slots are left. -/
theorem bind {first : Work β} {second : β → Work α}
    {middle : β → List SlotWrite → LinkTable → Prop}
    (wrote : database.Wrote copy middle (first.carryOut world past copy))
    (keepOpen : ∀ value writes table, middle value writes table → KeepOpen writes)
    (next : ∀ past value writes table, database.Writing copy.table writes table →
      middle value writes table →
        database.Wrote { copy with table } (fun result later => condition result (writes ++ later))
          ((second value).carryOut world past { copy with table })) :
    database.Wrote copy condition ((first >>= second).carryOut world past copy) := by
  rw [Dialogue.carryOut_bind]
  generalize first.carryOut world past copy = outcome at wrote
  cases wrote with
  | @done value writes table writing holds =>
      rw [Outcome.andThen_ok]
      have rest := next (past ++ writes.map database.exchange) value writes table writing holds
      generalize (second value).carryOut world _ _ = outcome at rest
      cases rest with
      | done more fine =>
          rw [Outcome.behind, ← List.map_append]
          exact .done (writing.append more) fine
      | failed more open' inside failure =>
          rw [Outcome.behind, ← List.map_append, ← List.append_assoc]
          exact .failed (writing.append more)
            (keepOpen_append.mpr ⟨keepOpen value writes table holds, open'⟩) inside failure
  | failed writing open' inside failure =>
      rw [Outcome.andThen_error]
      exact .failed writing open' inside failure

/-- Looking at the copy writes nothing. -/
theorem memory {second : LinkCopy → Work α}
    (next : database.Wrote copy condition ((second copy).carryOut world past copy)) :
    database.Wrote copy condition ((Dialogue.memory >>= second).carryOut world past copy) := by
  rw [Dialogue.carryOut_bind, Dialogue.carryOut_memory, Outcome.andThen_ok, List.append_nil]
  exact next

end Wrote

end LinkDatabase

end Powerline
