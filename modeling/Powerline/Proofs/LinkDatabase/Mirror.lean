import Powerline.Proofs.LinkDatabase.Edits
import Powerline.Proofs.LinkDatabase.Refresh

/-!
# A fresh copy is the table of the device

As long as nobody else writes the table and the device does what it confirms, a copy that is not
stale has the records that a full read would bring back. It does not matter what the copy had
before it was first read, nor what an earlier and longer table left in the memory.
-/

namespace Powerline

/-- An exchange that asks for no write leaves the memory alone. -/
theorem Connection.Serves.eq_of_unwritten {connection : Connection} {memory next : LinkMemory}
    {exchange : Exchange} (served : connection.Serves memory exchange next)
    (silent : exchange.write? connection.address = none) : next = memory := by
  cases served with
  | stored written =>
      rw [silent] at written
      contradiction
  | lost | read | other => rfl

/-- A reading that is complete has seen the table. -/
theorem Connection.Serves.streams {connection : Connection} {memory next : LinkMemory}
    {id : SubscriptionId} {arrivals : List Message}
    (served : connection.Serves memory (.readTable id arrivals (.ok ())) next) :
    memory.Streams 0 arrivals := by
  generalize same : Exchange.readTable id arrivals (.ok ()) = exchange at served
  cases served with
  | stored written =>
      rw [← same] at written
      contradiction
  | lost failed =>
      rw [← same] at failed
      contradiction
  | read streams =>
      rcases Exchange.readTable.inj same with ⟨_, rfl, _⟩
      exact streams
  | other _ unread => exact absurd same.symm (unread id arrivals)

namespace Connection.ServesAll

variable {connection : Connection} {memory next : LinkMemory} {exchanges : List Exchange}

theorem eq_of_unwritten (served : connection.ServesAll memory exchanges next)
    (silent : ∀ exchange ∈ exchanges, exchange.write? connection.address = none) :
    next = memory := by
  induction served with
  | rest => rfl
  | @step memory middle final exchange exchanges first _ ih =>
      have same := first.eq_of_unwritten (silent exchange List.mem_cons_self)
      rw [← same]
      apply ih
      intro other mem
      exact silent other (List.mem_cons_of_mem exchange mem)

theorem streams_of_mem (served : connection.ServesAll memory exchanges next)
    (silent : ∀ exchange ∈ exchanges, exchange.write? connection.address = none)
    {id : SubscriptionId} {arrivals : List Message}
    (read : .readTable id arrivals (.ok ()) ∈ exchanges) : memory.Streams 0 arrivals := by
  induction served with
  | rest => contradiction
  | @step memory middle final exchange exchanges first _ ih =>
      rcases List.mem_cons.mp read with rfl | later
      · exact first.streams
      · rw [← first.eq_of_unwritten (silent exchange List.mem_cons_self)]
        apply ih
        · intro other mem
          exact silent other (List.mem_cons_of_mem exchange mem)
        · exact later

end Connection.ServesAll

namespace LinkDatabase

open LinkMemory (Mirrors)

variable {database : LinkDatabase} {copy : LinkCopy} {memory next : LinkMemory}

@[simp]
theorem write?_readAll (database : LinkDatabase) (answer : Except Error Message) :
    Exchange.write? database.connection.address (.send (database.message .readAll) answer)
      = none := by
  have request := database.linkRequest?_message LinkRequest.isComplete_readAll
  simp only [Exchange.write?, destination_message, ↓reduceIte, request]
  rfl

variable {outcome : Outcome LinkCopy Unit}

theorem Refreshed.unwritten (refreshed : database.Refreshed copy outcome) :
    ∀ exchange ∈ outcome.exchanges, exchange.write? database.connection.address = none := by
  cases refreshed with
  | fresh => simp [Exchange.write?]
  | refused | broken | complete =>
      -- Only the request itself is a message, and that one asks to read.
      simp only [List.forall_mem_cons, write?_readAll]
      simp [Exchange.write?]

/-- A refresh that succeeds leaves the memory alone, and the copy mirrors it: because it is fresh,
or because it has been read. -/
theorem Refreshed.mirrors (refreshed : database.Refreshed copy outcome)
    (succeeded : outcome.result = .ok ())
    (served : database.connection.ServesAll memory outcome.exchanges next)
    (known : ∀ time, .clock time ∈ outcome.exchanges →
      copy.isStale database.maxAge time = false → Mirrors copy.table memory)
    (fits : outcome.memory.table.size < maxRecords) :
    next = memory ∧ Mirrors outcome.memory.table memory := by
  refine ⟨served.eq_of_unwritten refreshed.unwritten, ?_⟩
  have silent := refreshed.unwritten
  cases refreshed with
  | fresh fresh => exact known _ List.mem_cons_self fresh
  | refused | broken => contradiction
  | @complete now later id answer ack arrivals read count stale accepted complete =>
      have streams : memory.Streams 0 arrivals := by
        refine served.streams_of_mem silent (?_ : Exchange.readTable id arrivals (.ok ()) ∈ _)
        simp
      exact LinkMemory.mirrors_of_streams streams complete fits

/-- Confirmed writes make the table mirror the memory if every slot was written or agreed before,
no record inside ends the table, and the memory has its end where the table has it. -/
theorem Writing.mirrors {table final : LinkTable} {writes : List SlotWrite}
    (writing : database.Writing table writes final)
    (served : database.connection.ServesAll memory (writes.map database.exchange) next)
    (fits : final.size < maxRecords) (covers : ∀ write ∈ writes, write.slot ≤ final.size)
    (keepOpen : ∀ write ∈ writes, write.slot < final.size → write.record.flags.isLast = false)
    (known : ∀ index < final.size, (∃ write ∈ writes, write.slot = index) ∨
      memory.Agrees table index ∧
        ∀ record, table.records[index]? = some record → record.flags.isLast = false)
    (ended : (next.atSlot final.size).flags.isLast = true) : Mirrors final next := by
  have small : ∀ write ∈ writes, write.slot < maxRecords := by
    intro write mem
    exact Nat.lt_of_le_of_lt (covers write mem) fits
  refine ⟨?_, ?_, ended, fits⟩
  · intro index record present
    have inside := LinkTable.lt_size_of_getElem? present
    refine writing.agrees served small (Nat.lt_trans inside fits) ?_ record present
    rcases known index inside with written | ⟨agrees, _⟩
    · exact Or.inl written
    · exact Or.inr agrees
  · intro record mem
    rcases List.mem_iff_getElem?.mp mem with ⟨index, present⟩
    have inside := LinkTable.lt_size_of_getElem? present
    rcases writing.origin present with ⟨write, made, place⟩ | ⟨before, untouched⟩
    · rcases Prod.mk.inj place with ⟨slot, rfl⟩
      exact keepOpen write made (by rw [slot]; exact inside)
    · rcases known index inside with ⟨write, made, same⟩ | ⟨_, isOpen⟩
      · exact absurd same (untouched write made)
      · exact isOpen record before

/-- Behind confirmed writes the memory has the record of the last one in its slot. -/
theorem atSlot_of_last {writes : List SlotWrite} {last : SlotWrite}
    (served : database.connection.ServesAll memory ((writes ++ [last]).map database.exchange) next)
    (confirmed : database.Confirms last) : next.atSlot last.slot = last.record := by
  rw [List.map_append] at served
  rcases Connection.servesAll_append served with ⟨middle, _, final⟩
  rcases final with _ | ⟨final, ⟨⟩⟩
  rcases serves_write final with rfl | ⟨_, unconfirmed⟩
  · exact LinkMemory.atSlot_store_self middle last.slot last.record
  · exact absurd confirmed unconfirmed

/-- An edit that seals the table keeps the copy a mirror. -/
theorem mirrors_of_sealed {table final : LinkTable} {writes : List SlotWrite}
    (mirrors : Mirrors table memory) (writing : database.Writing table writes final)
    (sealed' : Sealed table writes final)
    (served : database.connection.ServesAll memory (writes.map database.exchange) next)
    (fits : final.size < maxRecords) : Mirrors final next := by
  have known : ∀ index < final.size, (∃ write ∈ writes, write.slot = index) ∨
      memory.Agrees table index ∧
        ∀ record, table.records[index]? = some record → record.flags.isLast = false := by
    intro index _
    right
    refine ⟨mirrors.agrees index, ?_⟩
    intro record present
    exact mirrors.isOpen record (List.mem_of_getElem? present)
  have small : ∀ write ∈ writes, write.slot < maxRecords := by
    intro write mem
    exact Nat.lt_of_le_of_lt (sealed'.covers write mem) fits
  rcases sealed'.seals with ⟨keepOpen, same⟩ | ⟨inner, last, rfl, keepOpen, place⟩
  · refine writing.mirrors served fits sealed'.covers (fun write mem _ => keepOpen write mem)
      known ?_
    -- All writes stay in front of the end, so that it is where it was.
    rw [Writing.atSlot_eq served small fits, same]
    · exact mirrors.ended
    · intro write mem
      exact Nat.ne_of_lt ((writing.grows keepOpen).2 write mem)
  · rcases Prod.mk.inj place with ⟨slot, terminator⟩
    have confirmed := writing.confirms last (by simp)
    refine writing.mirrors served fits sealed'.covers ?_ known ?_
    · intro write mem inside
      rcases List.mem_append.mp mem with early | late
      · exact keepOpen write early
      · rcases List.mem_singleton.mp late with rfl
        omega
    · rw [← slot, atSlot_of_last served confirmed, terminator]
      rfl

/-- A table that was replaced mirrors the memory, whatever either had before. -/
theorem mirrors_of_replaced {table final : LinkTable} {writes : List SlotWrite}
    {records : List LinkRecord} (writing : database.Writing table writes final)
    (places : writes.map SlotWrite.place
      = placements 0 records ++ [(records.length, .terminator)])
    (size : final.size = records.length)
    (served : database.connection.ServesAll memory (writes.map database.exchange) next)
    (fits : final.size < maxRecords) : Mirrors final next := by
  rcases List.map_eq_append_iff.mp places with ⟨inner, ends, rfl, inside, behind⟩
  rcases List.map_eq_singleton_iff.mp behind with ⟨last, rfl, place⟩
  rcases Prod.mk.inj place with ⟨slot, terminator⟩
  have placed : ∀ write ∈ inner,
      write.slot < records.length ∧ write.record.flags.isLast = false := by
    intro write mem
    have found : write.place ∈ placements 0 records := by
      rw [← inside]
      exact List.mem_map_of_mem mem
    simpa [SlotWrite.place] using mem_placements found
  refine writing.mirrors served fits ?_ ?_ ?_ ?_
  · intro write mem
    rcases List.mem_append.mp mem with early | late
    · rw [size]
      exact Nat.le_of_lt (placed write early).1
    · rcases List.mem_singleton.mp late with rfl
      omega
  · intro write mem before
    rcases List.mem_append.mp mem with early | late
    · exact (placed write early).2
    · rcases List.mem_singleton.mp late with rfl
      omega
  · intro index before
    left
    have inRange : index < 0 + records.length := by omega
    rcases exists_mem_placements (Nat.zero_le index) inRange with ⟨record, found⟩
    rw [← inside] at found
    rcases List.mem_map.mp found with ⟨write, mem, made⟩
    exact ⟨write, List.mem_append_left _ mem, (Prod.mk.inj made).1⟩
  · have confirmed := writing.confirms last (by simp)
    rw [size, ← slot, atSlot_of_last served confirmed, terminator]
    rfl

/-- What a caller can ask of a link database that keeps its copy exact: everything but direct writes
of single slots. -/
inductive Task where
  | refresh
  | links
  | replace (records : List LinkRecord)
  | add (records : List LinkRecord)
  | update (records : List LinkRecord)
  | remove (records : List LinkRecord)

/-- The dialogue of a task. -/
def Task.work (database : LinkDatabase) : Task → Work Unit
  | refresh => database.refresh
  | links => do
      let _ ← database.links
  | replace records => database.writeLinks records
  | add records => database.addLinks records
  | update records => database.updateLinks records
  | remove records => database.removeLinks records

/-- The copy of the host and the memory of the device at some time. -/
structure Situation where
  copy : LinkCopy
  memory : LinkMemory
  now : Instant

/-- The copy has not reached its age. -/
def Situation.IsFresh (database : LinkDatabase) (situation : Situation) : Prop :=
  situation.copy.isStale database.maxAge situation.now = false

/-- A session of the only caller that writes the table of a device: tasks that succeed, in any
world, and time that passes. The device stores the writes that it confirms and shows its table when
it is read, and the table with its end fits into the memory. -/
inductive Session (database : LinkDatabase) (start : Situation) : Situation → Prop where
  | start : database.Session start start
  | work {situation : Situation} {outcome : Outcome LinkCopy Unit} {memory : LinkMemory}
      {now : Instant} (session : database.Session start situation) (task : Task) (world : World)
      (past : List Exchange)
      (carriedOut : (task.work database).carryOut world past situation.copy = outcome)
      (succeeded : outcome.result = .ok ())
      (served : database.connection.ServesAll situation.memory outcome.exchanges memory)
      (timely : ∀ time, .clock time ∈ outcome.exchanges → situation.now ≤ time)
      (later : situation.now ≤ now) (fits : outcome.memory.table.size < maxRecords) :
      database.Session start ⟨outcome.memory, memory, now⟩
  | expire {situation : Situation} (session : database.Session start situation) :
      database.Session start { situation with copy := situation.copy.expire }
  | pass {situation : Situation} {now : Instant} (session : database.Session start situation)
      (later : situation.now ≤ now) : database.Session start { situation with now }

theorem isStale_mono {maxAge : Duration} {early late : Instant}
    (stale : copy.isStale maxAge early = true) (later : early ≤ late) :
    copy.isStale maxAge late = true := by
  cases refreshed : copy.refreshed with
  | none => simp only [LinkCopy.isStale, refreshed]
  | some time =>
      simp only [LinkCopy.isStale, refreshed, decide_eq_true_eq] at stale ⊢
      exact Nat.le_trans stale (Nat.sub_le_sub_right later time)

variable {world : World} {past : List Exchange}

theorem table_finish (edit : Edit) :
    (edit.finish.carryOut world past copy).memory.table = copy.table := by
  cases edit <;> rfl

/-- What an edit of the whole table leaves when it succeeds is a mirror of the memory, if the copy
was one when it was fresh. -/
theorem mirrors_of_edit (edit : Edit) (bulk : ∀ slot record, edit ≠ .write slot record)
    (succeeded : ((edit.work database).carryOut world past copy).result = .ok ())
    (served : database.connection.ServesAll memory
      ((edit.work database).carryOut world past copy).exchanges next)
    (known : ∀ time, .clock time ∈ ((edit.work database).carryOut world past copy).exchanges →
      copy.isStale database.maxAge time = false → Mirrors copy.table memory)
    (fits : ((edit.work database).carryOut world past copy).memory.table.size < maxRecords) :
    Mirrors ((edit.work database).carryOut world past copy).memory.table next := by
  rcases Edit.wrote_of_ok succeeded with ⟨opens, writes, table, writing, leaves, whole⟩
  rw [whole, Outcome.exchanges_behind] at served known
  rw [whole, Outcome.memory_behind, table_finish] at fits ⊢
  rcases Connection.servesAll_append served with ⟨ended, served, finished⟩
  rcases Connection.servesAll_append served with ⟨opened, opening, written⟩
  have same : next = ended := by
    apply finished.eq_of_unwritten
    intro exchange mem
    rcases Edit.eq_clock_of_mem_finish mem with ⟨time, rfl⟩
    rfl
  rw [same]
  cases edit with
  | write slot record => exact absurd rfl (bulk slot record)
  | replace records =>
      rcases leaves with ⟨places, size⟩
      exact mirrors_of_replaced writing places size written fits
  | add | update | remove =>
      -- The copy is refreshed first, so that it mirrors the memory before anything is written.
      have openedFits := Nat.lt_of_le_of_lt leaves.grows fits
      rcases (database.refreshed copy world past).mirrors opens opening (fun time read =>
        known time (List.mem_append_left _ (List.mem_append_left _ read))) openedFits with
        ⟨rfl, mirrors⟩
      exact mirrors_of_sealed mirrors writing leaves written fits

theorem carryOut_links (database : LinkDatabase) (world : World) (past : List Exchange)
    (copy : LinkCopy) :
    (Task.links.work database).carryOut world past copy
      = database.refresh.carryOut world past copy := by
  simp only [Task.work, links, Dialogue.carryOut_bind, Dialogue.carryOut_memory,
    Dialogue.carryOut_pure]
  rcases database.refresh.carryOut world past copy with ⟨result, memory, exchanges⟩
  cases result with
  | error error => rfl
  | ok => simp [Outcome.behind]

theorem mirrors_of_refresh
    (succeeded : (database.refresh.carryOut world past copy).result = .ok ())
    (served : database.connection.ServesAll memory
      (database.refresh.carryOut world past copy).exchanges next)
    (known : ∀ time, .clock time ∈ (database.refresh.carryOut world past copy).exchanges →
      copy.isStale database.maxAge time = false → Mirrors copy.table memory)
    (fits : (database.refresh.carryOut world past copy).memory.table.size < maxRecords) :
    Mirrors (database.refresh.carryOut world past copy).memory.table next := by
  rcases (database.refreshed copy world past).mirrors succeeded served known fits with
    ⟨rfl, mirrors⟩
  exact mirrors

/-- What a task leaves when it succeeds is a mirror of the memory, if the copy was one when it was
fresh. -/
theorem mirrors_of_task {task : Task}
    (succeeded : ((task.work database).carryOut world past copy).result = .ok ())
    (served : database.connection.ServesAll memory
      ((task.work database).carryOut world past copy).exchanges next)
    (known : ∀ time, .clock time ∈ ((task.work database).carryOut world past copy).exchanges →
      copy.isStale database.maxAge time = false → Mirrors copy.table memory)
    (fits : ((task.work database).carryOut world past copy).memory.table.size < maxRecords) :
    Mirrors ((task.work database).carryOut world past copy).memory.table next := by
  cases task with
  | refresh => exact mirrors_of_refresh succeeded served known fits
  | links =>
      rw [carryOut_links] at succeeded served known fits ⊢
      exact mirrors_of_refresh succeeded served known fits
  | replace records =>
      exact mirrors_of_edit (.replace records) (by simp) succeeded served known fits
  | add records => exact mirrors_of_edit (.add records) (by simp) succeeded served known fits
  | update records => exact mirrors_of_edit (.update records) (by simp) succeeded served known fits
  | remove records => exact mirrors_of_edit (.remove records) (by simp) succeeded served known fits

/-- A copy that is not stale has the records that a full read of the device would bring back: in
every session that starts with a stale copy, whatever it holds, and with any memory. -/
theorem records_eq_visible (database : LinkDatabase) (start final : Situation)
    (stale : start.copy.isStale database.maxAge start.now = true)
    (session : database.Session start final) (fresh : final.IsFresh database) :
    final.copy.table.records = final.memory.visible := by
  have mirrors : ∀ time, final.now ≤ time → final.copy.isStale database.maxAge time = false →
      Mirrors final.copy.table final.memory := by
    clear fresh
    induction session with
    | start =>
        intro time later fresh
        rw [isStale_mono stale later] at fresh
        contradiction
    | work session task world past carriedOut succeeded served timely later fits ih =>
        intro _ _ _
        subst carriedOut
        apply mirrors_of_task succeeded served _ fits
        intro time read fresh
        exact ih time (timely time read) fresh
    | expire =>
        intro time _ fresh
        contradiction
    | pass session later ih =>
        intro time behind fresh
        exact ih time (Nat.le_trans later behind) fresh
  exact (mirrors final.now (Nat.le_refl _) fresh).visible_eq.symm

/-! ### A table that shrinks and grows again -/

/-- The link database of some device. -/
def sample : LinkDatabase := ⟨⟨{}, ⟨0x1a, 0x2b, 0x3c⟩, .i2cs⟩, 1⟩

/-- A link of it to another device. -/
def sampleRecord (octet : UInt8) : LinkRecord :=
  .controller 1 ⟨octet, octet, octet⟩ 3 31 0

def sampleAck : Message :=
  .standard sample.connection.address .zero (.make .directAck false 0 0) .linkDatabase

def sampleResponse (place : Nat × LinkRecord) : Message :=
  .extended sample.connection.address .zero (.direct true 0) .linkDatabase
    (LinkRequest.toPayload ⟨.response, memoryAddress place.1, 0, some place.2⟩)

/-- The device accepts everything and reports these records, all at once. -/
def sampleWorld (reported : List (Nat × LinkRecord)) : World where
  now := fun _ => 0
  echo := fun _ packet => .ok packet
  answer := fun _ _ => .ok sampleAck
  subscription := fun _ => 0
  mail := fun _ _ _ => .error .readTimeout
  arrivals := fun _ _ => reported.map sampleResponse
  silence := fun _ _ => .readTimeout

/-- A refresh that finds one record. -/
def sampleReading : List Exchange :=
  [.clock 0, .subscribe (sample.connection.heard responses) responseCapacity 0,
    .send (sample.message .readAll) (.ok sampleAck),
    .readTable 0 [sampleResponse (0, sampleRecord 1), sampleResponse (1, .terminator)] (.ok ()),
    .clock 0, .discard 0]

theorem serves_sampleReading (first : memory.atSlot 0 = sampleRecord 1)
    (second : memory.atSlot 1 = .terminator) :
    sample.connection.ServesAll memory sampleReading memory := by
  have streams : memory.Streams 0
      [sampleResponse (0, sampleRecord 1), sampleResponse (1, .terminator)] := by
    refine .record ⟨0, ?_⟩ ?_ (.last ⟨0, ?_⟩ ?_)
    · rw [first]
      rfl
    · rw [first]
      rfl
    · rw [second]
      rfl
    · rw [second]
      rfl
  refine .step (.other rfl ?_) (.step (.other rfl ?_) (.step (.other (write?_readAll _ _) ?_)
    (.step (.read streams) (.step (.other rfl ?_) (.step (.other rfl ?_) (.rest memory))))))
  all_goals simp

/-- The table is replaced by a shorter one and grows again; what a longer one left behind it in the
memory stays hidden. -/
theorem records_eq_visible_regrown :
    ∃ final, sample.Session
        ⟨⟨.ofRecords [sampleRecord 9, sampleRecord 9], none⟩, ⟨fun _ => sampleRecord 9⟩, 0⟩ final ∧
      final.IsFresh sample ∧ final.memory.atSlot 3 = sampleRecord 9 ∧
      final.copy.table.records = [sampleRecord 1, sampleRecord 2] ∧
      final.copy.table.records = final.memory.visible := by
  have replaced := Session.work (Session.start : sample.Session _
      ⟨⟨.ofRecords [sampleRecord 9, sampleRecord 9], none⟩, ⟨fun _ => sampleRecord 9⟩, 0⟩)
    (.replace [sampleRecord 1]) (sampleWorld []) [] rfl rfl
    (.step (.stored (write?_exchange sample ⟨0, sampleRecord 1, .ok sampleAck⟩))
      (.step (.stored (write?_exchange sample ⟨1, .terminator, .ok sampleAck⟩))
        (.step (.other rfl (by simp)) (.rest _))))
    (fun time _ => Nat.zero_le time) (Nat.le_refl 0) (by decide)
  have carriedOut :
      ((Task.add [sampleRecord 2]).work sample).carryOut
          (sampleWorld [(0, sampleRecord 1), (1, .terminator)]) []
          ⟨.ofRecords [sampleRecord 1], none⟩
        = ⟨.ok (), ⟨.ofRecords [sampleRecord 1, sampleRecord 2], some 0⟩,
            sampleReading ++ [sample.exchange ⟨1, sampleRecord 2, .ok sampleAck⟩,
              sample.exchange ⟨2, .terminator, .ok sampleAck⟩]⟩ := rfl
  have added := replaced.expire.work (.add [sampleRecord 2])
    (sampleWorld [(0, sampleRecord 1), (1, .terminator)]) [] carriedOut rfl
    ((serves_sampleReading rfl rfl).append
      (.step (.stored (write?_exchange sample ⟨1, sampleRecord 2, .ok sampleAck⟩))
        (.step (.stored (write?_exchange sample ⟨2, .terminator, .ok sampleAck⟩)) (.rest _))))
    (fun time _ => Nat.zero_le time) (Nat.le_refl 0) (by decide)
  exact ⟨_, added, rfl, rfl, rfl, records_eq_visible sample _ _ rfl added rfl⟩

end LinkDatabase

end Powerline
