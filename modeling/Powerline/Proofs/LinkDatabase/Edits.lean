import Powerline.Proofs.Link.Release
import Powerline.Proofs.LinkDatabase.Writes

/-!
# Edits of a link table

An edit reads the table if it needs to, writes records, and some of them mark the copy as complete
in the end. What each of them writes is known from the table it starts with up to the first
failure.
-/

namespace Powerline.LinkDatabase

variable {database : LinkDatabase} {copy : LinkCopy} {world : World} {past : List Exchange}
  {slot : Nat} {record : LinkRecord}

/-- A slot behind the table is refused before anything is sent. -/
theorem carryOut_writeLink_outside (outside : copy.table.size < slot) :
    (database.writeLink slot record).carryOut world past copy
      = ⟨.error (.invalidIndex slot copy.table.size), copy, []⟩ := by
  simp only [writeLink, LinkTable.checkSlot, gt_iff_lt, outside, ↓reduceIte,
    Dialogue.carryOut_bind, Dialogue.carryOut_memory, Outcome.andThen_ok,
    Dialogue.carryOut_ofExcept, Outcome.andThen_error, Outcome.behind_nil]

/-- A write is sent, and the copy takes it over when the device has confirmed it. -/
theorem carryOut_writeLink (database : LinkDatabase) (world : World) (past : List Exchange)
    (record : LinkRecord) (inside : slot ≤ copy.table.size) :
    let write : SlotWrite :=
      ⟨slot, record, world.answer past (database.message (.write slot record))⟩
    (database.writeLink slot record).carryOut world past copy
      = match database.connection.verdict write.answer with
        | .ok _ =>
            ⟨.ok (), { copy with table := copy.table.store slot record }, [database.exchange write]⟩
        | .error error => ⟨.error error, copy, [database.exchange write]⟩ := by
  intro write
  have fine : copy.table.checkSlot slot = .ok () := if_neg (Nat.not_lt.mpr inside)
  simp only [writeLink, Dialogue.carryOut_bind, Dialogue.carryOut_memory, Outcome.andThen_ok,
    Dialogue.carryOut_ofExcept, fine, Outcome.behind_nil, List.append_nil, carryOut_sendRequest]
  cases verdict : database.connection.verdict write.answer with
  | error error => rfl
  | ok ack =>
      simp only [Outcome.andThen_ok, LinkTable.write_of_le record inside]
      rfl

theorem wrote_writeLink (inside : slot ≤ copy.table.size) :
    database.Wrote copy (fun _ writes _ => writes.map SlotWrite.place = [(slot, record)])
      ((database.writeLink slot record).carryOut world past copy) := by
  have carriedOut := carryOut_writeLink database world past record inside
  generalize world.answer past (database.message (.write slot record)) = answer at carriedOut
  cases verdict : database.connection.verdict answer with
  | ok ack =>
      have writing : database.Writing copy.table [⟨slot, record, answer⟩]
          (copy.table.store slot record) := .write inside ⟨ack, verdict⟩ (.rest _)
      simp only [verdict] at carriedOut
      rw [carriedOut]
      exact .done writing rfl
  | error error =>
      simp only [verdict] at carriedOut
      rw [carriedOut]
      exact .failed (.rest copy.table) keepOpen_nil inside verdict

/-- The places of records that are written to successive slots. -/
def placements (slot : Nat) : List LinkRecord → List (Nat × LinkRecord)
  | [] => []
  | record :: rest => (slot, record.notLast) :: placements (slot + 1) rest

theorem mem_placements {records : List LinkRecord} {place : Nat × LinkRecord}
    (mem : place ∈ placements slot records) :
    place.1 < slot + records.length ∧ place.2.flags.isLast = false := by
  induction records generalizing slot with
  | nil => contradiction
  | cons record rest ih =>
      rcases List.mem_cons.mp mem with rfl | behind
      · exact ⟨by simp, isLast_notLast record.flags⟩
      · rcases ih behind with ⟨inside, keepsOpen⟩
        rw [List.length_cons]
        exact ⟨by omega, keepsOpen⟩

theorem exists_mem_placements {records : List LinkRecord} {index : Nat} (start : slot ≤ index)
    (inside : index < slot + records.length) :
    ∃ record, (index, record) ∈ placements slot records := by
  induction records generalizing slot with
  | nil => simp at inside; omega
  | cons record rest ih =>
      rcases Nat.eq_or_lt_of_le start with rfl | behind
      · exact ⟨record.notLast, List.mem_cons_self⟩
      · rw [List.length_cons] at inside
        rcases ih behind (by omega) with ⟨found, mem⟩
        exact ⟨found, List.mem_cons_of_mem _ mem⟩

theorem keepOpen_of_placements {writes : List SlotWrite} {records : List LinkRecord}
    (places : writes.map SlotWrite.place = placements slot records) : KeepOpen writes := by
  apply keepOpen_of_places places
  intro place mem
  exact (mem_placements mem).2

theorem wrote_writeFrom (records : List LinkRecord) (inside : slot ≤ copy.table.size) :
    database.Wrote copy
      (fun _ writes table => writes.map SlotWrite.place = placements slot records
        ∧ slot + records.length ≤ table.size)
      ((database.writeFrom slot records).carryOut world past copy) := by
  induction records generalizing slot copy past with
  | nil => exact .pure ⟨rfl, inside⟩
  | cons record rest ih =>
      have keepOpen (writes : List SlotWrite)
          (places : writes.map SlotWrite.place = [(slot, record.notLast)]) : KeepOpen writes :=
        keepOpen_of_places places (by simp [LinkRecord.notLast])
      apply (wrote_writeLink inside).bind
      · intro _ writes _ places
        exact keepOpen writes places
      · intro past _ writes table writing places
        have covered : slot < table.size :=
          writing.lt_of_place (keepOpen writes places) (by rw [places]; exact List.mem_cons_self)
        refine Wrote.imp (ih covered) ?_
        rintro _ later final _ ⟨behind, fits⟩
        refine ⟨?_, ?_⟩
        · rw [List.map_append, places, behind]
          rfl
        · rw [List.length_cons]
          omega

theorem wrote_addFrom (records : List LinkRecord) (start : Nat) :
    database.Wrote copy
      (fun _ writes _ => writes.map SlotWrite.place
        = (copy.table.vacancies start records.length).zip (records.map LinkRecord.notLast))
      ((database.addFrom start records).carryOut world past copy) := by
  induction records generalizing start copy past with
  | nil => exact .pure List.zip_nil_right.symm
  | cons record rest ih =>
      have keepsOpen : record.notLast.flags.isLast = false := isLast_notLast record.flags
      apply Wrote.memory
      apply (wrote_writeLink (LinkTable.getD_nextAvailable?_le start)).bind
      · intro _ writes _ places
        exact keepOpen_of_places places (by simpa using keepsOpen)
      · intro past _ writes table writing places
        apply (ih _).imp
        intro _ later _ _ behind
        rw [List.map_append, places, behind, writing.eq_storeAll, places, List.length_cons,
          LinkTable.vacancies_succ copy.table start rest.length keepsOpen]
        rfl

theorem wrote_closeGrown (before : Nat) :
    database.Wrote copy
      (fun _ writes _ => writes.map SlotWrite.place = copy.table.closing before)
      ((database.closeGrown before).carryOut world past copy) := by
  apply Wrote.memory
  dsimp only
  split
  · next grown =>
      rw [LinkTable.closing, if_pos grown]
      exact wrote_writeLink (Nat.le_refl _)
  · next kept =>
      rw [LinkTable.closing, if_neg kept]
      exact .pure rfl

/-- The flags that differ are written, and the records of links that are not there are left. -/
theorem wrote_adjustFlags (records : List LinkRecord) :
    database.Wrote copy
      (fun missing writes _ => missing = copy.table.missing records ∧
        writes.map SlotWrite.place = copy.table.plan LinkTable.rewrite? records)
      ((database.adjustFlags records).carryOut world past copy) := by
  induction records generalizing copy past with
  | nil => exact .pure ⟨rfl, rfl⟩
  | cons record rest ih =>
      have first := copy.table.first?_eq record.id
      apply Wrote.memory
      rw [LinkTable.missing_cons, LinkTable.plan_rewrite?_cons, id_notLast]
      cases position : copy.table.position? record.id with
      | none =>
          simp only [position, Option.bind_none] at first ⊢
          rw [LinkTable.rewrite?_of_absent first, LinkTable.reflag_of_absent first, first]
          apply ih.bind
          · rintro _ _ _ ⟨_, places⟩
            exact keepOpen_of_places places fun _ => LinkTable.keepsOpen_of_mem_plan_rewrite?
          · rintro past missing writes table _ ⟨rfl, places⟩
            refine Wrote.pure ⟨rfl, ?_⟩
            rw [List.append_nil, places]
            rfl
      | some slot =>
          rcases LinkTable.exists_of_position? position with ⟨existing, found, _⟩
          simp only [position, found, Option.bind_some] at first ⊢
          rw [first, LinkTable.rewrite?_of_present position found]
          by_cases same : existing.flags = record.notLast.flags
          · have kept : copy.table.reflag record = copy.table := by
              apply LinkTable.reflag_eq_self
              intro other there
              rw [first, Option.some.injEq] at there
              rw [← there]
              exact same
            rw [if_pos same, if_neg (not_not_intro same), kept]
            exact ih
          · rw [if_neg same, if_pos same]
            have inside := Nat.le_of_lt (LinkTable.lt_size_of_getElem? found)
            have wantedOpen : record.notLast.flags.isLast = false := isLast_notLast record.flags
            apply (wrote_writeLink inside).bind
            · intro _ writes _ places
              exact keepOpen_of_places places (by simpa using wantedOpen)
            · intro past _ writes table writing places
              have next : table = copy.table.reflag record := by
                rw [writing.eq_storeAll, places, ← LinkTable.storeAll_rewrite?,
                  LinkTable.rewrite?_of_present position found, if_neg same]
                rfl
              apply ih.imp
              rintro left later _ _ ⟨leaves, behind⟩
              rw [leaves, List.map_append, places, behind, next]
              exact ⟨LinkTable.missing_congr (copy.table.ids_reflag record) rest, rfl⟩

theorem wrote_insertMissing {records : List LinkRecord}
    (missingOpen : ∀ record ∈ records, record.flags.isLast = false) :
    database.Wrote copy
      (fun _ writes _ => writes.map SlotWrite.place = copy.table.plan LinkTable.insertion? records)
      ((database.insertMissing records).carryOut world past copy) := by
  induction records generalizing copy past with
  | nil => exact .pure rfl
  | cons record rest ih =>
      rw [List.forall_mem_cons] at missingOpen
      apply Wrote.memory
      dsimp only
      rw [LinkTable.isNone_position?, LinkTable.plan, LinkTable.insertion?]
      split
      · apply (wrote_writeLink (LinkTable.getD_nextAvailable?_le 0)).bind
        · intro _ writes _ places
          exact keepOpen_of_places places (by simpa using missingOpen.1)
        · intro past _ writes table writing places
          apply (ih missingOpen.2).imp
          intro _ later _ _ behind
          rw [List.map_append, places, behind, writing.eq_storeAll, places]
          rfl
      · exact ih missingOpen.2

/-- The first record of each link is written as a tombstone, one link after another. -/
theorem wrote_releaseEach (records : List LinkRecord) :
    database.Wrote copy
      (fun _ writes _ => writes.map SlotWrite.place = copy.table.plan LinkTable.release? records)
      ((database.releaseEach records).carryOut world past copy) := by
  induction records generalizing copy past with
  | nil => exact .pure rfl
  | cons record rest ih =>
      apply Wrote.memory
      rw [LinkTable.plan]
      cases position : copy.table.position? record.id with
      | none =>
          simp only [LinkTable.release?, position]
          exact ih
      | some slot =>
          rcases LinkTable.exists_of_position? position with ⟨existing, found, _⟩
          simp only [LinkTable.release?, position, found, Option.bind_eq_bind, Option.bind_some]
          apply (wrote_writeLink (Nat.le_of_lt (LinkTable.lt_size_of_getElem? found))).bind
          · intro _ writes _ places
            exact keepOpen_of_places places (by simpa using existing.isLast_tombstone)
          · intro past _ writes table writing places
            apply ih.imp
            intro _ later _ _ behind
            rw [List.map_append, places, behind, writing.eq_storeAll, places]
            rfl

/-- Writes after which the table is as long as before and was never ended, or after which it is
longer and ends with a terminator behind its last record. -/
structure Sealed (before : LinkTable) (writes : List SlotWrite) (final : LinkTable) : Prop where
  grows : before.size ≤ final.size
  covers : ∀ write ∈ writes, write.slot ≤ final.size
  seals : KeepOpen writes ∧ final.size = before.size ∨
    ∃ open' last, writes = open' ++ [last] ∧ KeepOpen open'
      ∧ last.place = (final.size, .terminator)

theorem size_of_terminator {table final : LinkTable} {writes : List SlotWrite}
    (writing : database.Writing table writes final)
    (places : writes.map SlotWrite.place = [(slot, .terminator)]) (inside : slot ≤ table.size) :
    final.size = slot := by
  have isLast : LinkRecord.terminator.flags.isLast = true := rfl
  rw [writing.eq_storeAll, places]
  exact LinkTable.size_store_of_isLast inside isLast

theorem sealed_of_keepOpen {before final : LinkTable} {writes : List SlotWrite}
    (writing : database.Writing before writes final) (keepOpen : KeepOpen writes)
    (same : final.size = before.size) : Sealed before writes final where
  grows := Nat.le_of_eq same.symm
  covers := by
    intro write mem
    exact Nat.le_of_lt ((writing.grows keepOpen).2 write mem)
  seals := Or.inl ⟨keepOpen, same⟩

theorem sealed_of_closing {before table final : LinkTable} {writes later : List SlotWrite}
    (writing : database.Writing before writes table) (keepOpen : KeepOpen writes)
    (closing : database.Writing table later final)
    (places : later.map SlotWrite.place = table.closing before.size) :
    Sealed before (writes ++ later) final := by
  rcases writing.grows keepOpen with ⟨grows, covers⟩
  rw [LinkTable.closing] at places
  split at places
  · next longer =>
      have size := size_of_terminator closing places (Nat.le_refl _)
      rcases List.map_eq_singleton_iff.mp places with ⟨last, rfl, place⟩
      refine ⟨by omega, ?_, Or.inr ⟨writes, last, rfl, keepOpen, ?_⟩⟩
      · intro write mem
        rcases List.mem_append.mp mem with early | late
        · have covered := covers write early
          omega
        · rcases List.mem_singleton.mp late with rfl
          have slot : write.slot = table.size := congrArg Prod.fst place
          omega
      · rw [size]
        exact place
  · next kept =>
      rcases List.map_eq_nil_iff.mp places with rfl
      rcases closing with _ | _
      rw [List.append_nil]
      exact sealed_of_keepOpen writing keepOpen (Nat.le_antisymm (Nat.not_lt.mp kept) grows)

end Powerline.LinkDatabase

namespace Powerline

/-- The operations that change the link table of a device. -/
inductive Edit where
  | write (slot : Nat) (record : LinkRecord)
  | replace (records : List LinkRecord)
  | add (records : List LinkRecord)
  | update (records : List LinkRecord)
  | remove (records : List LinkRecord)

namespace Edit

open LinkDatabase (Work)

/-- The operation as a whole. -/
def work (database : LinkDatabase) : Edit → Work Unit
  | write slot record => database.writeLink slot record
  | replace records => database.writeLinks records
  | add records => database.addLinks records
  | update records => database.updateLinks records
  | remove records => database.removeLinks records

/-- What an edit does before it writes anything. -/
def opening (database : LinkDatabase) : Edit → Work Unit
  | write _ _ | replace _ => pure ()
  | add _ | update _ | remove _ => database.refresh

/-- The writes of an edit. -/
def writing (database : LinkDatabase) : Edit → Work Unit
  | write slot record => database.writeLink slot record
  | replace records => do
      database.writeFrom 0 records
      database.writeLink records.length .terminator
  | add records => do
      let before := (← .memory).table.size
      database.addFrom 0 records
      database.closeGrown before
  | update records => do
      let missing ← database.adjustFlags records
      let before := (← .memory).table.size
      database.insertMissing missing
      database.closeGrown before
  | remove records => database.releaseEach records

/-- What an edit does when everything is written. -/
def finish : Edit → Work Unit
  | replace _ => LinkDatabase.stamp
  | write _ _ | add _ | update _ | remove _ => pure ()

/-- The slot of a direct write lies in the table or directly behind it. -/
def Fits (table : LinkTable) : Edit → Prop
  | write slot _ => slot ≤ table.size
  | _ => True

theorem work_eq (database : LinkDatabase) (edit : Edit) :
    edit.work database
      = edit.opening database >>= fun _ => edit.writing database >>= fun _ => edit.finish := by
  cases edit with
  | write slot record => exact (Dialogue.bind_pure_unit (database.writeLink slot record)).symm
  | replace records =>
      exact (Dialogue.bind_assoc (database.writeFrom 0 records) _ fun _ => LinkDatabase.stamp).symm
  | add records | update records | remove records =>
      simp only [opening, writing, finish, Dialogue.bind_pure_unit]
      rfl

section CarryOut

variable {database : LinkDatabase} {edit : Edit} {copy : LinkCopy} {world : World}
  {past : List Exchange} {error : Error}

theorem result_finish (edit : Edit) :
    (edit.finish.carryOut world past copy).result = .ok () := by
  cases edit <;> rfl

/-- To finish, an edit looks at the clock at most. -/
theorem eq_clock_of_mem_finish {exchange : Exchange}
    (mem : exchange ∈ (edit.finish.carryOut world past copy).exchanges) :
    ∃ now, exchange = .clock now := by
  cases edit with
  | replace records => exact ⟨_, List.mem_singleton.mp mem⟩
  | write | add | update | remove => contradiction

/-- An edit whose opening fails does nothing else. -/
theorem carryOut_of_opening_error
    (failed : ((edit.opening database).carryOut world past copy).result = .error error) :
    (edit.work database).carryOut world past copy
      = (edit.opening database).carryOut world past copy := by
  rw [work_eq, Dialogue.carryOut_bind, Outcome.andThen_of_error failed, ← failed]

/-- An edit that fails behind its opening does so in its writes. -/
theorem carryOut_of_writing_error
    (opens : ((edit.opening database).carryOut world past copy).result = .ok ())
    (failed : ((edit.work database).carryOut world past copy).result = .error error) :
    let opened := (edit.opening database).carryOut world past copy
    let written := (edit.writing database).carryOut world (past ++ opened.exchanges) opened.memory
    written.result = .error error ∧
      (edit.work database).carryOut world past copy = written.behind opened.exchanges := by
  intro opened written
  rw [work_eq, Dialogue.carryOut_bind, Outcome.andThen_of_ok opens, Dialogue.carryOut_bind]
    at failed ⊢
  cases result : written.result with
  | ok value =>
      rw [Outcome.andThen_of_ok result, Outcome.result_behind, Outcome.result_behind,
        result_finish] at failed
      contradiction
  | error brought =>
      rw [Outcome.andThen_of_error result, Outcome.result_behind, Except.error.injEq] at failed
      rw [Outcome.andThen_of_error result, ← failed]
      refine ⟨rfl, ?_⟩
      rw [← result]

/-- An edit that succeeds goes through its opening, its writes and its finish. -/
theorem carryOut_of_ok
    (succeeded : ((edit.work database).carryOut world past copy).result = .ok ()) :
    let opened := (edit.opening database).carryOut world past copy
    let written := (edit.writing database).carryOut world (past ++ opened.exchanges) opened.memory
    opened.result = .ok () ∧ written.result = .ok () ∧
      (edit.work database).carryOut world past copy
        = ((edit.finish.carryOut world (past ++ opened.exchanges ++ written.exchanges)
            written.memory).behind written.exchanges).behind opened.exchanges := by
  intro opened written
  rw [work_eq, Dialogue.carryOut_bind] at succeeded ⊢
  cases opens : opened.result with
  | error error =>
      rw [Outcome.andThen_of_error opens] at succeeded
      contradiction
  | ok =>
      rw [Outcome.andThen_of_ok opens, Dialogue.carryOut_bind] at succeeded ⊢
      cases wrote : written.result with
      | error error =>
          rw [Outcome.andThen_of_error wrote] at succeeded
          contradiction
      | ok =>
          rw [Outcome.andThen_of_ok wrote]
          exact ⟨rfl, rfl, rfl⟩

/-- A direct write behind the table is refused; nothing is sent. -/
theorem carryOut_of_not_fits (misfit : ¬ edit.Fits copy.table) :
    ∃ slot record, edit = .write slot record ∧ copy.table.size < slot ∧
      (edit.work database).carryOut world past copy
        = ⟨.error (.invalidIndex slot copy.table.size), copy, []⟩ := by
  cases edit with
  | write slot record =>
      have outside : copy.table.size < slot := Nat.not_le.mp misfit
      exact ⟨slot, record, rfl, outside, LinkDatabase.carryOut_writeLink_outside outside⟩
  | replace | add | update | remove => exact absurd trivial misfit

/-- The table of an edit that fits still does when the edit has been opened. -/
theorem fits_opened (fits : edit.Fits copy.table) :
    edit.Fits ((edit.opening database).carryOut world past copy).memory.table := by
  cases edit with
  | write | replace => exact fits
  | add | update | remove => trivial

end CarryOut

open LinkDatabase

/-- What an edit has written when it comes to its end without an error. -/
def Leaves (before : LinkTable) (writes : List SlotWrite) (final : LinkTable) : Edit → Prop
  | write slot record => writes.map SlotWrite.place = [(slot, record)]
  | replace records =>
      writes.map SlotWrite.place = placements 0 records ++ [(records.length, .terminator)]
        ∧ final.size = records.length
  | add _ | update _ | remove _ => Sealed before writes final

variable {database : LinkDatabase} {copy : LinkCopy} {world : World} {past : List Exchange}

theorem wrote_replace (records : List LinkRecord) :
    database.Wrote copy (fun _ writes final => (replace records).Leaves copy.table writes final)
      (((replace records).writing database).carryOut world past copy) := by
  apply (wrote_writeFrom records (Nat.zero_le _)).bind
  · rintro _ writes _ ⟨places, _⟩
    exact keepOpen_of_placements places
  · rintro past _ writes table _ ⟨places, fits⟩
    have inside : records.length ≤ table.size := by omega
    apply (wrote_writeLink inside).imp
    intro _ later final writing last
    refine ⟨?_, size_of_terminator writing last inside⟩
    rw [List.map_append, places, last]

theorem wrote_add (records : List LinkRecord) :
    database.Wrote copy
      (fun _ writes final => writes.map SlotWrite.place = copy.table.addPlan records ∧
        Sealed copy.table writes final)
      (((add records).writing database).carryOut world past copy) := by
  apply Wrote.memory
  apply (wrote_addFrom records 0).bind
  · intro _ writes _ places
    exact keepOpen_of_places places fun _ => LinkTable.keepsOpen_of_mem_zip_notLast
  · intro past _ writes table writing places
    have keepOpen : KeepOpen writes :=
      keepOpen_of_places places fun _ => LinkTable.keepsOpen_of_mem_zip_notLast
    apply (wrote_closeGrown copy.table.size).imp
    intro _ later final closing closed
    refine ⟨?_, sealed_of_closing writing keepOpen closing closed⟩
    rw [List.map_append, places, closed, writing.eq_storeAll, places]
    rfl

theorem wrote_update (records : List LinkRecord) :
    database.Wrote copy
      (fun _ writes final => writes.map SlotWrite.place = copy.table.updatePlan records ∧
        Sealed copy.table writes final)
      (((update records).writing database).carryOut world past copy) := by
  apply (wrote_adjustFlags records).bind
  · rintro _ _ _ ⟨_, places⟩
    exact keepOpen_of_places places fun _ => LinkTable.keepsOpen_of_mem_plan_rewrite?
  · rintro past missing writes table writing ⟨rfl, places⟩
    have missingOpen : ∀ record ∈ copy.table.missing records, record.flags.isLast = false :=
      fun _ => LinkTable.isLast_of_mem_missing
    have keepOpen : KeepOpen writes :=
      keepOpen_of_places places fun _ => LinkTable.keepsOpen_of_mem_plan_rewrite?
    have reflagged : table = copy.table.reflagAll records := by
      rw [writing.eq_storeAll, places, LinkTable.storeAll_plan_rewrite?]
    have size : table.size = copy.table.size := by
      rw [reflagged]
      exact LinkTable.size_congr (copy.table.ids_reflagAll records)
    apply Wrote.memory
    apply (wrote_insertMissing missingOpen).bind
    · intro _ _ _ laterPlaces
      exact keepOpen_of_places laterPlaces fun _ =>
        LinkTable.keepsOpen_of_mem_plan_insertion? missingOpen
    · intro past _ later middle more laterPlaces
      have laterOpen : KeepOpen later :=
        keepOpen_of_places laterPlaces fun _ =>
          LinkTable.keepsOpen_of_mem_plan_insertion? missingOpen
      have inserted : middle = copy.table.upsert records := by
        rw [more.eq_storeAll, laterPlaces, LinkTable.storeAll_plan_insertion?, reflagged]
        rfl
      apply (wrote_closeGrown table.size).imp
      intro _ last final closing closed
      rw [size] at closed
      rw [← List.append_assoc]
      refine ⟨?_, sealed_of_closing (writing.append more)
        (keepOpen_append.mpr ⟨keepOpen, laterOpen⟩) closing closed⟩
      rw [List.map_append, List.map_append, places, laterPlaces, closed, reflagged, inserted]
      rfl

/-- An edit writes what it should, or stops at the first failure. -/
theorem wrote_writing (edit : Edit) (fits : edit.Fits copy.table) :
    database.Wrote copy (fun _ writes final => edit.Leaves copy.table writes final)
      ((edit.writing database).carryOut world past copy) := by
  cases edit with
  | write slot record => exact wrote_writeLink fits
  | replace records => exact wrote_replace records
  | add records => exact (wrote_add records).imp fun _ _ _ _ planned => planned.2
  | update records => exact (wrote_update records).imp fun _ _ _ _ planned => planned.2
  | remove records =>
      apply (wrote_releaseEach records).imp
      intro _ writes table writing places
      have keepOpen : KeepOpen writes :=
        keepOpen_of_places places fun _ => LinkTable.keepsOpen_of_mem_plan_release?
      apply sealed_of_keepOpen writing keepOpen
      rw [writing.eq_storeAll, places, LinkTable.storeAll_plan_release?]
      exact copy.table.size_releaseAll records

/-- An edit that succeeds has opened, made all its writes and finished. What is known of its writes
holds of those. -/
theorem exists_writing_of_ok {edit : Edit}
    (condition : LinkTable → List SlotWrite → LinkTable → Prop)
    (wrote : ∀ past copy, edit.Fits copy.table →
      database.Wrote copy (fun _ writes final => condition copy.table writes final)
        ((edit.writing database).carryOut world past copy))
    (succeeded : ((edit.work database).carryOut world past copy).result = .ok ()) :
    let opened := (edit.opening database).carryOut world past copy
    opened.result = .ok () ∧ ∃ writes table,
      database.Writing opened.memory.table writes table ∧
      condition opened.memory.table writes table ∧
      (edit.work database).carryOut world past copy
        = (edit.finish.carryOut world (past ++ opened.exchanges ++ writes.map database.exchange)
            { opened.memory with table }).behind
          (opened.exchanges ++ writes.map database.exchange) := by
  intro opened
  have fits : edit.Fits copy.table := by
    apply Classical.byContradiction
    intro misfit
    rcases carryOut_of_not_fits misfit with ⟨slot, record, _, _, refused⟩
    rw [refused] at succeeded
    contradiction
  rcases carryOut_of_ok succeeded with ⟨opens, done, whole⟩
  have made := wrote (past ++ opened.exchanges) opened.memory (fits_opened fits)
  rw [whole]
  generalize (edit.writing database).carryOut world _ _ = written at made done
  cases made with
  | @done value writes table writing holds =>
      refine ⟨opens, writes, table, writing, holds, ?_⟩
      simp only [Outcome.behind, List.append_assoc, opened]
  | failed => contradiction

theorem wrote_of_ok {edit : Edit}
    (succeeded : ((edit.work database).carryOut world past copy).result = .ok ()) :
    let opened := (edit.opening database).carryOut world past copy
    opened.result = .ok () ∧ ∃ writes table,
      database.Writing opened.memory.table writes table ∧
      edit.Leaves opened.memory.table writes table ∧
      (edit.work database).carryOut world past copy
        = (edit.finish.carryOut world (past ++ opened.exchanges ++ writes.map database.exchange)
            { opened.memory with table }).behind
          (opened.exchanges ++ writes.map database.exchange) :=
  exists_writing_of_ok (fun before writes final => edit.Leaves before writes final)
    (fun _ _ fits => wrote_writing edit fits) succeeded

end Edit

end Powerline
