import Powerline.Proofs.LinkDatabase.Edits
import Powerline.Proofs.LinkDatabase.Refresh
import Powerline.Proofs.Modem.Ledger

/-!
# Edits that fail

An edit that fails claims no more than the device has confirmed. It ends at its first failure,
nothing is transmitted behind that, and the copy is what the confirmed writes made of it. If the
copy agreed with the device before them, it does so afterwards, except perhaps in the slot of the
write that failed.
-/

namespace Powerline

/-- The outcome is the first failure among the exchanges, and nothing is transmitted behind it. -/
def Outcome.EndsAtFailure {σ α : Type} (connection : Connection) (error : Error)
    (outcome : Outcome σ α) : Prop :=
  outcome.result = .error error ∧
    ∃ before failing after, outcome.exchanges = before ++ failing :: after ∧
      (∀ exchange ∈ before, exchange.failure? connection = none) ∧
      failing.failure? connection = some error ∧
      ∀ exchange ∈ after, exchange.transmits = false

/-- The modem fails a request only with what ends a conversation, or because it has stopped, and
subscriptions fail only because nothing comes or nothing can come. -/
structure World.IsModem (world : World) : Prop where
  answer : ∀ past message error, world.answer past message = .error error →
    Modem.concludes (.error error) ∨ error = .closed
  silence : ∀ past id, world.silence past id = .readTimeout ∨ world.silence past id = .closed

theorem Engine.nakError_ne_invalidIndex (engine : Engine) (code : UInt8) (index length : Nat) :
    engine.nakError code ≠ .invalidIndex index length := by
  unfold nakError
  split <;> simp

theorem Connection.verdict_ok_ne_invalidIndex (connection : Connection) (answer : Message)
    (index length : Nat) :
    connection.verdict (.ok answer) ≠ .error (.invalidIndex index length) := by
  change connection.checkAnswer answer ≠ _
  unfold checkAnswer
  split
  · intro refused
    rw [Except.error.injEq] at refused
    exact connection.engine.nakError_ne_invalidIndex _ index length refused
  · simp

/-- No exchange with a modem brings the error that a slot lies outside the table. -/
theorem World.IsModem.failure?_ne_invalidIndex {world : World} (modem : world.IsModem)
    (connection : Connection) {exchange : Exchange} (met : world.Meets exchange)
    (index length : Nat) :
    exchange.failure? connection ≠ some (.invalidIndex index length) := by
  intro failure
  cases exchange with
  | send message answer =>
      rw [Exchange.failure?_send] at failure
      rcases met with ⟨past, same⟩
      cases answer with
      | error error =>
          have failed : error = .invalidIndex index length := Except.error.inj failure
          rcases modem.answer past message error same.symm with concluded | closed
          · rw [failed] at concluded
            contradiction
          · rw [failed] at closed
            contradiction
      | ok answer => exact connection.verdict_ok_ne_invalidIndex answer index length failure
  | readTable id arrivals result =>
      cases result with
      | ok => contradiction
      | error error =>
          have failed : error = .invalidIndex index length := Option.some.inj failure
          rcases met error rfl with ⟨past, same⟩
          rw [failed] at same
          rcases modem.silence past id with silent | silent
          · rw [← same] at silent
            contradiction
          · rw [← same] at silent
            contradiction
  | clock | command | subscribe | discard | receive => contradiction

namespace LinkDatabase

variable {database : LinkDatabase} {copy : LinkCopy} {outcome : Outcome LinkCopy Unit}

/-- A refresh that fails leaves the age of the copy as it was. -/
theorem Refreshed.age_eq (refreshed : database.Refreshed copy outcome) {error : Error}
    (failed : outcome.result = .error error) : outcome.memory.refreshed = copy.refreshed := by
  cases refreshed with
  | fresh | refused | broken => rfl
  | complete => contradiction

/-- A refresh that fails does so at its first failure. -/
theorem Refreshed.endsAtFailure (refreshed : database.Refreshed copy outcome) {error : Error}
    (failed : outcome.result = .error error) :
    outcome.EndsAtFailure database.connection error := by
  refine ⟨failed, ?_⟩
  cases refreshed with
  | fresh => contradiction
  | complete => contradiction
  | @refused now id answer _ stale failure =>
      rw [Except.error.injEq] at failed
      subst failed
      refine ⟨[.clock now, .subscribe (database.connection.heard responses) responseCapacity id],
        .send (database.message .readAll) answer, [.discard id], rfl, ?_, ?_, ?_⟩
      · simp [Exchange.failure?]
      · exact Exchange.failure?_send.mpr failure
      · simp [Exchange.transmits]
  | @broken now id answer ack arrivals read count brought stale accepted incomplete =>
      rw [Except.error.injEq] at failed
      subst failed
      refine ⟨[.clock now, .subscribe (database.connection.heard responses) responseCapacity id,
        .send (database.message .readAll) answer], .readTable id arrivals (.error brought),
        [.discard id], rfl, ?_, rfl, ?_⟩
      · simp [Exchange.failure?, accepted]
      · simp [Exchange.transmits]

/-- Nothing fails in a refresh that succeeds. -/
theorem Refreshed.failure?_eq_none (refreshed : database.Refreshed copy outcome)
    (succeeded : outcome.result = .ok ()) :
    ∀ exchange ∈ outcome.exchanges, exchange.failure? database.connection = none := by
  cases refreshed with
  | fresh => simp [Exchange.failure?]
  | refused | broken => contradiction
  | complete stale accepted complete => simp [Exchange.failure?, accepted]

end LinkDatabase

namespace Edit

open LinkDatabase (Work)

variable {database : LinkDatabase} {edit : Edit} {copy : LinkCopy} {world : World}
  {past : List Exchange} {error : Error}

theorem opening_endsAtFailure
    (failed : ((edit.opening database).carryOut world past copy).result = .error error) :
    ((edit.opening database).carryOut world past copy).EndsAtFailure database.connection
      error := by
  cases edit with
  | write | replace => contradiction
  | add | update | remove => exact (database.refreshed copy world past).endsAtFailure failed

theorem age_eq_of_opening_error
    (failed : ((edit.opening database).carryOut world past copy).result = .error error) :
    ((edit.opening database).carryOut world past copy).memory.refreshed = copy.refreshed := by
  cases edit with
  | write | replace => rfl
  | add | update | remove => exact (database.refreshed copy world past).age_eq failed

theorem opening_failure?_eq_none
    (succeeded : ((edit.opening database).carryOut world past copy).result = .ok ()) :
    ∀ exchange ∈ ((edit.opening database).carryOut world past copy).exchanges,
      exchange.failure? database.connection = none := by
  cases edit with
  | write | replace => simp [opening]
  | add | update | remove =>
      exact (database.refreshed copy world past).failure?_eq_none succeeded

/-- Nothing fails in an edit that succeeds. -/
theorem failure?_eq_none_of_ok
    (succeeded : ((edit.work database).carryOut world past copy).result = .ok ()) :
    ∀ exchange ∈ ((edit.work database).carryOut world past copy).exchanges,
      exchange.failure? database.connection = none := by
  rcases wrote_of_ok succeeded with ⟨opens, writes, table, writing, _, whole⟩
  rw [whole]
  intro exchange mem
  rcases List.mem_append.mp mem with early | late
  · rcases List.mem_append.mp early with opening | written
    · exact opening_failure?_eq_none opens exchange opening
    · rcases List.mem_map.mp written with ⟨write, made, rfl⟩
      exact LinkDatabase.failure?_exchange_of_confirms (writing.confirms write made)
  · rcases eq_clock_of_mem_finish late with ⟨now, rfl⟩
    rfl

/-- Slots that agreed with the memory before the writes agree with it after them, except for the
slot of the one that failed. -/
theorem agrees_of_failing {before after : LinkMemory} {table final : LinkTable}
    {writes : List SlotWrite} {failing : SlotWrite} (writing : database.Writing table writes final)
    (keepOpen : KeepOpen writes) (inside : failing.slot ≤ final.size)
    (fits : final.size < maxRecords) (agrees : ∀ index, before.Agrees table index)
    (served : database.connection.ServesAll before
      ((writes ++ [failing]).map database.exchange) after)
    {index : Nat} (other : index ≠ failing.slot) : after.Agrees final index := by
  rw [List.map_append] at served
  rcases Connection.servesAll_append served with ⟨middle, confirmed, last⟩
  rcases last with _ | ⟨last, ⟨⟩⟩
  intro record present
  have indexFits : index < maxRecords :=
    Nat.lt_trans (LinkTable.lt_size_of_getElem? present) fits
  have slotFits : failing.slot < maxRecords := Nat.lt_of_le_of_lt inside fits
  rw [LinkDatabase.atSlot_of_serves_write last slotFits indexFits other]
  refine writing.agrees confirmed ?_ indexFits (Or.inr (agrees index)) record present
  intro write mem
  exact Nat.lt_trans ((writing.grows keepOpen).2 write mem) fits

/-- Where an edit stopped: behind its opening it made these writes, which the device confirmed, and
then one that failed. The copy has the confirmed writes and the age it had. Where it agreed with
the memory of the device before, it agrees with what became of the memory, except in the slot of
the write that failed. -/
structure StopsAt (database : LinkDatabase) (opened run : Outcome LinkCopy Unit)
    (writes : List SlotWrite) (failing : SlotWrite) : Prop where
  opens : opened.result = .ok ()
  exchanges : run.exchanges = opened.exchanges ++ (writes ++ [failing]).map database.exchange
  confirmed : ∀ write ∈ writes, database.Confirms write
  unconfirmed : ¬ database.Confirms failing
  memory : run.memory = { opened.memory with
    table := opened.memory.table.storeAll (writes.map SlotWrite.place) }
  agrees : run.memory.table.size < maxRecords → ∀ before after,
    (∀ index, before.Agrees opened.memory.table index) →
    database.connection.ServesAll before ((writes ++ [failing]).map database.exchange) after →
    ∀ index, index ≠ failing.slot → after.Agrees run.memory.table index

/-- An edit that fails behind its opening stops at a write. -/
theorem stopsAt_of_writing_error (fits : edit.Fits copy.table)
    (opens : ((edit.opening database).carryOut world past copy).result = .ok ())
    (failed : ((edit.work database).carryOut world past copy).result = .error error) :
    ∃ writes failing, database.connection.verdict failing.answer = .error error ∧
      StopsAt database ((edit.opening database).carryOut world past copy)
        ((edit.work database).carryOut world past copy) writes failing := by
  rcases carryOut_of_writing_error opens failed with ⟨brought, behind⟩
  rw [behind]
  have openedFits : edit.Fits ((edit.opening database).carryOut world past copy).memory.table :=
    fits_opened fits
  generalize (edit.opening database).carryOut world past copy = opened at opens brought openedFits
  have wrote : database.Wrote opened.memory
      (fun _ writes final => edit.Leaves opened.memory.table writes final)
      ((edit.writing database).carryOut world (past ++ opened.exchanges) opened.memory) :=
    wrote_writing edit openedFits
  generalize (edit.writing database).carryOut world _ _ = written at wrote brought
  cases wrote with
  | done => contradiction
  | @failed found writes failing table writing keepOpen inside failure =>
      rw [Except.error.injEq] at brought
      rw [brought] at failure
      refine ⟨writes, failing, failure, opens, rfl, writing.confirms, ?_, ?_, ?_⟩
      · rintro ⟨ack, verdict⟩
        rw [verdict] at failure
        contradiction
      · rw [← writing.eq_storeAll]
        rfl
      · intro small before after agrees served index other
        exact agrees_of_failing writing keepOpen inside small agrees served other

/-- An edit that fits ends at its first failure. -/
theorem endsAtFailure_of_fits (fits : edit.Fits copy.table)
    (failed : ((edit.work database).carryOut world past copy).result = .error error) :
    ((edit.work database).carryOut world past copy).EndsAtFailure database.connection error := by
  cases opens : ((edit.opening database).carryOut world past copy).result with
  | error brought =>
      rw [carryOut_of_opening_error opens] at failed ⊢
      exact opening_endsAtFailure failed
  | ok =>
      rcases stopsAt_of_writing_error fits opens failed with ⟨writes, failing, failure, stops⟩
      refine ⟨failed, ((edit.opening database).carryOut world past copy).exchanges
        ++ writes.map database.exchange, database.exchange failing, [], ?_, ?_, ?_, by simp⟩
      · rw [stops.exchanges, List.map_append, List.append_assoc]
        rfl
      · intro exchange mem
        rcases List.mem_append.mp mem with early | late
        · exact opening_failure?_eq_none opens exchange early
        · rcases List.mem_map.mp late with ⟨write, made, rfl⟩
          exact LinkDatabase.failure?_exchange_of_confirms (stops.confirmed write made)
      · exact Exchange.failure?_send.mpr failure

/-- In an edit that succeeds nothing fails. One that fails returns the error of its first failure
and transmits nothing behind it, unless it is a direct write outside the table, which sends nothing
at all; it fails in its opening, with the copy as old as before, or stops at a write. Only the
direct write outside the table has an error of its own, which no modem brings. -/
theorem stops_at_first_failure (database : LinkDatabase) (edit : Edit) (world : World)
    (past : List Exchange) (copy : LinkCopy) :
    let opened := (edit.opening database).carryOut world past copy
    let run := (edit.work database).carryOut world past copy
    (run.result = .ok () →
      ∀ exchange ∈ run.exchanges, exchange.failure? database.connection = none) ∧
    ∀ error, run.result = .error error →
      ((∃ slot record, edit = .write slot record ∧ copy.table.size < slot ∧
          run = ⟨.error (.invalidIndex slot copy.table.size), copy, []⟩) ∨
        run.EndsAtFailure database.connection error ∧
        (run = opened ∧ run.memory.refreshed = copy.refreshed ∨
          ∃ writes failing, StopsAt database opened run writes failing)) ∧
      (world.IsModem → ∀ index length, error = .invalidIndex index length →
        ∃ record, edit = .write index record ∧ length = copy.table.size ∧ length < index) := by
  intro opened run
  refine ⟨failure?_eq_none_of_ok, ?_⟩
  intro error failed
  by_cases fits : edit.Fits copy.table
  · have ends : run.EndsAtFailure database.connection error := endsAtFailure_of_fits fits failed
    refine ⟨Or.inr ⟨ends, ?_⟩, ?_⟩
    · cases opens : opened.result with
      | error brought =>
          have same : run = opened := carryOut_of_opening_error opens
          refine Or.inl ⟨same, ?_⟩
          rw [same]
          exact age_eq_of_opening_error opens
      | ok =>
          rcases stopsAt_of_writing_error fits opens failed with ⟨writes, failing, _, stops⟩
          exact Or.inr ⟨writes, failing, stops⟩
    · rintro modem index length rfl
      rcases ends with ⟨_, before, failing, after, exchanges, _, failure, _⟩
      have met : world.Meets failing := by
        apply Dialogue.meets_of_mem_carryOut
        change failing ∈ run.exchanges
        rw [exchanges]
        exact List.mem_append_right _ List.mem_cons_self
      exact absurd failure (modem.failure?_ne_invalidIndex database.connection met index length)
  · rcases carryOut_of_not_fits fits with ⟨slot, record, rfl, outside, refused⟩
    refine ⟨Or.inl ⟨slot, record, rfl, outside, refused⟩, ?_⟩
    rintro _ index length rfl
    change run.result = _ at failed
    rw [show run = _ from refused, Except.error.injEq, Error.invalidIndex.injEq] at failed
    rcases failed with ⟨rfl, rfl⟩
    exact ⟨record, rfl, rfl, outside⟩

end Edit

end Powerline
