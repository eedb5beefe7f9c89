import Powerline.Proofs.LinkDatabase.Requests
import Powerline.Proofs.LinkDatabase.Slots

/-!
# The age of the copy

A copy is dated when it is known to be complete: behind a reading that came to its end, and behind
a replacement of the whole table. Nothing else dates it, and only expiring takes the date away. So
the date tells of the latest completion in the whole history, and a reading that broke off is never
taken for a complete one.
-/

namespace Powerline

namespace LinkDatabase

/-- Among the exchanges a reading came to its end, and it was this late right behind it. -/
def ReadsAt (exchanges : List Exchange) (time : Instant) : Prop :=
  ∃ id arrivals, [.readTable id arrivals (.ok ()), .clock time] <:+: exchanges

/-- Among the exchanges no reading came to its end. -/
def Unread (exchanges : List Exchange) : Prop :=
  ∀ id arrivals, Exchange.readTable id arrivals (.ok ()) ∉ exchanges

variable {database : LinkDatabase} {copy : LinkCopy} {world : World} {past : List Exchange}
  {exchanges rest : List Exchange} {time : Instant}

theorem not_readsAt_of_unread (unread : Unread exchanges) : ¬ ReadsAt exchanges time := by
  rintro ⟨id, arrivals, reading⟩
  exact unread id arrivals (reading.subset List.mem_cons_self)

theorem Unread.append (first : Unread exchanges) (second : Unread rest) :
    Unread (exchanges ++ rest) := by
  intro id arrivals mem
  rcases List.mem_append.mp mem with early | late
  · exact first id arrivals early
  · exact second id arrivals late

/-- A refresh dates the copy with the time behind its reading if that came to its end, and
otherwise leaves its date. -/
theorem Refreshed.dates {outcome : Outcome LinkCopy Unit}
    (refreshed : database.Refreshed copy outcome) (unread : Unread rest) :
    (∃ later, outcome.memory.refreshed = some later ∧
        ∀ time, ReadsAt (outcome.exchanges ++ rest) time ↔ time = later) ∨
      outcome.memory.refreshed = copy.refreshed ∧ Unread (outcome.exchanges ++ rest) := by
  cases refreshed with
  | fresh | refused | broken =>
      right
      refine ⟨rfl, Unread.append ?_ unread⟩
      simp [Unread]
  | @complete now later id answer ack arrivals read count stale accepted complete =>
      left
      refine ⟨later, rfl, ?_⟩
      intro time
      constructor
      · rintro ⟨other, others, reading⟩
        simp only [List.cons_append, List.nil_append, List.infix_cons_iff, List.cons_prefix_cons,
          reduceCtorEq, false_and, false_or, Exchange.readTable.injEq, Exchange.clock.injEq]
          at reading
        -- The complete reading is that of the refresh, for there is none behind it.
        rcases reading with ⟨_, same, _⟩ | behind
        · exact same
        · exact absurd ⟨other, others, behind⟩ (not_readsAt_of_unread unread)
      · rintro rfl
        exact ⟨id, arrivals, [.clock now,
          .subscribe (database.connection.heard responses) responseCapacity id,
          .send (database.message .readAll) answer], .discard id :: rest, rfl⟩

end LinkDatabase

namespace Edit

open LinkDatabase (Unread)

variable {database : LinkDatabase} {edit : Edit} {copy : LinkCopy} {world : World}
  {past : List Exchange}

/-- Behind its opening an edit reads nothing. -/
theorem exists_unread (edit : Edit) (database : LinkDatabase) (world : World)
    (past : List Exchange) (copy : LinkCopy) :
    ∃ rest, ((edit.work database).carryOut world past copy).exchanges
        = ((edit.opening database).carryOut world past copy).exchanges ++ rest ∧
      Unread rest := by
  rcases edit.exchanges_work with ⟨writes, finishing, exchanges, clocks⟩
  refine ⟨_, exchanges, Unread.append ?_ ?_⟩
  · intro id arrivals mem
    rcases List.mem_map.mp mem with ⟨write, _, ⟨⟩⟩
  · intro id arrivals mem
    rcases clocks _ mem with ⟨now, ⟨⟩⟩

theorem unread_work (unopened : edit.opening database = pure ()) :
    Unread ((edit.work database).carryOut world past copy).exchanges := by
  rcases edit.exists_unread database world past copy with ⟨rest, exchanges, unread⟩
  rw [exchanges, unopened]
  exact unread

theorem age_of_error {error : Error}
    (failed : ((edit.work database).carryOut world past copy).result = .error error) :
    ((edit.work database).carryOut world past copy).memory.refreshed
      = ((edit.opening database).carryOut world past copy).memory.refreshed := by
  by_cases fits : edit.Fits copy.table
  · cases opens : ((edit.opening database).carryOut world past copy).result with
    | error brought => rw [carryOut_of_opening_error opens]
    | ok =>
        rcases stopsAt_of_writing_error fits opens failed with ⟨writes, failing, _, stops⟩
        rw [stops.memory]
  · rcases carryOut_of_not_fits fits with ⟨slot, record, same, _, refused⟩
    rw [refused, same]
    rfl

/-- Writes to single slots leave the date of the copy alone. -/
theorem age_eq (other : ∀ records, edit ≠ .replace records) :
    ((edit.work database).carryOut world past copy).memory.refreshed
      = ((edit.opening database).carryOut world past copy).memory.refreshed := by
  cases result : ((edit.work database).carryOut world past copy).result with
  | error error => exact age_of_error result
  | ok =>
      rcases wrote_of_ok result with ⟨_, writes, table, _, _, whole⟩
      rw [whole]
      cases edit with
      | replace records => exact absurd rfl (other records)
      | write | add | update | remove => rfl

/-- A replacement of the whole table dates the copy last of all. -/
theorem age_of_replaced {records : List LinkRecord}
    (succeeded : (((replace records).work database).carryOut world past copy).result = .ok ()) :
    ∃ later, (((replace records).work database).carryOut world past copy).memory.refreshed
        = some later ∧
      (((replace records).work database).carryOut world past copy).exchanges.getLast?
        = some (.clock later) := by
  rcases wrote_of_ok succeeded with ⟨_, writes, table, _, _, whole⟩
  rw [whole]
  exact ⟨_, rfl, List.getLast?_concat⟩

end Edit

namespace LinkDatabase

/-- An operation and how it went. -/
structure Turn where
  operation : Operation
  run : Outcome LinkCopy Unit

/-- The operations as they go in turn, each from the copy that the one before has left. -/
def turns (database : LinkDatabase) (world : World) :
    List Exchange → LinkCopy → List Operation → List Turn
  | _, _, [] => []
  | past, copy, operation :: rest =>
      let run := (operation.work database).carryOut world past copy
      ⟨operation, run⟩ :: database.turns world (past ++ run.exchanges) run.memory rest

namespace Turn

/-- The turn completed the copy at this time: by a reading that came to its end, or by replacing the
whole table. -/
inductive CompletesAt (turn : Turn) (time : Instant) : Prop where
  | read (reads : ReadsAt turn.run.exchanges time)
  | replaced {records : List LinkRecord} (operation : turn.operation = .edit (.replace records))
      (succeeded : turn.run.result = .ok ())
      (last : turn.run.exchanges.getLast? = some (.clock time))

/-- The turn neither expires the copy nor completes it. -/
def IsQuiet (turn : Turn) : Prop :=
  turn.operation ≠ .expire ∧ ∀ time, ¬ turn.CompletesAt time

/-- What a turn does to the date that the copy had before. -/
inductive Dates (before : Option Instant) (turn : Turn) : Prop where
  | expires (operation : turn.operation = .expire) (silent : ∀ time, ¬ turn.CompletesAt time)
      (age : turn.run.memory.refreshed = none)
  | completes {later : Instant} (operation : turn.operation ≠ .expire)
      (completes : ∀ time, turn.CompletesAt time ↔ time = later)
      (age : turn.run.memory.refreshed = some later)
  | keeps (quiet : turn.IsQuiet) (age : turn.run.memory.refreshed = before)

variable {database : LinkDatabase} {copy : LinkCopy} {world : World} {past rest : List Exchange}
  {turn : Turn}

/-- Only the replacement of the whole table completes the copy without reading. -/
theorem completesAt_iff (other : ∀ records, turn.operation ≠ .edit (.replace records))
    (time : Instant) : turn.CompletesAt time ↔ ReadsAt turn.run.exchanges time := by
  constructor
  · rintro (reads | ⟨operation, _, _⟩)
    · exact reads
    · exact absurd operation (other _)
  · exact .read

theorem dates_of_refreshed {operation : Operation} {run opened : Outcome LinkCopy Unit}
    (refreshed : database.Refreshed copy opened) (lasts : operation ≠ .expire)
    (other : ∀ records, operation ≠ .edit (.replace records))
    (exchanges : run.exchanges = opened.exchanges ++ rest) (unread : Unread rest)
    (age : run.memory.refreshed = opened.memory.refreshed) :
    Dates copy.refreshed ⟨operation, run⟩ := by
  rcases refreshed.dates unread with ⟨later, dated, reads⟩ | ⟨kept, unreadAll⟩
  · refine .completes lasts ?_ (age.trans dated)
    intro time
    rw [completesAt_iff other, exchanges]
    exact reads time
  · refine .keeps ⟨lasts, ?_⟩ (age.trans kept)
    intro time
    rw [completesAt_iff other, exchanges]
    exact not_readsAt_of_unread unreadAll

theorem dates_refresh {operation : Operation} (lasts : operation ≠ .expire)
    (other : ∀ records, operation ≠ .edit (.replace records)) :
    Dates copy.refreshed ⟨operation, database.refresh.carryOut world past copy⟩ :=
  dates_of_refreshed (database.refreshed copy world past) lasts other (List.append_nil _).symm
    (by simp [Unread]) rfl

theorem dates_edit (edit : Edit) :
    Dates copy.refreshed ⟨.edit edit, (edit.work database).carryOut world past copy⟩ := by
  cases edit with
  | write slot record =>
      refine .keeps ⟨by simp, ?_⟩ (Edit.age_eq (by simp))
      intro time
      rw [completesAt_iff (by simp)]
      exact not_readsAt_of_unread (Edit.unread_work rfl)
  | replace records =>
      -- Nothing is read, so the turn completes the copy exactly if the whole table was written.
      have silent : Unread (((Edit.replace records).work database).carryOut world past
          copy).exchanges := Edit.unread_work rfl
      cases result : (((Edit.replace records).work database).carryOut world past copy).result with
      | error error =>
          refine .keeps ⟨by simp, ?_⟩ (Edit.age_of_error result)
          rintro time (reads | ⟨_, succeeded, _⟩)
          · exact not_readsAt_of_unread silent reads
          · rw [result] at succeeded
            contradiction
      | ok =>
          rcases Edit.age_of_replaced result with ⟨later, dated, last⟩
          refine .completes (by simp) ?_ dated
          intro time
          constructor
          · rintro (reads | ⟨_, _, other⟩)
            · exact absurd reads (not_readsAt_of_unread silent)
            · rw [last, Option.some.injEq, Exchange.clock.injEq] at other
              exact other.symm
          · rintro rfl
            exact .replaced rfl result last
  | add records | update records | remove records =>
      rcases Edit.exists_unread _ database world past copy with ⟨rest, exchanges, unread⟩
      exact dates_of_refreshed (database.refreshed copy world past) (by simp) (by simp) exchanges
        unread (Edit.age_eq (by simp))

end Turn

variable {database : LinkDatabase} {copy : LinkCopy} {world : World} {past : List Exchange}

/-- Every operation expires the copy, completes it or leaves its date. -/
theorem dates (database : LinkDatabase) (world : World) (past : List Exchange) (copy : LinkCopy)
    (operation : Operation) :
    Turn.Dates copy.refreshed ⟨operation, (operation.work database).carryOut world past copy⟩ := by
  cases operation with
  | refresh => exact Turn.dates_refresh (by simp) (by simp)
  | links =>
      rw [carryOut_work_links]
      exact Turn.dates_refresh (by simp) (by simp)
  | expire =>
      refine .expires rfl ?_ rfl
      intro time
      rw [Turn.completesAt_iff (by simp)]
      apply not_readsAt_of_unread
      intro id arrivals mem
      contradiction
  | edit edit => exact Turn.dates_edit edit

section Failed

variable {error : Error}
  (failed : (database.refresh.carryOut world past copy).result = .error error)

include failed

end Failed

/-- One record comes and then nothing more: the copy has it and is stale. -/
example : (sample.refresh.carryOut (sampleWorld [(0, sampleRecord 1)]) [] {}).memory
    = ⟨.ofRecords [sampleRecord 1], none⟩ := rfl

end LinkDatabase

end Powerline
