import Powerline.Proofs.Modem.Ledger

/-!
# One result for each request

Every request that callers submit gets one result, and results come in the order of submission.
A dispatcher that stops leaves nothing unanswered, and one that has stopped transmits nothing and
turns every request away.
-/

namespace Powerline.Modem

/-- The result of a request that a stop leaves unanswered, or that comes too late. -/
def closed (ticket : Ticket) : Ticket × Except Error Answer :=
  (ticket, .error .closed)

/-- Results that end conversations come first; behind them a stop answers whatever is left as
closed. -/
def ClosesLast (effects : List Effect) (next : Desk) : Prop :=
  ∃ own left, answers effects = own ++ left.map closed ∧ (∀ result ∈ own, concludes result.2)
    ∧ (next.isRunning → left = [])

/-- The desk stays cleared, nothing is transmitted, and every request is turned away. -/
structure TurnsAway (desk : Desk) (later : Desk.History) (next : Desk) : Prop where
  cleared : next.IsCleared
  counted : next.nextTicket = desk.nextTicket + later.submitted.length
  untransmitted : transmissions later.effects = []
  answered : answers later.effects
    = (List.range' desk.nextTicket later.submitted.length).map closed

namespace TurnsAway

variable {desk middle final : Desk} {history later : Desk.History}

theorem rest (cleared : desk.IsCleared) : TurnsAway desk {} desk :=
  ⟨cleared, rfl, rfl, rfl⟩

theorem trans (first : TurnsAway desk history middle) (second : TurnsAway middle later final) :
    TurnsAway desk (history ++ later) final where
  cleared := second.cleared
  counted := by
    rw [second.counted, first.counted]
    simp [Desk.History.append_def, Nat.add_assoc]
  untransmitted := by
    simp [Desk.History.append_def, first.untransmitted, second.untransmitted]
  answered := by
    simp only [Desk.History.append_def, answers_append, first.answered, second.answered,
      first.counted, ← List.map_append, List.range'_append_1, List.length_append]

end TurnsAway

section Moves

open Desk

variable {now : Instant} {desk next : Desk} {later : History}

/-- Nothing but late requests can happen on a cleared desk. -/
theorem turnsAway_of_move (cleared : desk.IsCleared) (move : Move now desk later next) :
    TurnsAway desk later next := by
  rcases cleared with ⟨stopped, channel, queue, inFlight⟩
  cases move with
  | submit request running => simp [stopped] at running
  | turnAway request => exact ⟨⟨stopped, channel, queue, inFlight⟩, rfl, rfl, rfl⟩
  | take oldest => simp [channel] at oldest
  | transmit idle first => simp [queue] at first
  | fail failure idle first => simp [queue] at first
  | overrun idle first => simp [queue] at first
  | await talking => simp [inFlight] at talking
  | settle talking => simp [inFlight] at talking
  | halt =>
      have nothing : desk.closings = [] := by
        simp [closings, Desk.unanswered, channel, queue, inFlight]
      rw [nothing]
      exact ⟨⟨rfl, rfl, rfl, rfl⟩, rfl, rfl, rfl⟩
  | shut => exact ⟨⟨stopped, channel, queue, inFlight⟩, rfl, rfl, rfl⟩
  | receive => exact ⟨⟨stopped, channel, queue, inFlight⟩, rfl, rfl, rfl⟩

theorem turnsAway_of_moves (cleared : desk.IsCleared) (moves : Moves now desk later next) :
    TurnsAway desk later next := by
  induction moves with
  | rest => exact TurnsAway.rest cleared
  | step move _ ih =>
      have first := turnsAway_of_move cleared move
      exact first.trans (ih first.cleared)

theorem closesLast_of_move (running : desk.isRunning = true) (move : Move now desk later next) :
    ClosesLast later.effects next ∧ (next.isRunning = false → next.IsCleared) := by
  cases move with
  | submit request => exact ⟨⟨[], [], rfl, by simp, fun _ => rfl⟩, by simp [running]⟩
  | turnAway request stopped => simp [running] at stopped
  | take oldest => exact ⟨⟨[], [], rfl, by simp, fun _ => rfl⟩, by simp [running]⟩
  | transmit idle first => exact ⟨⟨[], [], rfl, by simp, fun _ => rfl⟩, by simp [running]⟩
  | @fail ticket request rest failure idle first =>
      refine ⟨⟨[(ticket, .error (.line failure))], [], rfl, ?_, fun _ => rfl⟩, by simp [running]⟩
      intro result own
      rw [List.mem_singleton.mp own]
      rfl
  | overrun idle first =>
      refine ⟨⟨[], desk.unanswered, ?_, by simp, by simp [halted]⟩, fun _ => ⟨rfl, rfl, rfl, rfl⟩⟩
      exact answers_closings desk
  | await talking => exact ⟨⟨[], [], rfl, by simp, fun _ => rfl⟩, by simp [running]⟩
  | @settle inFlight ended talking ends =>
      refine ⟨⟨[(inFlight.ticket, ended)], [], rfl, ?_, fun _ => rfl⟩, by simp [running]⟩
      intro result own
      rw [List.mem_singleton.mp own]
      exact Ledger.concludes_of_ends ends
  | halt =>
      refine ⟨⟨[], desk.unanswered, ?_, by simp, by simp [halted]⟩, fun _ => ⟨rfl, rfl, rfl, rfl⟩⟩
      exact answers_closings desk
  | shut => exact ⟨⟨[], [], rfl, by simp, fun _ => rfl⟩, by simp [running]⟩
  | receive => exact ⟨⟨[], [], rfl, by simp, fun _ => rfl⟩, by simp [running]⟩

theorem closesLast_of_moves (running : desk.isRunning = true) (moves : Moves now desk later next) :
    ClosesLast later.effects next := by
  induction moves with
  | rest => exact ⟨[], [], rfl, by simp, fun _ => rfl⟩
  | @step desk middle final history later move moves ih =>
      rcases closesLast_of_move running move with ⟨⟨own, left, first, conclude, kept⟩, clears⟩
      cases goesOn : middle.isRunning with
      | true =>
          rcases kept goesOn with rfl
          rcases ih goesOn with ⟨ownLater, leftLater, second, concludeLater, keptLater⟩
          refine ⟨own ++ ownLater, leftLater, ?_, ?_, keptLater⟩
          · simp only [History.append_def, answers_append, first, second, List.map_nil,
              List.append_nil, List.append_assoc]
          · intro result mem
            rcases List.mem_append.mp mem with early | late
            · exact conclude result early
            · exact concludeLater result late
      | false =>
          have away := turnsAway_of_moves (clears goesOn) moves
          refine ⟨own, left ++ List.range' middle.nextTicket later.submitted.length, ?_,
            conclude, ?_⟩
          · simp only [History.append_def, answers_append, first, away.answered, List.map_append,
              List.append_assoc]
          · simp [away.cleared.stopped]

end Moves

variable {line : Line} {now : Instant} {modem : Modem}

/-- A stopped dispatcher turns away whatever still comes, for ever. -/
theorem turnsAway_run (cleared : modem.desk.IsCleared) (moments : List Moment) :
    TurnsAway modem.desk (modem.history moments) (modem.run moments).1.desk := by
  induction moments generalizing modem with
  | nil => exact TurnsAway.rest cleared
  | cons moment rest ih =>
      have first := turnsAway_of_moves cleared
        (step_moves moment.line moment.now modem moment.event)
      exact first.trans (ih first.cleared)

/-- The event that stops a dispatcher which works: the line ends, a caller's close is taken, or
nobody is left to leave a control. -/
def stops (modem : Modem) : Event → Prop
  | .lineEnd => True
  | .take => ∃ rest, modem.controls = .close :: rest
  | .abandon => modem.controls = []
  | _ => False

theorem answers_stop (modem : Modem) : answers modem.stop.2 = modem.unanswered.map closed := by
  simp only [stop, halt, ← desk_unanswered, answers_append]
  rw [show answers [.shut] = [] from rfl, List.append_nil]
  exact answers_closings modem.desk

/-- A stop closes everything that has no result yet. -/
theorem step_of_stops {event : Event} (running : modem.isRunning = true)
    (stopping : modem.stops event) :
    (step line now modem event).1.isRunning = false ∧
      answers (step line now modem event).2 = modem.unanswered.map closed := by
  cases event with
  | lineEnd =>
      simp only [step, running, ↓reduceIte]
      exact ⟨rfl, answers_stop modem⟩
  | take =>
      rcases stopping with ⟨rest, oldest⟩
      simp only [step, oldest, handleControl]
      refine ⟨rfl, ?_⟩
      rw [answers_stop]
      simp only [unanswered, oldest, List.filterMap_cons]
  | abandon =>
      have nobody : (modem.isRunning && modem.controls.isEmpty) = true := by
        simpa [running, stops] using stopping
      simp only [step, nobody, ↓reduceIte]
      exact ⟨rfl, answers_stop modem⟩
  | submit | subscribe | unsubscribe | discard | receive | close | arrive | tick =>
      exact absurd stopping id

section Counting

open Desk

variable {past : History} {desk : Desk}

/-- A request that was taken from the channel is in the queue, in flight or answered, and in one
of these places only. -/
theorem Ledger.one_place (ledger : Ledger past desk) {ticket : Ticket}
    (taken : ticket ∈ past.taken.map Prod.fst) :
    ((answers past.effects).map Prod.fst).count ticket + (desk.queue.map Prod.fst).count ticket
      + (desk.inFlight.map InFlight.ticket).toList.count ticket = 1 := by
  rcases ledger.accepted with ⟨lost, same, _⟩
  have distinct := nodup_numbered past.submitted
  rw [← same, List.map_append, List.map_append] at distinct
  have outside : ticket ∉ desk.channel.map Prod.fst :=
    fun waiting =>
      (List.nodup_append.mp (List.nodup_append.mp distinct).1).2.2 ticket taken ticket waiting rfl
  have submitted : ticket ∈ List.range past.submitted.length := by
    rw [← map_fst_numbered, ← same]
    simp only [List.map_append, List.mem_append]
    exact Or.inl (Or.inl taken)
  have once : (List.range past.submitted.length).count ticket = 1 := by
    rw [List.nodup_range.count, if_pos submitted]
  rw [← ledger.answered, Desk.unanswered, List.count_append, List.count_append,
    List.count_append, List.count_eq_zero.mpr outside] at once
  omega

/-- The results of a step from an agreeing desk to a cleared one are those that were missing. -/
theorem Ledger.answered_of_isCleared {later : History} {next : Desk} (ledger : Ledger past desk)
    (after : Ledger (past ++ later) next) (cleared : next.IsCleared)
    (silent : later.submitted = []) :
    (answers later.effects).map Prod.fst = desk.unanswered := by
  have all := after.answered
  have nothing : next.unanswered = [] := by
    simp [Desk.unanswered, cleared.channel, cleared.queue, cleared.inFlight]
  simp only [History.append_def, silent, List.append_nil, nothing, answers_append,
    List.map_append] at all
  rw [← ledger.answered] at all
  exact List.append_cancel_left all

end Counting

/-- The step that stops the dispatcher submits nothing. -/
theorem submitted_of_stopped {event : Event} (running : modem.isRunning = true)
    (stopped : (step line now modem event).1.isRunning = false) : event.submitted = [] := by
  cases event with
  | submit request => simp [step, submit, leave, running] at stopped
  | subscribe | unsubscribe | discard | receive | close | take | arrive | lineEnd | tick
  | abandon => rfl

/-- Every run of a new modem gives every request one result: the results given so far and the
requests without one are the submitted requests in order. The step that stops the dispatcher
closes what no conversation of it has ended, and from then on requests are only turned away. -/
theorem answered_once (ackTimeout : Duration) (filter : Option RelayFilter)
    (moments : List Moment) :
    let modem : Modem := { ackTimeout, filter }
    let state := (modem.run moments).1
    let results := answers (modem.run moments).2
    results.map Prod.fst ++ state.unanswered = List.range (submitted moments).length ∧
    (∀ ticket ∈ (modem.accepted moments).map Prod.fst,
      (results.map Prod.fst).count ticket + (state.queue.map Prod.fst).count ticket
        + (state.inFlight.map InFlight.ticket).toList.count ticket = 1) ∧
    (∀ moment : Moment, state.isRunning →
      let next := step moment.line moment.now state moment.event
      (next.1.isRunning = false → ∃ own left,
        answers next.2 = own ++ left.map closed ∧ (∀ result ∈ own, concludes result.2) ∧
        own.map Prod.fst ++ left = state.unanswered) ∧
      (state.stops moment.event →
        next.1.isRunning = false ∧ answers next.2 = state.unanswered.map closed)) ∧
    (state.isRunning = false → state.unanswered = [] ∧ ∀ later,
      (state.run later).1.isRunning = false ∧ transmissions (state.run later).2 = [] ∧
      answers (state.run later).2
        = (List.range' (submitted moments).length (submitted later).length).map closed) := by
  intro modem state results
  have ledger : Ledger (modem.history moments) state.desk :=
    ledger_run_new ackTimeout filter moments
  have same : answers (modem.history moments).effects = results := by
    rw [effects_history]
  have known : (modem.history moments).submitted = submitted moments :=
    submitted_history modem moments
  refine ⟨?_, ?_, ?_, ?_⟩
  · rw [← same, ← known, ← desk_unanswered]
    exact ledger.answered
  · intro ticket taken
    rw [← same]
    exact ledger.one_place taken
  · intro moment running next
    have moves := step_moves moment.line moment.now state moment.event
    refine ⟨?_, step_of_stops running⟩
    intro stopped
    have after := ledger.moves moves
    rcases closesLast_of_moves running moves with ⟨own, left, order, conclude, _⟩
    have missing := ledger.answered_of_isCleared after (after.stopped stopped)
      (submitted_of_stopped running stopped)
    refine ⟨own, left, order, conclude, ?_⟩
    rw [← desk_unanswered, ← missing, order, List.map_append, List.map_map]
    exact congrArg _ (List.map_id left).symm
  · intro stopped
    have cleared := ledger.stopped stopped
    refine ⟨?_, ?_⟩
    · rw [← desk_unanswered]
      simp [Desk.unanswered, cleared.channel, cleared.queue, cleared.inFlight]
    · intro later
      have away := turnsAway_run cleared later
      have counted : state.desk.nextTicket = (submitted moments).length := by
        rw [ledger.counted, known]
      refine ⟨away.cleared.stopped, ?_, ?_⟩
      · rw [← effects_history]
        exact away.untransmitted
      · rw [← effects_history, away.answered, submitted_history, counted]

end Powerline.Modem
