import Mathlib.Data.List.Induction
import Powerline.Proofs.Modem.Reactions

/-!
# The moments of a run

A run comes to each of its moments after a past: the moments before it. What has happened by then
is what a run of the past alone shows, so "earlier" and "later" in a run are prefixes of its list of
moments. Looking back from a request in flight one finds the moment at which the line took it and,
if it waits for its device already, the later moment at which its echo came (`underway_run`).
-/

namespace Powerline.Modem

open Desk

variable {modem : Modem} {moments later past : List Moment} {moment : Moment} {ticket : Ticket}

/-! ### One run after the other -/

theorem run_append (modem : Modem) (moments later : List Moment) :
    modem.run (moments ++ later)
      = (((modem.run moments).1.run later).1,
          (modem.run moments).2 ++ ((modem.run moments).1.run later).2) := by
  induction moments generalizing modem with
  | nil => rfl
  | cons first rest ih => simp only [List.cons_append, run, ih, List.append_assoc]

/-- What the dispatcher does at a moment, after a past. -/
def effectsAt (modem : Modem) (past : List Moment) (moment : Moment) : List Effect :=
  (step moment.line moment.now (modem.run past).1 moment.event).2

theorem run_append_singleton (modem : Modem) (past : List Moment) (moment : Moment) :
    modem.run (past ++ [moment])
      = ((step moment.line moment.now (modem.run past).1 moment.event).1,
          (modem.run past).2 ++ modem.effectsAt past moment) := by
  simp only [run_append, run, List.append_nil, effectsAt]

theorem history_append (modem : Modem) (moments later : List Moment) :
    modem.history (moments ++ later)
      = modem.history moments ++ (modem.run moments).1.history later := by
  induction moments generalizing modem with
  | nil => simp [history, run, History.append_def]
  | cons first rest ih => simp only [List.cons_append, history, run, ih, History.append_assoc]

/-- What was taken from the channel in the past was taken in the whole run. -/
theorem mem_accepted_of_prefix {submitted : Ticket × Request}
    (taken : submitted ∈ modem.accepted past) (before : past <+: moments) :
    submitted ∈ modem.accepted moments := by
  rcases before with ⟨rest, rfl⟩
  rw [accepted, history_append, History.append_def]
  exact List.mem_append_left _ taken

/-- A result was given at some moment of the run. -/
theorem exists_moment_of_mem_answers {result : Ticket × Except Error Answer}
    (given : result ∈ answers (modem.run moments).2) :
    ∃ past moment, past ++ [moment] <+: moments ∧
      result ∈ answers (modem.effectsAt past moment) := by
  induction moments using List.reverseRecOn with
  | nil => contradiction
  | append_singleton past moment ih =>
      rw [run_append_singleton, answers_append, List.mem_append] at given
      rcases given with early | now
      · rcases ih early with ⟨before, earlier, reached, given⟩
        exact ⟨before, earlier, reached.trans (List.prefix_append _ _), given⟩
      · exact ⟨past, moment, List.prefix_rfl, now⟩

/-- What the dispatcher handed to the line at a moment is among the transmissions of the run. -/
theorem mem_transmissions_of_effectsAt {packet : Packet} {failure : Option LineFailure}
    (sent : .transmit ticket packet failure ∈ modem.effectsAt past moment)
    (reached : past ++ [moment] <+: moments) :
    (ticket, packet) ∈ transmissions (modem.run moments).2 := by
  rcases reached with ⟨rest, rfl⟩
  rw [run_append, run_append_singleton, transmissions_append, transmissions_append]
  refine List.mem_append_left _ (List.mem_append_right _ ?_)
  exact List.mem_filterMap.mpr ⟨_, sent, rfl⟩

/-- What holds at all moments of a run holds at its first moment and at all later ones. -/
theorem forall_moments_cons {first : Moment} {holds : List Moment → Moment → Prop}
    (now : holds [] first)
    (further : ∀ past moment, past ++ [moment] <+: later → holds (first :: past) moment) :
    ∀ past moment, past ++ [moment] <+: first :: later → holds past moment := by
  intro past moment reached
  cases past with
  | nil =>
      rcases List.cons_prefix_cons.mp reached with ⟨rfl, _⟩
      exact now
  | cons earlier past =>
      rcases List.cons_prefix_cons.mp reached with ⟨rfl, behind⟩
      exact further past moment behind

theorem forall_moments_nil {holds : List Moment → Moment → Prop} :
    ∀ past moment, past ++ [moment] <+: [] → holds past moment := by
  intro past moment reached
  simp at reached

/-! ### What is in flight and how it came to be so -/

/-- The request in flight was taken from the channel. -/
def Known (history : History) (desk : Desk) : Prop :=
  ∀ inFlight, desk.inFlight = some inFlight → (inFlight.ticket, inFlight.request) ∈ history.taken

theorem known_of_move {now : Instant} {desk next : Desk} {history new : History}
    (ledger : Ledger history desk) (known : Known history desk) (move : Move now desk new next) :
    Known (history ++ new) next := by
  have before : ∀ {found : InFlight}, desk.inFlight = some found →
      (found.ticket, found.request) ∈ (history ++ new).taken := by
    intro found talking
    exact List.mem_append_left _ (known found talking)
  intro inFlight talking
  cases move with
  | @transmit ticket request rest deadline idle first ends =>
      rcases Option.some.inj talking with rfl
      rcases ledger.transmitted with ⟨handed, dropped, order, _⟩
      refine List.mem_append_left _ ?_
      rw [order, first]
      simp
  | @await inFlight message packet deadline waiting isMessage echoed accepted ends =>
      rcases Option.some.inj talking with rfl
      have mem := before waiting
      exact mem
  | settle | halt | overrun => contradiction
  | submit | turnAway | take | fail | shut | receive => exact before talking

theorem known_of_moves {now : Instant} {desk next : Desk} {history new : History}
    (ledger : Ledger history desk) (known : Known history desk) (moves : Moves now desk new next) :
    Known (history ++ new) next := by
  induction moves generalizing history with
  | rest =>
      rw [History.append_empty]
      exact known
  | step move _ ih =>
      rw [← History.append_assoc]
      exact ih (ledger.move move) (known_of_move ledger known move)

/-- How a request comes to be in flight at the end of a run: what its conversation was so far. -/
inductive Underway (modem : Modem) (moments : List Moment) : InFlight → Prop where
  /-- The line took it, and it waits for its echo. -/
  | sent {inFlight : InFlight} {past : List Moment} {sending : Moment}
      (reached : past ++ [sending] <+: moments)
      (starts : inFlight.Starts sending.now modem.ackTimeout (modem.effectsAt past sending)) :
      Underway modem moments inFlight
  /-- The line took it, then its echo came, and it waits for its device. -/
  | echoed {inFlight : InFlight} {past between : List Moment} {sending echoing : Moment}
      {packet : Packet} {message : Message} {deadline : Instant}
      (earlier : past ++ [sending] <+: between)
      (starts : inFlight.Starts sending.now modem.ackTimeout (modem.effectsAt past sending))
      (reached : between ++ [echoing] <+: moments)
      (talking : (modem.run between).1.inFlight = some inFlight)
      (isMessage : inFlight.request = .message message)
      (arrives : echoing.event = .arrive packet) (accepted : inFlight.AcceptedBy packet)
      (ends : Instant.after? echoing.now modem.ackTimeout = some deadline) :
      Underway modem moments { inFlight with stage := .awaitReply, deadline }

theorem Underway.mono {inFlight : InFlight} (underway : modem.Underway past inFlight)
    (before : past <+: moments) : modem.Underway moments inFlight := by
  cases underway with
  | sent reached starts => exact .sent (reached.trans before) starts
  | echoed earlier starts reached talking isMessage arrives accepted ends =>
      exact .echoed earlier starts (reached.trans before) talking isMessage arrives accepted ends

section New

variable {ackTimeout : Duration} {filter : Option RelayFilter} {inFlight : InFlight}

theorem ackTimeout_run (modem : Modem) (moments : List Moment) :
    (modem.run moments).1.ackTimeout = modem.ackTimeout := by
  induction moments using List.reverseRecOn with
  | nil => rfl
  | append_singleton past moment ih =>
      rw [run_append_singleton, ← ih]
      exact ackTimeout_of_moves (step_moves moment.line moment.now (modem.run past).1 moment.event)

/-- In every run of a new modem, the request in flight was taken from the channel. -/
theorem mem_accepted_of_inFlight
    (talking : (run { ackTimeout, filter } moments).1.inFlight = some inFlight) :
    (inFlight.ticket, inFlight.request) ∈ accepted { ackTimeout, filter } moments := by
  suffices known : Known (history { ackTimeout, filter } moments)
      (run { ackTimeout, filter } moments).1.desk from known inFlight talking
  clear talking
  induction moments using List.reverseRecOn with
  | nil =>
      intro inFlight talking
      contradiction
  | append_singleton past moment ih =>
      have moved := known_of_moves (ledger_run_new ackTimeout filter past) ih
        (step_moves moment.line moment.now _ moment.event)
      rw [run_append_singleton, history_append]
      simpa only [history, History.append_empty] using moved

/-- In every run of a new modem, the request in flight was handed to the line, and if it waits for
its device, its echo came after that. -/
theorem underway_run
    (talking : (run { ackTimeout, filter } moments).1.inFlight = some inFlight) :
    Underway { ackTimeout, filter } moments inFlight := by
  induction moments using List.reverseRecOn generalizing inFlight with
  | nil => contradiction
  | append_singleton past moment ih =>
      rw [run_append_singleton] at talking
      have timeout := ackTimeout_run { ackTimeout, filter } past
      have recent : past <+: past ++ [moment] := List.prefix_append _ _
      cases advance_of_inFlight talking with
      | stays before => exact (ih before).mono recent
      | starts starts =>
          rw [timeout] at starts
          exact .sent List.prefix_rfl starts
      | @goesOn inFlight packet sent deadline before arrives isMessage accepted ends =>
          rw [timeout] at ends
          cases ih before with
          | sent reached starts =>
              exact .echoed reached starts List.prefix_rfl before isMessage arrives accepted ends
          | echoed =>
              -- It waits for its device already, so no packet is its echo.
              have echoed := accepted.echoed
              simp [InFlight.isEchoedBy] at echoed

end New

end Powerline.Modem
