import Powerline.Frame
import Powerline.Proofs.Modem.Ledger

/-!
# One conversation at a time

The packets that go to the line are those of the requests that the dispatcher took from the
channel, in that order and each once, and none goes out before the conversations about the
earlier ones are over. As long as the dispatcher works, nothing waits in the queue without
another request in flight.
-/

namespace Powerline.Modem

variable {line : Line} {now : Instant} {modem : Modem}

/-- The octets that were handed to the line, one piece for each packet. -/
def wire (effects : List Effect) : List Bytes :=
  (transmissions effects).map fun (_, packet) => Frame.encode packet

/-- While the dispatcher works, no request waits for a line that is free. -/
def KeepsTalking (modem : Modem) : Prop :=
  modem.isRunning → modem.inFlight = none → modem.queue = []

theorem queue_transmitFirst (requests : List (Ticket × Request))
    (idle : (transmitFirst line now modem requests).1.inFlight = none) :
    (transmitFirst line now modem requests).1.queue = [] := by
  induction requests generalizing line with
  | nil => rfl
  | cons first rest ih =>
      rcases first with ⟨ticket, request⟩
      cases written : line 0 with
      | some failure =>
          simp only [transmitFirst, written] at idle ⊢
          exact ih idle
      | none =>
          cases ends : Instant.after? now modem.ackTimeout with
          | some deadline => simp [transmitFirst, written, ends] at idle
          | none => simp [transmitFirst, written, ends, halt]

theorem keepsTalking_proceed (handled : Modem × List Effect) :
    (proceed line now handled).1.KeepsTalking := by
  intro _ idle
  cases talking : handled.1.inFlight with
  | some inFlight => simp [proceed, startNext, talking] at idle
  | none =>
      simp only [proceed, startNext, talking] at idle ⊢
      exact queue_transmitFirst handled.1.queue idle

theorem keepsTalking_of_desk_eq {before after : Modem} (busy : before.KeepsTalking)
    (same : after.desk = before.desk) : after.KeepsTalking := by
  intro running idle
  have fields := Desk.mk.inj same
  rcases fields with ⟨_, _, queue, inFlight, _, isRunning⟩
  rw [queue]
  apply busy
  · rw [← isRunning]
    exact running
  · rw [← inFlight]
    exact idle

theorem keepsTalking_stop (modem : Modem) : modem.stop.1.KeepsTalking :=
  fun _ _ => rfl

theorem keepsTalking_step (busy : modem.KeepsTalking) (event : Event) :
    (step line now modem event).1.KeepsTalking := by
  cases event with
  | submit request =>
      simp only [step, submit]
      split <;> exact busy
  | subscribe id pattern capacity =>
      exact keepsTalking_of_desk_eq busy (desk_subscribe modem id pattern capacity)
  | unsubscribe id => exact keepsTalking_of_desk_eq busy (desk_unsubscribe modem id)
  | discard id => exact keepsTalking_of_desk_eq busy (desk_discard modem id)
  | receive id =>
      simp only [step, receive]
      split <;> exact busy
  | close =>
      simp only [step]
      split <;> exact busy
  | take =>
      cases waiting : modem.controls with
      | nil =>
          simp only [step, waiting]
          exact busy
      | cons control rest =>
          simp only [step, waiting]
          cases control with
          | close => exact keepsTalking_stop _
          | request ticket request => exact keepsTalking_proceed _
          | subscribe id pattern => exact keepsTalking_proceed _
          | unsubscribe id => exact keepsTalking_proceed _
  | arrive packet =>
      simp only [step]
      split
      · exact keepsTalking_proceed _
      · exact busy
  | lineEnd =>
      simp only [step]
      split
      · exact keepsTalking_stop modem
      · exact busy
  | tick =>
      simp only [step]
      split
      · exact keepsTalking_proceed _
      · exact busy
  | abandon =>
      simp only [step]
      split
      · exact keepsTalking_stop modem
      · exact busy

theorem keepsTalking_run (busy : modem.KeepsTalking) (moments : List Moment) :
    (modem.run moments).1.KeepsTalking := by
  induction moments generalizing modem with
  | nil => exact busy
  | cons moment rest ih => exact ih (keepsTalking_step busy moment.event)

/-- Every run of a new modem talks about one request at a time and in order: what the dispatcher
took from the channel is what it transmitted, then what waits in the queue, then what a stop
dropped. -/
theorem transmitted_in_order (ackTimeout : Duration) (filter : Option RelayFilter)
    (moments : List Moment) :
    let modem : Modem := { ackTimeout, filter }
    let final := (modem.run moments).1
    let effects := (modem.run moments).2
    ∃ transmitted dropped : List (Ticket × Request),
      modem.accepted moments = transmitted ++ final.queue ++ dropped ∧
      transmissions effects = transmitted.map sent ∧
      wire effects = transmitted.map (fun (_, request) => Frame.encode request.toPacket) ∧
      (transmitted.map Prod.fst).Nodup ∧
      InTurn effects ∧
      (final.isRunning → dropped = [] ∧ (final.queue ≠ [] → final.inFlight ≠ none)) := by
  intro modem final effects
  have ledger : Ledger (modem.history moments) final.desk :=
    ledger_run_new ackTimeout filter moments
  have busy : final.KeepsTalking := keepsTalking_run (fun _ _ => rfl) moments
  have same : (modem.history moments).effects = effects := effects_history modem moments
  rcases ledger.transmitted with ⟨transmitted, dropped, order, handedOver, kept⟩
  rw [same] at handedOver
  refine ⟨transmitted, dropped, order, handedOver, ?_, ?_, ?_, ?_⟩
  · rw [wire, handedOver, List.map_map]
    rfl
  · have distinct := ledger.nodup_taken
    rw [order, List.map_append, List.map_append, List.append_assoc] at distinct
    exact (List.nodup_append.mp distinct).1
  · rw [← same]
    exact ledger.inTurn
  · intro running
    refine ⟨kept running, ?_⟩
    intro waiting idle
    exact waiting (busy running idle)

end Powerline.Modem
