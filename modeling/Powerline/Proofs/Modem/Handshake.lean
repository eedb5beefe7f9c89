import Powerline.Proofs.Modem.Moments

/-!
# The handshake in two stages

A packet for the modem succeeds with its echo. A message for a device succeeds in two stages: the
modem echoes it, then the device answers. Every success of a run has such a conversation behind it,
in that order (`Conversed`), whatever else arrives in between: a packet that the request in flight
does not wait for leaves all requests and the deadline as they are. Each stage has a wait of its
own, so a conversation is over when both have ended, if the clock does not run past a deadline.
-/

namespace Powerline

theorem Instant.after?_eq_some {now deadline : Instant} {span : Duration}
    (ends : Instant.after? now span = some deadline) : deadline = now + span := by
  unfold Instant.after? at ends
  split at ends
  · exact (Option.some.inj ends).symm
  · contradiction

/-- The packet is an echo of a request: it repeats the command byte that was sent, and starts with
the payload that was sent. -/
structure Packet.Repeats (packet : Packet) (request : Request) : Prop where
  isHost : packet.opcode.isHost = true
  opcode : packet.opcode = request.toPacket.opcode
  payload : request.toPacket.payload <+: packet.payload

/-- The packet is an echo in which the modem accepts a request: no ack byte refuses it. -/
structure Packet.Accepts (packet : Packet) (request : Request) : Prop
    extends packet.Repeats request where
  ack : packet.ack ≠ some nakByte

/-- The packet is an echo in which the modem refuses a request. -/
structure Packet.Refuses (packet : Packet) (request : Request) : Prop
    extends packet.Repeats request where
  ack : packet.ack = some nakByte

/-- The packet is what the request in flight waits for next. -/
inductive Packet.Concerns (packet : Packet) (inFlight : InFlight) : Prop where
  /-- An echo of what was sent, whatever the modem says to it. -/
  | echo (stage : inFlight.stage = .awaitEcho) (repeats : packet.Repeats inFlight.request)
  /-- The device's answer to a message that the modem has echoed. -/
  | reply {message ack : Message} (stage : inFlight.stage = .awaitReply)
      (isMessage : inFlight.request = .message message) (carries : packet.answer? = some ack)
      (source : ack.source = message.destination)
      (command : ack.command.cmd1 = message.command.cmd1
        ∨ message.command.sameKind .statusRequest)

theorem Request.accepts_message_iff {message answer : Message} :
    (Request.message message).accepts answer = true ↔ answer.source = message.destination ∧
      (message.command.sameKind .statusRequest = true
        ∨ answer.command.cmd1 = message.command.cmd1) := by
  simp only [accepts, Bool.and_eq_true, Bool.or_eq_true, decide_eq_true_eq]

namespace InFlight

variable {inFlight : InFlight} {packet : Packet} {ack : Message}

theorem isEchoedBy_iff : inFlight.isEchoedBy packet = true ↔ inFlight.stage = .awaitEcho ∧
    inFlight.request.toPacket.opcode = packet.opcode ∧
    inFlight.request.toPacket.payload <+: packet.payload := by
  simp [isEchoedBy, and_assoc]

theorem AcceptedBy.accepts (accepted : inFlight.AcceptedBy packet) :
    packet.Accepts inFlight.request := by
  rcases isEchoedBy_iff.mp accepted.echoed with ⟨_, opcode, payload⟩
  refine ⟨⟨accepted.isHost, opcode.symm, payload⟩, ?_⟩
  have notRefused := accepted.accepted
  simpa [Packet.isNak] using notRefused

/-- The device's answer that a request accepts comes from where its message went. -/
theorem exists_message_of_isAnsweredBy (answered : inFlight.isAnsweredBy ack = true) :
    inFlight.stage = .awaitReply ∧ ∃ message, inFlight.request = .message message ∧
      ack.source = message.destination ∧
      (ack.command.cmd1 = message.command.cmd1 ∨ message.command.sameKind .statusRequest) := by
  simp only [isAnsweredBy, Bool.and_eq_true, decide_eq_true_eq] at answered
  rcases answered with ⟨stage, accepts⟩
  refine ⟨stage, ?_⟩
  cases asked : inFlight.request with
  | packet command => simp [asked, Request.accepts] at accepts
  | message message =>
      rw [asked, Request.accepts_message_iff] at accepts
      exact ⟨message, rfl, accepts.1, accepts.2.symm⟩

theorem awaits_iff_concerns : inFlight.Awaits packet ↔ packet.Concerns inFlight := by
  constructor
  · rintro (⟨isHost, echoed⟩ | ⟨ack, carries, answered⟩)
    · rcases isEchoedBy_iff.mp echoed with ⟨stage, opcode, payload⟩
      exact .echo stage ⟨isHost, opcode.symm, payload⟩
    · rcases exists_message_of_isAnsweredBy answered with
        ⟨stage, message, isMessage, source, command⟩
      exact .reply stage isMessage carries source command
  · intro concerns
    cases concerns with
    | echo stage repeats =>
        have echoed := isEchoedBy_iff.mpr ⟨stage, repeats.opcode.symm, repeats.payload⟩
        exact .inl ⟨repeats.isHost, echoed⟩
    | @reply message ack stage isMessage carries source command =>
        refine .inr ⟨ack, carries, ?_⟩
        rw [isAnsweredBy, isMessage, Request.accepts_message_iff.mpr ⟨source, command.symm⟩, stage]
        rfl

end InFlight

namespace Modem

/-- The conversation behind a success, in the order of the run. -/
inductive Conversed (modem : Modem) (moments : List Moment) (ticket : Ticket) :
    Request → Answer → Prop where
  /-- The line took a packet; later its echo came. -/
  | echo {command packet : Packet} {past between : List Moment} {sending echoing : Moment}
      (sent : .transmit ticket command none ∈ modem.effectsAt past sending)
      (earlier : past ++ [sending] <+: between) (reached : between ++ [echoing] <+: moments)
      (arrives : echoing.event = .arrive packet) (accepted : packet.Accepts (.packet command)) :
      Conversed modem moments ticket (.packet command) (.echo packet)
  /-- The line took a message; later its echo came, and later still the device's answer. -/
  | reply {message ack : Message} {packet carrier : Packet} {past between later : List Moment}
      {sending echoing answering : Moment}
      (sent : .transmit ticket (Packet.send message) none ∈ modem.effectsAt past sending)
      (earlier : past ++ [sending] <+: between) (echoed : between ++ [echoing] <+: later)
      (echoes : echoing.event = .arrive packet) (accepted : packet.Accepts (.message message))
      (reached : later ++ [answering] <+: moments)
      (arrives : answering.event = .arrive carrier) (carries : carrier.answer? = some ack)
      (source : ack.source = message.destination)
      (command : ack.command.cmd1 = message.command.cmd1
        ∨ message.command.sameKind .statusRequest) :
      Conversed modem moments ticket (.message message) (.reply ack)

/-- The clock does not run past a deadline before the dispatcher has dealt with it. -/
def Timely (modem : Modem) (moments : List Moment) : Prop :=
  ∀ past moment, past ++ [moment] <+: moments → ∀ inFlight,
    (modem.run past).1.inFlight = some inFlight → moment.now ≤ inFlight.deadline

variable {ackTimeout : Duration} {filter : Option RelayFilter} {moments : List Moment}
  {ticket : Ticket} {answer : Answer} {inFlight : InFlight}

/-- Behind every success of a run there is a conversation. -/
theorem conversed_of_mem_answers
    (given : (ticket, .ok answer) ∈ answers (run { ackTimeout, filter } moments).2) :
    ∃ request, (ticket, request) ∈ accepted { ackTimeout, filter } moments ∧
      Conversed { ackTimeout, filter } moments ticket request answer := by
  rcases exists_moment_of_mem_answers given with ⟨past, moment, reached, now⟩
  have before : past <+: moments := (List.prefix_append _ _).trans reached
  cases completion_of_mem_answers now with
  | @echo inFlight packet command talking own arrives isPacket accepted =>
      rcases InFlight.isEchoedBy_iff.mp accepted.echoed with ⟨awaitsEcho, _, _⟩
      have taken := mem_accepted_of_prefix (mem_accepted_of_inFlight talking) before
      have accepts := accepted.accepts
      cases underway_run talking with
      | sent earlier starts =>
          have transmitted := starts.transmitted
          rw [isPacket] at taken accepts transmitted
          rw [own] at taken transmitted
          exact ⟨_, taken, .echo transmitted earlier reached arrives accepts⟩
      | echoed => contradiction
  | @reply inFlight packet ack talking own arrives answers answered =>
      rcases InFlight.exists_message_of_isAnsweredBy answered with
        ⟨awaitsReply, message, isMessage, source, command⟩
      have taken := mem_accepted_of_prefix (mem_accepted_of_inFlight talking) before
      cases underway_run talking with
      | sent earlier starts =>
          rw [starts.stage] at awaitsReply
          contradiction
      | echoed earlier starts echoed _ _ echoes accepted =>
          have accepts := accepted.accepts
          have transmitted := starts.transmitted
          simp only at isMessage own taken
          rw [isMessage] at taken accepts transmitted
          rw [own] at taken transmitted
          exact ⟨_, taken, .reply transmitted earlier echoed echoes accepts reached arrives answers
            source command⟩

/-- The wait for the echo and the wait for the device follow each other, so both are over two
timeouts after the line took the request. -/
theorem deadline_le_of_timely (timely : Timely { ackTimeout, filter } moments)
    (talking : (run { ackTimeout, filter } moments).1.inFlight = some inFlight) :
    ∃ past sending, past ++ [sending] <+: moments ∧
      .transmit inFlight.ticket inFlight.request.toPacket none
        ∈ effectsAt { ackTimeout, filter } past sending ∧
      inFlight.deadline ≤ sending.now + 2 * ackTimeout := by
  cases underway_run talking with
  | @sent _ past sending reached starts =>
      have deadline := Instant.after?_eq_some starts.deadline
      refine ⟨past, sending, reached, starts.transmitted, ?_⟩
      rw [deadline, Nat.two_mul, ← Nat.add_assoc]
      exact Nat.le_add_right _ _
  | @echoed sent past between sending echoing _ _ deadline earlier starts reached talked _ _ _
      ends =>
      have before : between <+: moments := (List.prefix_append _ _).trans reached
      refine ⟨past, sending, earlier.trans before, starts.transmitted, ?_⟩
      calc
        deadline = echoing.now + ackTimeout := Instant.after?_eq_some ends
        _ ≤ sent.deadline + ackTimeout :=
          Nat.add_le_add_right (timely between echoing reached sent talked) ackTimeout
        _ = sending.now + 2 * ackTimeout := by
          rw [Instant.after?_eq_some starts.deadline, Nat.two_mul, Nat.add_assoc]

/-- Every run of a new modem keeps to the handshake. A success has its conversation behind it. An
echo that refuses what is in flight ends the conversation with the modem's refusal, and any packet
that does not concern the request in flight leaves all requests as they are and brings nobody a
result. And if the clock runs past no deadline, no request waits longer than two timeouts from its
transmission on. -/
theorem two_stage_handshake (ackTimeout : Duration) (filter : Option RelayFilter)
    (moments : List Moment) :
    let modem : Modem := { ackTimeout, filter }
    let state := (modem.run moments).1
    (∀ ticket answer, (ticket, .ok answer) ∈ answers (modem.run moments).2 →
      ∃ request, (ticket, request) ∈ modem.accepted moments ∧
        modem.Conversed moments ticket request answer) ∧
    (∀ line now packet,
      let next := step line now state (.arrive packet)
      (∀ inFlight, state.inFlight = some inFlight → inFlight.stage = .awaitEcho →
        packet.Refuses inFlight.request →
        ∃ later, next.2
          = .answer inFlight.ticket (.error (.modemNak packet.opcode.byte)) :: later) ∧
      ((∀ inFlight, state.inFlight = some inFlight → ¬ packet.Concerns inFlight) →
        next.2 = [] ∧ next.1.desk = state.desk)) ∧
    (modem.Timely moments → ∀ inFlight, state.inFlight = some inFlight →
      ∃ past sending, past ++ [sending] <+: moments ∧
        .transmit inFlight.ticket inFlight.request.toPacket none ∈ modem.effectsAt past sending ∧
        inFlight.deadline ≤ sending.now + 2 * ackTimeout) := by
  intro modem state
  have ledger : Ledger (modem.history moments) state.desk :=
    ledger_run_new ackTimeout filter moments
  have busy : state.KeepsTalking := keepsTalking_run (fun _ _ => rfl) moments
  refine ⟨?_, ?_, ?_⟩
  · intro ticket answer given
    exact conversed_of_mem_answers given
  · intro line now packet next
    refine ⟨?_, ?_⟩
    · intro inFlight talking awaitsEcho refuses
      have running : state.isRunning = true := by
        apply ledger.running_of_busy
        intro cleared
        have idle : state.inFlight = none := cleared.inFlight
        rw [talking] at idle
        contradiction
      have echoed : inFlight.isEchoedBy packet = true :=
        InFlight.isEchoedBy_iff.mpr ⟨awaitsEcho, refuses.opcode.symm, refuses.payload⟩
      have isNak : packet.isNak = true := by simp [Packet.isNak, refuses.ack]
      exact step_of_refused running talking refuses.isHost echoed isNak
    · intro unconcerned
      apply quiet_of_not_awaits busy
      intro inFlight talking awaits
      exact unconcerned inFlight talking (InFlight.awaits_iff_concerns.mp awaits)
  · intro timely inFlight talking
    exact deadline_le_of_timely timely talking

def hall : Address := ⟨0x1a, 0x2b, 0x3c⟩

/-- Turns a device on to a level. -/
def turnOn (device : Address) (level : UInt8) : Message :=
  .standard .zero device (.direct false maxHops) (.standard 0x11 level)

/-- The modem's echo of a message. -/
def echoOf (message : Message) : Packet :=
  { Packet.send message with ack := some ackByte }

/-- The echo comes when its wait is just over, and the device has all the time that is left. -/
theorem two_stage_handshake_latest :
    let moments : List Moment := [⟨0, .sound, .submit (.message (turnOn hall 0x40))⟩,
      ⟨0, .sound, .take⟩, ⟨5, .sound, .arrive (echoOf (turnOn hall 0x40))⟩]
    let inFlight : InFlight := ⟨0, .message (turnOn hall 0x40), .awaitReply, 10⟩
    Timely { ackTimeout := 5 } moments ∧
      (run { ackTimeout := 5 } moments).1.inFlight = some inFlight ∧
      ∃ past sending, past ++ [sending] <+: moments ∧
        .transmit inFlight.ticket inFlight.request.toPacket none
          ∈ effectsAt { ackTimeout := 5 } past sending ∧
        inFlight.deadline ≤ sending.now + 2 * 5 := by
  intro moments inFlight
  have timely : Timely { ackTimeout := 5 } moments := by
    refine forall_moments_cons ?submit <| forall_moments_cons ?take <|
      forall_moments_cons ?echo forall_moments_nil
    case echo =>
      rintro waiting ⟨⟩
      exact Nat.le_refl 5
    all_goals
      intro waiting talking
      contradiction
  exact ⟨timely, rfl, (two_stage_handshake 5 none moments).2.2 timely inFlight rfl⟩

end Modem

end Powerline
