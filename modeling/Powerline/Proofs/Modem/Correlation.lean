import Powerline.Proofs.Modem.Handshake

/-!
# From an answer back to its request

An answer does not name its request. The dispatcher compares an answer that arrives with the message
that waits for one; `Pattern.requestOf` starts from the answer and looks for the message. Both go by
the device and by the first octet of the command, but an answer to a status request has a counter in
place of that octet, which only the dispatcher knows. So the two agree unless the counter differs
from the octet (`requestOf_agrees_iff`); then the pattern misses the request that the answer settles
(`status_request_not_found`).
-/

namespace Powerline

/-- The device to which a status request went answers with a counter, and the counter is not the
first octet of the request's command. -/
structure Message.AnsweredByCounter (message answer : Message) : Prop where
  asksStatus : message.command.sameKind .statusRequest = true
  source : answer.source = message.destination
  counter : answer.command.cmd1 ≠ message.command.cmd1

variable {message answer : Message}

theorem Pattern.holds_requestOf_iff :
    (Pattern.requestOf answer).holds message = true ↔ message.isAnswer = false ∧
      answer.source = message.destination ∧ answer.command.cmd1 = message.command.cmd1 := by
  simp only [requestOf, holds, allHold, Bool.and_true, Bool.and_eq_true, Bool.not_eq_true',
    decide_eq_true_eq]
  rw [eq_comm (a := message.destination), eq_comm (a := message.command.cmd1)]

theorem Message.AnsweredByCounter.accepts (counted : message.AnsweredByCounter answer) :
    (Request.message message).accepts answer = true :=
  Request.accepts_message_iff.mpr ⟨counted.source, .inl counted.asksStatus⟩

theorem Message.AnsweredByCounter.not_holds (counted : message.AnsweredByCounter answer) :
    (Pattern.requestOf answer).holds message = false := by
  rw [Bool.eq_false_iff]
  intro holds
  exact counted.counter (Pattern.holds_requestOf_iff.mp holds).2.2

theorem accepts_iff_holds_or_counter (asks : message.isAnswer = false) :
    (Request.message message).accepts answer = true ↔
      (Pattern.requestOf answer).holds message = true ∨ message.AnsweredByCounter answer := by
  constructor
  · intro accepted
    rcases Request.accepts_message_iff.mp accepted with ⟨source, command⟩
    by_cases repeats : answer.command.cmd1 = message.command.cmd1
    · exact .inl (Pattern.holds_requestOf_iff.mpr ⟨asks, source, repeats⟩)
    · exact .inr ⟨command.resolve_right repeats, source, repeats⟩
  · rintro (holds | counted)
    · rcases Pattern.holds_requestOf_iff.mp holds with ⟨_, source, repeats⟩
      exact Request.accepts_message_iff.mpr ⟨source, .inr repeats⟩
    · exact counted.accepts

namespace Modem

section Reply

variable {line : Line} {now : Instant} {modem : Modem} {ticket : Ticket} {deadline : Instant}
  {packet : Packet}

/-- A message that waits for its device is settled by an answer exactly if it accepts that. -/
theorem mem_answers_arrive_iff (running : modem.isRunning = true)
    (talking : modem.inFlight = some ⟨ticket, .message message, .awaitReply, deadline⟩)
    (carries : packet.answer? = some answer) :
    (ticket, .ok (.reply answer)) ∈ answers (step line now modem (.arrive packet)).2 ↔
      (Request.message message).accepts answer = true := by
  constructor
  · intro given
    cases completion_of_mem_answers given with
    | reply other _ _ _ answered =>
        rw [talking, Option.some.injEq] at other
        rw [← other] at answered
        simpa [InFlight.isAnsweredBy] using answered
  · intro accepted
    have handled : modem.handlePacket now packet
        = ({ modem with inFlight := none }, [.answer ticket (.ok (.reply answer))]) := by
      rw [handlePacket_of_answer? carries]
      simp [handleAnswer, talking, InFlight.isAnsweredBy, accepted]
    simp only [step, running, ↓reduceIte, proceed, handled, answers_append, answers_answer,
      answers_nil, List.cons_append, List.mem_cons, true_or]

end Reply

/-- In every run of a new modem, the pattern made from an answer finds the message that the answer
settled, if that is no answer itself and did not get a counter. -/
theorem holds_requestOf_of_reply {ackTimeout : Duration} {filter : Option RelayFilter}
    {moments : List Moment} {ticket : Ticket}
    (given : (ticket, .ok (.reply answer)) ∈ answers (run { ackTimeout, filter } moments).2) :
    ∃ message, (ticket, .message message) ∈ accepted { ackTimeout, filter } moments ∧
      (message.isAnswer = false → ¬ message.AnsweredByCounter answer →
        (Pattern.requestOf answer).holds message = true) := by
  rcases conversed_of_mem_answers given with ⟨request, taken, conversed⟩
  cases conversed with
  | reply _ _ _ _ _ _ _ _ source command =>
      refine ⟨_, taken, ?_⟩
      intro asks plain
      have accepts := Request.accepts_message_iff.mpr ⟨source, command.symm⟩
      exact ((accepts_iff_holds_or_counter asks).mp accepts).resolve_right plain

/-- The pattern made from an answer holds for just those messages that accept the answer, unless the
answer brings a counter to a status request. When the answer arrives, it settles the message that
waits for its device if the pattern holds for that, and also if it brings such a counter. -/
theorem requestOf_agrees_iff (message answer : Message) (asks : message.isAnswer = false) :
    ((Pattern.requestOf answer).holds message = (Request.message message).accepts answer ↔
      ¬ message.AnsweredByCounter answer) ∧
    ∀ (line : Line) (now : Instant) (modem : Modem) (ticket : Ticket) (deadline : Instant)
      (packet : Packet), modem.isRunning = true →
      modem.inFlight = some ⟨ticket, .message message, .awaitReply, deadline⟩ →
      packet.answer? = some answer →
      ((ticket, .ok (.reply answer)) ∈ answers (step line now modem (.arrive packet)).2 ↔
        (Pattern.requestOf answer).holds message = true ∨ message.AnsweredByCounter answer) := by
  have splits : (Request.message message).accepts answer = true ↔
      (Pattern.requestOf answer).holds message = true ∨ message.AnsweredByCounter answer :=
    accepts_iff_holds_or_counter asks
  refine ⟨⟨?_, ?_⟩, ?_⟩
  · intro same counted
    rw [counted.accepts, counted.not_holds] at same
    contradiction
  · intro plain
    rw [Bool.eq_iff_iff, splits]
    exact ⟨.inl, fun either => either.resolve_right plain⟩
  · intro line now modem ticket deadline packet running talking carries
    rw [mem_answers_arrive_iff running talking carries]
    exact splits

def askStatus (device : Address) : Message :=
  .standard .zero device (.direct false maxHops) .statusRequest

/-- A device accepts a message and answers with these two octets. -/
def ackFrom (device : Address) (cmd1 cmd2 : UInt8) : Message :=
  .standard device .zero (.make .directAck false 0 0) (.standard cmd1 cmd2)

/-- A device that has been told to turn on confirms it, and both sides see that. -/
theorem requestOf_agrees_iff_turnOn :
    let confirmed := ackFrom hall 0x11 0x40
    let modem : Modem :=
      { ackTimeout := 5, inFlight := some ⟨0, .message (turnOn hall 0x40), .awaitReply, 10⟩ }
    let packet : Packet := ⟨.standardReceived, confirmed.toBytes, none⟩
    (turnOn hall 0x40).isAnswer = false ∧ ¬ (turnOn hall 0x40).AnsweredByCounter confirmed ∧
      (Pattern.requestOf confirmed).holds (turnOn hall 0x40)
        = (Request.message (turnOn hall 0x40)).accepts confirmed ∧
      (0, .ok (.reply confirmed)) ∈ answers (step .sound 6 modem (.arrive packet)).2 := by
  intro confirmed modem packet
  have asks : (turnOn hall 0x40).isAnswer = false := by decide
  have plain : ¬ (turnOn hall 0x40).AnsweredByCounter confirmed := by
    intro counted
    exact absurd counted.asksStatus (by decide)
  have carries : packet.answer? = some confirmed := by decide
  rcases requestOf_agrees_iff (turnOn hall 0x40) confirmed asks with ⟨agree, settles⟩
  refine ⟨asks, plain, agree.mpr plain, ?_⟩
  exact (settles .sound 6 modem 0 10 packet rfl rfl carries).mpr (.inl (by decide))

/-- The links of a device have changed, so its status comes with a counter. The answer settles the
request, but the pattern made from it does not find the request. -/
theorem status_request_not_found :
    let asked := askStatus hall
    let answer := ackFrom hall 0x05 0xff
    asked.isAnswer = false ∧ answer.isAnswer = true ∧
      (Request.message asked).accepts answer = true ∧
      (Pattern.requestOf answer).holds asked = false := by
  decide

end Modem

end Powerline
