import Powerline.Proofs.Modem.Order

/-!
# What an event does to the request in flight

Of all that can happen, little touches the conversation with the modem. A request begins to be in
flight only when the line takes it; it goes on to wait for its device only when its echo accepts it
(`advance_of_inFlight`). A result that is a success comes from one packet, which arrives just then:
the echo of a packet, or the device's answer to a message (`completion_of_mem_answers`). A packet
that the request in flight does not wait for changes nothing on the desk (`quiet_of_not_awaits`).
-/

namespace Powerline

/-- The device's answer that a packet brings, if it brings one. -/
def Packet.answer? (packet : Packet) : Option Message :=
  if packet.opcode.isHost || !packet.opcode.carriesMessage then none
  else packet.message.toOption.filter Message.isAnswer

/-- The packet is what the request in flight waits for. -/
def InFlight.Awaits (inFlight : InFlight) (packet : Packet) : Prop :=
  packet.opcode.isHost ∧ inFlight.isEchoedBy packet
    ∨ ∃ ack, packet.answer? = some ack ∧ inFlight.isAnsweredBy ack

/-- The request has just been handed to the line, which took it. -/
structure InFlight.Starts (inFlight : InFlight) (now : Instant) (ackTimeout : Duration)
    (effects : List Modem.Effect) : Prop where
  transmitted : .transmit inFlight.ticket inFlight.request.toPacket none ∈ effects
  stage : inFlight.stage = .awaitEcho
  deadline : Instant.after? now ackTimeout = some inFlight.deadline

/-- The packet is an echo that accepts the message in flight. -/
structure InFlight.AcceptedBy (inFlight : InFlight) (packet : Packet) : Prop where
  isHost : packet.opcode.isHost = true
  echoed : inFlight.isEchoedBy packet = true
  accepted : packet.isNak = false

namespace Modem

open Desk

variable {line : Line} {now : Instant} {modem : Modem} {event : Event} {packet : Packet}
  {next : InFlight} {ticket : Ticket} {answer : Answer}

/-! ### Packets -/

theorem answer?_eq_some_iff {ack : Message} :
    packet.answer? = some ack ↔ packet.opcode.isHost = false ∧
      packet.opcode.carriesMessage = true ∧ packet.message = .ok ack ∧ ack.isAnswer = true := by
  unfold Packet.answer?
  cases host : packet.opcode.isHost with
  | true => simp
  | false =>
      cases carries : packet.opcode.carriesMessage with
      | false => simp
      | true =>
          cases read : packet.message with
          | error error => simp [Except.toOption]
          | ok message => simp [Except.toOption, Option.filter_eq_some_iff]

theorem handlePacket_of_isHost (host : packet.opcode.isHost = true) :
    modem.handlePacket now packet = modem.handleEcho now packet := by
  simp only [handlePacket, host, ↓reduceIte]

theorem handlePacket_of_answer? {ack : Message} (answers : packet.answer? = some ack) :
    modem.handlePacket now packet = modem.handleAnswer ack := by
  rcases answer?_eq_some_iff.mp answers with ⟨host, carries, read, isAnswer⟩
  simp [handlePacket, host, carries, read, isAnswer]

/-- A packet that is neither an echo nor a device's answer goes to the subscribers at most. -/
theorem handlePacket_of_other (host : packet.opcode.isHost = false)
    (silent : packet.answer? = none) :
    (modem.handlePacket now packet).2 = [] ∧
      (modem.handlePacket now packet).1.desk = modem.desk := by
  unfold handlePacket
  simp only [host, Bool.false_eq_true, ↓reduceIte]
  split
  · exact ⟨rfl, rfl⟩
  · next carries =>
      split
      · exact ⟨rfl, rfl⟩
      · next message read =>
          split
          · next isAnswer =>
              have answers : packet.answer? = some message := by
                rw [answer?_eq_some_iff]
                exact ⟨host, by simpa using carries, read, isAnswer⟩
              rw [silent] at answers
              contradiction
          · exact ⟨rfl, desk_dispatch now modem message⟩

/-! ### Packets that nobody waits for -/

theorem handleEcho_of_not_echoed
    (stray : ∀ inFlight, modem.inFlight = some inFlight → inFlight.isEchoedBy packet = false) :
    modem.handleEcho now packet = (modem, []) := by
  cases talking : modem.inFlight with
  | none => simp only [handleEcho, talking]
  | some inFlight => simp [handleEcho, talking, stray inFlight talking]

theorem handleAnswer_of_not_answered {ack : Message}
    (stray : ∀ inFlight, modem.inFlight = some inFlight → inFlight.isAnsweredBy ack = false) :
    modem.handleAnswer ack = (modem, []) := by
  cases talking : modem.inFlight with
  | none => simp only [handleAnswer, talking]
  | some inFlight => simp [handleAnswer, talking, stray inFlight talking]

theorem handlePacket_of_not_awaits (now : Instant)
    (stray : ∀ inFlight, modem.inFlight = some inFlight → ¬ inFlight.Awaits packet) :
    (modem.handlePacket now packet).2 = [] ∧
      (modem.handlePacket now packet).1.desk = modem.desk := by
  cases host : packet.opcode.isHost with
  | true =>
      have notEchoed : modem.handleEcho now packet = (modem, []) := by
        apply handleEcho_of_not_echoed
        intro inFlight talking
        have silent := stray inFlight talking
        simp only [InFlight.Awaits, host, true_and, not_or, Bool.not_eq_true] at silent
        exact silent.1
      rw [handlePacket_of_isHost host, notEchoed]
      exact ⟨rfl, rfl⟩
  | false =>
      cases answers : packet.answer? with
      | none => exact handlePacket_of_other host answers
      | some ack =>
          have notAnswered : modem.handleAnswer ack = (modem, []) := by
            apply handleAnswer_of_not_answered
            intro inFlight talking
            cases answered : inFlight.isAnsweredBy ack with
            | false => rfl
            | true => exact absurd (Or.inr ⟨ack, answers, answered⟩) (stray inFlight talking)
          rw [handlePacket_of_answer? answers, notAnswered]
          exact ⟨rfl, rfl⟩

/-- What a packet does when it arrives: to the request in flight, if that waits for it, else to the
subscribers at most. -/
inductive Handled (now : Instant) (modem : Modem) (packet : Packet) :
    Modem × List Effect → Prop where
  /-- Nobody waits for it. -/
  | stray {next : Modem} (same : next.desk = modem.desk) : Handled now modem packet (next, [])
  /-- An echo in which the modem refuses what was sent. -/
  | refused {inFlight : InFlight} (talking : modem.inFlight = some inFlight) :
      Handled now modem packet ({ modem with inFlight := none },
        [.answer inFlight.ticket (.error (.modemNak packet.opcode.byte))])
  /-- The echo of a packet for the modem. -/
  | echoed {inFlight : InFlight} {command : Packet} (talking : modem.inFlight = some inFlight)
      (isPacket : inFlight.request = .packet command) (accepted : inFlight.AcceptedBy packet) :
      Handled now modem packet
        ({ modem with inFlight := none }, [.answer inFlight.ticket (.ok (.echo packet))])
  /-- The echo of a message, which now waits for its device. -/
  | goesOn {inFlight : InFlight} {sent : Message} {deadline : Instant}
      (talking : modem.inFlight = some inFlight) (isMessage : inFlight.request = .message sent)
      (accepted : inFlight.AcceptedBy packet)
      (ends : Instant.after? now modem.ackTimeout = some deadline) :
      Handled now modem packet
        ({ modem with inFlight := some { inFlight with stage := .awaitReply, deadline } }, [])
  /-- The echo of a message whose further wait would have no end. -/
  | overrun : Handled now modem packet modem.halt
  /-- The device's answer. -/
  | replied {inFlight : InFlight} {ack : Message} (talking : modem.inFlight = some inFlight)
      (answers : packet.answer? = some ack) (answered : inFlight.isAnsweredBy ack = true) :
      Handled now modem packet
        ({ modem with inFlight := none }, [.answer inFlight.ticket (.ok (.reply ack))])

theorem handled (now : Instant) (modem : Modem) (packet : Packet) :
    modem.Handled now packet (modem.handlePacket now packet) := by
  by_cases awaited : ∃ inFlight, modem.inFlight = some inFlight ∧ inFlight.Awaits packet
  · rcases awaited with ⟨inFlight, talking, ⟨host, echoed⟩ | ⟨ack, answers, answered⟩⟩
    · rw [handlePacket_of_isHost host]
      simp only [handleEcho, talking, echoed, Bool.not_true, Bool.false_eq_true, ↓reduceIte]
      cases refused : packet.isNak with
      | true => exact .refused talking
      | false =>
          cases asked : inFlight.request with
          | packet command => exact .echoed talking asked ⟨host, echoed, refused⟩
          | message sent =>
              cases ends : Instant.after? now modem.ackTimeout with
              | none => exact .overrun
              | some deadline =>
                  have goesOn : Handled now modem packet _ :=
                    .goesOn talking asked ⟨host, echoed, refused⟩ ends
                  rw [asked] at goesOn
                  exact goesOn
    · rw [handlePacket_of_answer? answers]
      simp only [handleAnswer, talking, answered, ↓reduceIte]
      exact .replied talking answers answered
  · have stray : ∀ inFlight, modem.inFlight = some inFlight → ¬ inFlight.Awaits packet := by
      intro inFlight talking awaits
      exact awaited ⟨inFlight, talking, awaits⟩
    rcases handlePacket_of_not_awaits now stray with ⟨silent, same⟩
    have outcome : modem.handlePacket now packet = ((modem.handlePacket now packet).1, []) :=
      Prod.ext rfl silent
    rw [outcome]
    exact .stray same

/-- With nothing to transmit, the dispatcher goes on without a word. -/
theorem startNext_of_keepsTalking (line : Line) (now : Instant) (busy : modem.KeepsTalking)
    (running : modem.isRunning = true) :
    (startNext line now modem).2 = [] ∧ (startNext line now modem).1.desk = modem.desk := by
  cases talking : modem.inFlight with
  | some inFlight =>
      simp only [startNext, talking]
      exact ⟨trivial, trivial⟩
  | none =>
      have empty := busy running talking
      simp only [startNext, talking, empty, transmitFirst, desk]
      exact ⟨trivial, trivial⟩

/-- A packet that the request in flight does not wait for leaves all requests as they are. -/
theorem quiet_of_not_awaits (busy : modem.KeepsTalking)
    (stray : ∀ inFlight, modem.inFlight = some inFlight → ¬ inFlight.Awaits packet) :
    (step line now modem (.arrive packet)).2 = [] ∧
      (step line now modem (.arrive packet)).1.desk = modem.desk := by
  cases running : modem.isRunning with
  | false => simp [step, running]
  | true =>
      rcases handlePacket_of_not_awaits now stray with ⟨silent, same⟩
      have stillBusy := keepsTalking_of_desk_eq busy same
      have stillRunning : (modem.handlePacket now packet).1.isRunning = true := by
        rw [← running]
        exact congrArg Desk.isRunning same
      rcases startNext_of_keepsTalking line now stillBusy stillRunning with
        ⟨quiet, unchanged⟩
      simp only [step, running, ↓reduceIte, proceed, silent, quiet, unchanged, same]
      exact ⟨rfl, trivial⟩

/-- An echo that refuses what is in flight ends the conversation. -/
theorem step_of_refused {inFlight : InFlight} (running : modem.isRunning = true)
    (talking : modem.inFlight = some inFlight) (host : packet.opcode.isHost = true)
    (echoed : inFlight.isEchoedBy packet = true) (refused : packet.isNak = true) :
    ∃ later, (step line now modem (.arrive packet)).2
      = .answer inFlight.ticket (.error (.modemNak packet.opcode.byte)) :: later := by
  have handled : modem.handlePacket now packet
      = ({ modem with inFlight := none },
          [.answer inFlight.ticket (.error (.modemNak packet.opcode.byte))]) := by
    rw [handlePacket_of_isHost host]
    simp [handleEcho, talking, echoed, refused]
  refine ⟨(startNext line now { modem with inFlight := none }).2, ?_⟩
  simp only [step, running, ↓reduceIte, proceed, handled]
  rfl

/-! ### How a request comes to be in flight -/

/-- The ways in which a request can be in flight after an event. -/
inductive Advance (line : Line) (now : Instant) (modem : Modem) (event : Event) :
    InFlight → Prop where
  /-- It was in flight before. -/
  | stays {inFlight : InFlight} (talking : modem.inFlight = some inFlight) :
      Advance line now modem event inFlight
  /-- The line has just taken it. -/
  | starts {inFlight : InFlight}
      (starts : inFlight.Starts now modem.ackTimeout (step line now modem event).2) :
      Advance line now modem event inFlight
  /-- Its echo has just come, and now it waits for the device. -/
  | goesOn {inFlight : InFlight} {packet : Packet} {sent : Message} {deadline : Instant}
      (talking : modem.inFlight = some inFlight) (arrives : event = .arrive packet)
      (isMessage : inFlight.request = .message sent) (accepted : inFlight.AcceptedBy packet)
      (ends : Instant.after? now modem.ackTimeout = some deadline) :
      Advance line now modem event { inFlight with stage := .awaitReply, deadline }

theorem starts_of_inFlight_transmitFirst (requests : List (Ticket × Request))
    (idle : modem.inFlight = none)
    (talks : (transmitFirst line now modem requests).1.inFlight = some next) :
    next.Starts now modem.ackTimeout (transmitFirst line now modem requests).2 := by
  induction requests generalizing line with
  | nil =>
      simp only [transmitFirst, idle] at talks
      contradiction
  | cons first rest ih =>
      rcases first with ⟨ticket, request⟩
      cases written : line 0 with
      | some failure =>
          simp only [transmitFirst, written] at talks ⊢
          rcases ih talks with ⟨transmitted, stage, deadline⟩
          exact ⟨List.mem_cons_of_mem _ (List.mem_cons_of_mem _ transmitted), stage, deadline⟩
      | none =>
          cases ends : Instant.after? now modem.ackTimeout with
          | none =>
              simp only [transmitFirst, written, ends, halt] at talks
              contradiction
          | some deadline =>
              simp only [transmitFirst, written, ends, Option.some.injEq] at talks ⊢
              rw [← talks]
              exact ⟨List.mem_cons_self, rfl, ends⟩

theorem inFlight_proceed {handled : Modem × List Effect}
    (talks : (proceed line now handled).1.inFlight = some next) :
    handled.1.inFlight = some next
      ∨ next.Starts now handled.1.ackTimeout (proceed line now handled).2 := by
  cases talking : handled.1.inFlight with
  | some inFlight =>
      left
      simp only [proceed, startNext, talking] at talks
      exact talks
  | none =>
      right
      simp only [proceed, startNext, talking] at talks ⊢
      rcases starts_of_inFlight_transmitFirst _ talking talks with ⟨transmitted, stage, deadline⟩
      exact ⟨List.mem_append_right _ transmitted, stage, deadline⟩

theorem ackTimeout_of_moves {desk final : Desk} {history : History}
    (moves : Moves now desk history final) : final.ackTimeout = desk.ackTimeout := by
  induction moves with
  | rest => rfl
  | step move _ ih =>
      rw [ih]
      cases move <;> rfl

/-- After an event that the dispatcher handles and then goes on from, either what the handling left
is in flight or what the line has just taken. -/
theorem advance_of_proceed {handled : Modem × List Effect}
    (goes : step line now modem event = proceed line now handled)
    (timeout : handled.1.ackTimeout = modem.ackTimeout)
    (left : handled.1.inFlight = some next → Advance line now modem event next)
    (talks : (step line now modem event).1.inFlight = some next) :
    Advance line now modem event next := by
  rw [goes] at talks
  rcases inFlight_proceed talks with same | starts
  · exact left same
  · rw [timeout, ← goes] at starts
    exact .starts starts

theorem inFlight_expire (talks : (modem.expire now).1.inFlight = some next) :
    modem.inFlight = some next := by
  unfold expire at talks
  split at talks
  · exact talks
  · split at talks
    · contradiction
    · exact talks

/-- Whatever is in flight after an event was so before, has just been taken by the line, or has just
been accepted by the modem. -/
theorem advance_of_inFlight (talks : (step line now modem event).1.inFlight = some next) :
    Advance line now modem event next := by
  cases event with
  | submit request =>
      simp only [step, submit] at talks
      split at talks <;> exact .stays talks
  | subscribe id pattern capacity =>
      have same := congrArg Desk.inFlight (desk_subscribe modem id pattern capacity)
      exact .stays (same.symm.trans talks)
  | unsubscribe id =>
      have same := congrArg Desk.inFlight (desk_unsubscribe modem id)
      exact .stays (same.symm.trans talks)
  | discard id =>
      have same := congrArg Desk.inFlight (desk_discard modem id)
      exact .stays (same.symm.trans talks)
  | receive id =>
      simp only [step, receive] at talks
      split at talks <;> exact .stays talks
  | close =>
      simp only [step] at talks
      split at talks <;> exact .stays talks
  | take =>
      cases waiting : modem.controls with
      | nil =>
          simp only [step, waiting] at talks
          exact .stays talks
      | cons control rest =>
          have taken : step line now modem .take
              = handleControl line now { modem with controls := rest } control := by
            simp only [step, waiting]
          cases control with
          | close =>
              rw [taken] at talks
              contradiction
          | request | subscribe | unsubscribe =>
              exact advance_of_proceed taken rfl (fun same => .stays same) talks
  | arrive packet =>
      cases running : modem.isRunning with
      | false =>
          simp only [step, running, Bool.false_eq_true, ↓reduceIte] at talks
          exact .stays talks
      | true =>
          have goes : step line now modem (.arrive packet)
              = proceed line now (modem.handlePacket now packet) := by
            simp only [step, running, ↓reduceIte]
          refine advance_of_proceed goes ?_ ?_ talks
          · exact ackTimeout_of_moves (handlePacket_moves modem packet)
          · intro left
            have how := handled now modem packet
            generalize modem.handlePacket now packet = outcome at how left
            cases how with
            | stray same => exact .stays ((congrArg Desk.inFlight same).symm.trans left)
            | refused | echoed | overrun | replied => contradiction
            | goesOn talking isMessage accepted ends =>
                rcases Option.some.inj left with rfl
                exact .goesOn talking rfl isMessage accepted ends
  | lineEnd =>
      simp only [step] at talks
      split at talks
      · contradiction
      · exact .stays talks
  | tick =>
      cases running : modem.isRunning with
      | false =>
          simp only [step, running, Bool.false_eq_true, ↓reduceIte] at talks
          exact .stays talks
      | true =>
          have goes : step line now modem .tick = proceed line now (modem.expire now) := by
            simp only [step, running, ↓reduceIte]
          refine advance_of_proceed goes ?_ ?_ talks
          · exact ackTimeout_of_moves (expire_moves modem)
          · intro handled
            exact .stays (inFlight_expire handled)
  | abandon =>
      simp only [step] at talks
      split at talks
      · contradiction
      · exact .stays talks

/-! ### How a request comes to its success -/

/-- The ways in which an event brings the request in flight a success. -/
inductive Completion (modem : Modem) (event : Event) (ticket : Ticket) : Answer → Prop where
  /-- The modem accepts a packet that was meant for itself. -/
  | echo {inFlight : InFlight} {packet command : Packet} (talking : modem.inFlight = some inFlight)
      (own : inFlight.ticket = ticket) (arrives : event = .arrive packet)
      (isPacket : inFlight.request = .packet command) (accepted : inFlight.AcceptedBy packet) :
      Completion modem event ticket (.echo packet)
  /-- The device answers the message. -/
  | reply {inFlight : InFlight} {packet : Packet} {ack : Message}
      (talking : modem.inFlight = some inFlight) (own : inFlight.ticket = ticket)
      (arrives : event = .arrive packet) (answers : packet.answer? = some ack)
      (answered : inFlight.isAnsweredBy ack = true) : Completion modem event ticket (.reply ack)

/-- No success is among these results. -/
def Unsuccessful (effects : List Effect) : Prop :=
  ∀ ticket answer, (ticket, .ok answer) ∉ answers effects

theorem unsuccessful_of_answers_eq_nil {effects : List Effect} (silent : answers effects = []) :
    Unsuccessful effects := by
  intro ticket answer mem
  rw [silent] at mem
  contradiction

theorem unsuccessful_halt (modem : Modem) : Unsuccessful modem.halt.2 := by
  intro ticket answer mem
  simp [halt, answers, Effect.answer?] at mem

theorem unsuccessful_stop (modem : Modem) : Unsuccessful modem.stop.2 := by
  intro ticket answer mem
  simp [stop, halt, answers, Effect.answer?] at mem

theorem unsuccessful_transmitFirst (requests : List (Ticket × Request)) :
    Unsuccessful (transmitFirst line now modem requests).2 := by
  induction requests generalizing line with
  | nil => exact unsuccessful_of_answers_eq_nil rfl
  | cons first rest ih =>
      rcases first with ⟨other, request⟩
      intro ticket answer mem
      cases written : line 0 with
      | some failure =>
          simp only [transmitFirst, written, answers_transmit, answers_answer, List.mem_cons] at mem
          rcases mem with same | later
          · simp at same
          · exact ih ticket answer later
      | none =>
          cases ends : Instant.after? now modem.ackTimeout with
          | some deadline => simp [transmitFirst, written, ends] at mem
          | none =>
              simp only [transmitFirst, written, ends, answers_transmit] at mem
              exact unsuccessful_halt _ ticket answer mem

theorem mem_answers_of_proceed {handled : Modem × List Effect}
    (mem : (ticket, .ok answer) ∈ answers (proceed line now handled).2) :
    (ticket, .ok answer) ∈ answers handled.2 := by
  simp only [proceed, answers_append, List.mem_append] at mem
  rcases mem with early | late
  · exact early
  · unfold startNext at late
    split at late
    · contradiction
    · exact absurd late (unsuccessful_transmitFirst _ ticket answer)

theorem completion_of_mem_handlePacket
    (mem : (ticket, .ok answer) ∈ answers (modem.handlePacket now packet).2) :
    Completion modem (.arrive packet) ticket answer := by
  have how := handled now modem packet
  generalize modem.handlePacket now packet = outcome at how mem
  cases how with
  | stray | goesOn => contradiction
  | refused => simp at mem
  | overrun => exact absurd mem (unsuccessful_halt modem ticket answer)
  | echoed talking isPacket accepted =>
      simp only [answers_answer, answers_nil, List.mem_singleton, Prod.mk.injEq,
        Except.ok.injEq] at mem
      rcases mem with ⟨own, rfl⟩
      exact .echo talking own.symm rfl isPacket accepted
  | replied talking answers answered =>
      simp only [answers_answer, answers_nil, List.mem_singleton, Prod.mk.injEq,
        Except.ok.injEq] at mem
      rcases mem with ⟨own, rfl⟩
      exact .reply talking own.symm rfl answers answered

/-- A success comes from a packet that the request in flight waits for, just when it arrives. -/
theorem completion_of_mem_answers
    (mem : (ticket, .ok answer) ∈ answers (step line now modem event).2) :
    Completion modem event ticket answer := by
  cases event with
  | submit request =>
      simp only [step, submit] at mem
      split at mem
      · contradiction
      · simp at mem
  | subscribe | unsubscribe | discard | close => contradiction
  | receive id =>
      simp only [step, receive] at mem
      split at mem <;> contradiction
  | take =>
      cases waiting : modem.controls with
      | nil =>
          simp only [step, waiting] at mem
          contradiction
      | cons control rest =>
          simp only [step, waiting] at mem
          cases control with
          | close => exact absurd mem (unsuccessful_stop _ ticket answer)
          | request | subscribe | unsubscribe =>
              have early := mem_answers_of_proceed mem
              contradiction
  | arrive packet =>
      simp only [step] at mem
      split at mem
      · exact completion_of_mem_handlePacket (mem_answers_of_proceed mem)
      · contradiction
  | lineEnd =>
      simp only [step] at mem
      split at mem
      · exact absurd mem (unsuccessful_stop _ ticket answer)
      · contradiction
  | tick =>
      simp only [step] at mem
      split at mem
      · have early := mem_answers_of_proceed mem
        unfold expire at early
        split at early
        · contradiction
        · split at early <;> simp at early
      · contradiction
  | abandon =>
      simp only [step] at mem
      split at mem
      · exact absurd mem (unsuccessful_stop _ ticket answer)
      · contradiction

end Modem

end Powerline
