import Powerline.Proofs.Modem.Handshake

/-!
# Which request an answer belongs to

Every answer of a device belongs to one request, but nothing in it says to which. It may come after
that request has timed out, or several times. The dispatcher takes an answer for one to the message
in flight if it comes from the right device and repeats the first octet of the command, which an
answer to a status request need not do. So a late answer is dropped, unless the message in flight is
for the same device and just as its answer would be (`reply_belongs`); then the two cannot be told
apart, and the newer message gets the answer to the older one (`late_reply_mistaken`).
-/

namespace Powerline.Modem

/-- The request was taken from the channel and handed to the line. -/
structure HasSent (modem : Modem) (past : List Moment) (ticket : Ticket) (request : Request) : Prop
    where
  taken : (ticket, request) ∈ modem.accepted past
  transmitted : (ticket, request.toPacket) ∈ transmissions (modem.run past).2

/-- Each device's answer that arrives in a run answers one request that was transmitted earlier: it
comes from the device to which that went, and repeats the first octet of its command unless that
asks for status. For the answer that arrives after some past, `origin` says which request that
is. -/
def Attributed (modem : Modem) (moments : List Moment) (origin : List Moment → Ticket) : Prop :=
  ∀ past moment, past ++ [moment] <+: moments → ∀ packet ack,
    moment.event = .arrive packet → packet.answer? = some ack →
      ∃ request, modem.HasSent past (origin past) request ∧ request.accepts ack

/-- No message is settled by an answer to another one. -/
def RepliesBelong (modem : Modem) (moments : List Moment) (origin : List Moment → Ticket) : Prop :=
  ∀ past moment, past ++ [moment] <+: moments → ∀ ticket ack,
    (ticket, .ok (.reply ack)) ∈ answers (modem.effectsAt past moment) → origin past = ticket

/-- An answer to an earlier message passes for one to a newer message: the conversation about the
earlier one is over, both went to the same device, and the answer repeats the first octet of the
newer command unless that asks for status. -/
structure PassesFor (modem : Modem) (past : List Moment) (earlier newer : Ticket) (ack : Message) :
    Prop where
  concluded : Concluded (modem.run past).2 earlier
  sameDevice : ∃ old new : Message, modem.HasSent past earlier (.message old) ∧
    modem.HasSent past newer (.message new) ∧ old.destination = new.destination ∧
    (ack.command.cmd1 = new.command.cmd1 ∨ new.command.sameKind .statusRequest)

theorem exists_message_of_accepts {request : Request} {ack : Message}
    (accepts : request.accepts ack = true) :
    ∃ message, request = .message message ∧ ack.source = message.destination := by
  cases request with
  | packet command => contradiction
  | message message => exact ⟨message, rfl, (Request.accepts_message_iff.mp accepts).1⟩

section New

variable {ackTimeout : Duration} {filter : Option RelayFilter} {moments past : List Moment}
  {moment : Moment} {origin : List Moment → Ticket} {inFlight : InFlight} {packet : Packet}
  {ack : Message}

theorem hasSent_of_inFlight
    (talking : (run { ackTimeout, filter } past).1.inFlight = some inFlight) :
    HasSent { ackTimeout, filter } past inFlight.ticket inFlight.request := by
  refine ⟨mem_accepted_of_inFlight talking, ?_⟩
  cases underway_run talking with
  | sent reached starts => exact mem_transmissions_of_effectsAt starts.transmitted reached
  | echoed earlier starts reached =>
      have before := earlier.trans ((List.prefix_append _ _).trans reached)
      exact mem_transmissions_of_effectsAt starts.transmitted before

/-- A request that was transmitted is the one in flight, or its conversation is over. -/
theorem concluded_of_ne {ticket : Ticket} {request : Request}
    (sent : HasSent { ackTimeout, filter } past ticket request)
    (talking : (run { ackTimeout, filter } past).1.inFlight = some inFlight)
    (other : inFlight.ticket ≠ ticket) :
    Concluded (run { ackTimeout, filter } past).2 ticket := by
  have ledger := ledger_run_new ackTimeout filter past
  have effects : (history { ackTimeout, filter } past).effects
      = (run { ackTimeout, filter } past).2 := effects_history _ past
  have running : (run { ackTimeout, filter } past).1.isRunning = true := by
    apply ledger.running_of_busy
    intro cleared
    have idle : (run { ackTimeout, filter } past).1.inFlight = none := cleared.inFlight
    rw [talking] at idle
    contradiction
  have transmitted := List.mem_map_of_mem (f := Prod.fst) sent.transmitted
  rw [← effects] at transmitted ⊢
  rcases ledger.atMostOne running ticket transmitted with current | concluded
  · have same : (run { ackTimeout, filter } past).1.inFlight.map InFlight.ticket = some ticket :=
      current
    rw [talking, Option.map_some, Option.some.injEq] at same
    exact absurd same other
  · exact concluded

/-- An answer that the message in flight takes belongs to it, or passes for one to it. -/
theorem origin_of_isAnsweredBy (attributed : Attributed { ackTimeout, filter } moments origin)
    (reached : past ++ [moment] <+: moments) (arrives : moment.event = .arrive packet)
    (carries : packet.answer? = some ack)
    (talking : (run { ackTimeout, filter } past).1.inFlight = some inFlight)
    (answered : inFlight.isAnsweredBy ack = true) :
    origin past = inFlight.ticket
      ∨ PassesFor { ackTimeout, filter } past (origin past) inFlight.ticket ack := by
  by_cases own : inFlight.ticket = origin past
  · exact Or.inl own.symm
  · right
    rcases attributed past moment reached packet ack arrives carries with ⟨request, sent, accepts⟩
    rcases exists_message_of_accepts accepts with ⟨old, rfl, fromOld⟩
    rcases InFlight.exists_message_of_isAnsweredBy answered with
      ⟨_, new, isMessage, fromNew, command⟩
    have current := hasSent_of_inFlight talking
    rw [isMessage] at current
    have sameDevice : old.destination = new.destination := fromOld.symm.trans fromNew
    exact ⟨concluded_of_ne sent talking own, old, new, sent, current, sameDevice, command⟩

/-- In every run in which each device's answer belongs to a request that was transmitted earlier, a
message is settled only by an answer that belongs to it or passes for one to it. An answer that is
late or comes again, so that it does not belong to the message that waits for its device, and that
does not pass for one to it, is dropped. -/
theorem reply_belongs (ackTimeout : Duration) (filter : Option RelayFilter) (moments : List Moment)
    (origin : List Moment → Ticket)
    (attributed : Attributed { ackTimeout, filter } moments origin) :
    let modem : Modem := { ackTimeout, filter }
    ∀ past moment, past ++ [moment] <+: moments →
      let state := (modem.run past).1
      (∀ ticket ack, (ticket, .ok (.reply ack)) ∈ answers (modem.effectsAt past moment) →
        ∃ packet, moment.event = .arrive packet ∧ packet.answer? = some ack ∧
          (origin past = ticket ∨ modem.PassesFor past (origin past) ticket ack)) ∧
      (∀ packet ack, moment.event = .arrive packet → packet.answer? = some ack →
        (∀ inFlight, state.inFlight = some inFlight → inFlight.stage = .awaitReply →
          origin past ≠ inFlight.ticket ∧
            ¬ modem.PassesFor past (origin past) inFlight.ticket ack) →
        modem.effectsAt past moment = [] ∧
          (step moment.line moment.now state moment.event).1.desk = state.desk) := by
  intro modem past moment reached state
  refine ⟨?_, ?_⟩
  · intro ticket ack given
    cases completion_of_mem_answers given with
    | @reply inFlight packet _ talking own arrives carries answered =>
        refine ⟨packet, arrives, carries, ?_⟩
        rw [← own]
        exact origin_of_isAnsweredBy attributed reached arrives carries talking answered
  · intro packet ack arrives carries apart
    have busy : state.KeepsTalking := keepsTalking_run (fun _ _ => rfl) past
    have stray : ∀ inFlight, state.inFlight = some inFlight → ¬ inFlight.Awaits packet := by
      -- What is awaited as an echo is no answer; an answer that is awaited belongs or passes.
      intro inFlight talking awaits
      rcases awaits with ⟨host, _⟩ | ⟨other, carriesOther, answered⟩
      · rcases answer?_eq_some_iff.mp carries with ⟨notHost, _⟩
        rw [notHost] at host
        contradiction
      · rw [carries, Option.some.injEq] at carriesOther
        rw [← carriesOther] at answered
        rcases InFlight.exists_message_of_isAnsweredBy answered with ⟨waits, _⟩
        rcases apart inFlight talking waits with ⟨notOwn, notMistaken⟩
        rcases origin_of_isAnsweredBy attributed reached arrives carries talking answered with
          own | mistaken
        · exact notOwn own
        · exact notMistaken mistaken
    rw [effectsAt, arrives]
    exact quiet_of_not_awaits busy stray

end New

/-! ### An answer that comes too late -/

/-- A device's answer to a message, as it arrives. -/
def answerTo (message : Message) : Packet :=
  ⟨.standardReceived,
    (Message.standard message.destination .zero (.make .directAck false 0 0)
      message.command).toBytes, none⟩

/-- One message is given up for want of an answer. Another one is sent, and when it waits for its
device, the answer to the first one comes. -/
def lateReply (first second : Message) : List Moment :=
  [⟨0, .sound, .submit (.message first)⟩, ⟨0, .sound, .take⟩, ⟨0, .sound, .arrive (echoOf first)⟩,
    ⟨1, .sound, .tick⟩, ⟨1, .sound, .submit (.message second)⟩, ⟨1, .sound, .take⟩,
    ⟨1, .sound, .arrive (echoOf second)⟩, ⟨1, .sound, .arrive (answerTo first)⟩]

def attic : Address := ⟨0x4d, 0x5e, 0x6f⟩

/-- The answer to the first message of such a run belongs to that. -/
theorem attributed_lateReply {device : Address} (known : device = hall ∨ device = attic) :
    Attributed { ackTimeout := 1 } (lateReply (turnOn hall 0x40) (turnOn device 0x80))
      (fun _ => 0) := by
  have noAnswer (message : Message) : (echoOf message).answer? = none := rfl
  refine forall_moments_cons ?submit₁ <| forall_moments_cons ?take₁ <|
    forall_moments_cons ?echo₁ <| forall_moments_cons ?tick <| forall_moments_cons ?submit₂ <|
    forall_moments_cons ?take₂ <| forall_moments_cons ?echo₂ <| forall_moments_cons ?late
    forall_moments_nil
  case echo₁ | echo₂ =>
    rintro packet ack ⟨⟩ carries
    rw [noAnswer] at carries
    contradiction
  case late =>
    rintro packet ack ⟨⟩ carries
    have answer : (answerTo (turnOn hall 0x40)).answer? = some
        (.standard hall .zero (.make .directAck false 0 0) (.standard 0x11 0x40)) := rfl
    rw [answer, Option.some.injEq] at carries
    refine ⟨.message (turnOn hall 0x40), ?_, ?_⟩
    · rcases known with rfl | rfl
      · exact ⟨by decide, by decide⟩
      · exact ⟨by decide, by decide⟩
    · rw [← carries]
      rfl
  all_goals
    intro packet ack arrives
    contradiction

/-- A late answer from another device than that of the message in flight is dropped. -/
theorem reply_belongs_lateReply :
    let moments := lateReply (turnOn hall 0x40) (turnOn attic 0x80)
    Attributed { ackTimeout := 1 } moments (fun _ => 0) ∧
      effectsAt { ackTimeout := 1 } (moments.take 7)
          ⟨1, .sound, .arrive (answerTo (turnOn hall 0x40))⟩ = [] := by
  intro moments
  have attributed := attributed_lateReply (Or.inr rfl)
  refine ⟨attributed, ?_⟩
  have dropped := (reply_belongs 1 none moments (fun _ => 0) attributed (moments.take 7) _
    List.prefix_rfl).2 (answerTo (turnOn hall 0x40)) _ rfl rfl
  refine (dropped ?_).1
  intro inFlight talking waits
  have current : (run { ackTimeout := 1 } (moments.take 7)).1.inFlight
      = some ⟨1, .message (turnOn attic 0x80), .awaitReply, 2⟩ := rfl
  rw [current, Option.some.injEq] at talking
  rw [← talking]
  refine ⟨by decide, ?_⟩
  rintro ⟨_, old, new, sentOld, sentNew, sameDevice, _⟩
  have taken : accepted { ackTimeout := 1 } (moments.take 7)
      = [(0, .message (turnOn hall 0x40)), (1, .message (turnOn attic 0x80))] := rfl
  have first : old = turnOn hall 0x40 := by simpa [taken] using sentOld.taken
  have second : new = turnOn attic 0x80 := by simpa [taken] using sentNew.taken
  rw [first, second] at sameDevice
  contradiction

/-- A late answer settles a newer message to the same device, which is told what became of the older
one. -/
theorem late_reply_mistaken :
    let moments := lateReply (turnOn hall 0x40) (turnOn hall 0x80)
    Attributed { ackTimeout := 1 } moments (fun _ => 0) ∧
      ¬ RepliesBelong { ackTimeout := 1 } moments (fun _ => 0) := by
  intro moments
  refine ⟨attributed_lateReply (Or.inl rfl), ?_⟩
  intro belongs
  have taken := belongs (moments.take 7) _ List.prefix_rfl 1
    (.standard hall .zero (.make .directAck false 0 0) (.standard 0x11 0x40)) List.mem_cons_self
  contradiction

end Powerline.Modem
