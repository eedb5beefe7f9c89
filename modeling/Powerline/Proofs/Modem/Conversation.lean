import Powerline.Modem.Step

/-!
# Conversations

What the dispatcher does with requests does not depend on who subscribes to what. The *desk* is
the part of its state that does matter: the requests in the channel, in the queue and in flight.
A *move* is one thing that can happen on the desk, and a step of the dispatcher is a series of
moves (`step_moves`). What the moves keep, every run keeps.
-/

namespace Powerline

/-- The ways in which the conversation about a request comes to its own end, and what the caller
gets. -/
inductive InFlight.Ends (inFlight : InFlight) (now : Instant) : Except Error Answer → Prop where
  /-- The modem accepts a packet that was meant for itself. -/
  | echo {command packet : Packet} (isPacket : inFlight.request = .packet command)
      (echoed : inFlight.isEchoedBy packet) (accepted : packet.isNak = false) :
      inFlight.Ends now (.ok (.echo packet))
  /-- The modem refuses what was sent. -/
  | refusal {packet : Packet} (echoed : inFlight.isEchoedBy packet) (refused : packet.isNak) :
      inFlight.Ends now (.error (.modemNak packet.opcode.byte))
  /-- The device accepts or refuses the message. -/
  | reply {message : Message} (answered : inFlight.isAnsweredBy message) :
      inFlight.Ends now (.ok (.reply message))
  | timeout (late : inFlight.deadline ≤ now) : inFlight.Ends now (.error .ackTimeout)

/-- The request that a control brings, if it brings one. -/
def Control.request? : Control → Option (Ticket × Request)
  | .request ticket wanted => some (ticket, wanted)
  | _ => none

/-- What the dispatcher knows of requests. -/
structure Desk where
  ackTimeout : Duration
  /-- The requests in the channel, the oldest first. -/
  channel : List (Ticket × Request)
  /-- The requests taken from the channel but not transmitted yet, the oldest first. -/
  queue : List (Ticket × Request)
  inFlight : Option InFlight
  nextTicket : Ticket
  isRunning : Bool

/-- The part of the state that has to do with requests. -/
def Modem.desk (modem : Modem) : Desk where
  ackTimeout := modem.ackTimeout
  channel := modem.controls.filterMap Control.request?
  queue := modem.queue
  inFlight := modem.inFlight
  nextTicket := modem.nextTicket
  isRunning := modem.isRunning

namespace Desk

/-- The tickets of the requests that have no result yet, the oldest first. -/
def unanswered (desk : Desk) : List Ticket :=
  (desk.inFlight.map InFlight.ticket).toList ++ desk.queue.map Prod.fst
    ++ desk.channel.map Prod.fst

/-- Everything without a result is answered as closed. -/
def closings (desk : Desk) : List Modem.Effect :=
  desk.unanswered.map fun ticket => .answer ticket (.error .closed)

/-- The desk of a dispatcher that works no longer. -/
def halted (desk : Desk) : Desk :=
  { desk with channel := [], queue := [], inFlight := none, isRunning := false }

/-- The dispatcher has stopped, and nothing is left on the desk. -/
structure IsCleared (desk : Desk) : Prop where
  stopped : desk.isRunning = false
  channel : desk.channel = []
  queue : desk.queue = []
  inFlight : desk.inFlight = none

/-- What happened on the desk in some time. -/
structure History where
  /-- The requests that callers submitted. -/
  submitted : List Request := []
  /-- The requests that were taken from the channel. -/
  taken : List (Ticket × Request) := []
  effects : List Modem.Effect := []

namespace History

/-- One history after the other. -/
def append (first second : History) : History where
  submitted := first.submitted ++ second.submitted
  taken := first.taken ++ second.taken
  effects := first.effects ++ second.effects

instance : Append History := ⟨append⟩

theorem append_def (first second : History) : first ++ second
    = ⟨first.submitted ++ second.submitted, first.taken ++ second.taken,
        first.effects ++ second.effects⟩ := rfl

theorem append_empty (history : History) : history ++ {} = history := by
  simp [append_def]

theorem append_assoc (first second third : History) :
    first ++ second ++ third = first ++ (second ++ third) := by
  simp [append_def]

end History

/-- One thing that can happen on the desk. -/
inductive Move (now : Instant) : Desk → History → Desk → Prop where
  /-- A request enters the channel. -/
  | submit {desk : Desk} (request : Request) (running : desk.isRunning = true) :
      Move now desk { submitted := [request] }
        { desk with
          channel := desk.channel ++ [(desk.nextTicket, request)]
          nextTicket := desk.nextTicket + 1 }
  /-- A request comes too late. -/
  | turnAway {desk : Desk} (request : Request) (stopped : desk.isRunning = false) :
      Move now desk
        { submitted := [request], effects := [.answer desk.nextTicket (.error .closed)] }
        { desk with nextTicket := desk.nextTicket + 1 }
  /-- The oldest request in the channel goes to the end of the queue. -/
  | take {desk : Desk} {ticket : Ticket} {request : Request} {rest : List (Ticket × Request)}
      (oldest : desk.channel = (ticket, request) :: rest) :
      Move now desk { taken := [(ticket, request)] }
        { desk with channel := rest, queue := desk.queue ++ [(ticket, request)] }
  /-- The line takes the next request. -/
  | transmit {desk : Desk} {ticket : Ticket} {request : Request}
      {rest : List (Ticket × Request)} {deadline : Instant}
      (idle : desk.inFlight = none) (next : desk.queue = (ticket, request) :: rest)
      (ends : Instant.after? now desk.ackTimeout = some deadline) :
      Move now desk { effects := [.transmit ticket request.toPacket none] }
        { desk with
          queue := rest, inFlight := some ⟨ticket, request, .awaitEcho, deadline⟩ }
  /-- The line fails to take the next request. -/
  | fail {desk : Desk} {ticket : Ticket} {request : Request} {rest : List (Ticket × Request)}
      (failure : LineFailure) (idle : desk.inFlight = none)
      (next : desk.queue = (ticket, request) :: rest) :
      Move now desk
        { effects :=
            [.transmit ticket request.toPacket (some failure),
              .answer ticket (.error (.line failure))] }
        { desk with queue := rest }
  /-- The line takes the next request, but the wait for its echo has no end. -/
  | overrun {desk : Desk} {ticket : Ticket} {request : Request} {rest : List (Ticket × Request)}
      (idle : desk.inFlight = none) (next : desk.queue = (ticket, request) :: rest)
      (endless : Instant.after? now desk.ackTimeout = none) :
      Move now desk { effects := .transmit ticket request.toPacket none :: desk.closings }
        desk.halted
  /-- The modem accepts a message, and the wait for the device begins. -/
  | await {desk : Desk} {inFlight : InFlight} {message : Message} {packet : Packet}
      {deadline : Instant} (talking : desk.inFlight = some inFlight)
      (isMessage : inFlight.request = .message message)
      (echoed : inFlight.isEchoedBy packet) (accepted : packet.isNak = false)
      (ends : Instant.after? now desk.ackTimeout = some deadline) :
      Move now desk {}
        { desk with inFlight := some { inFlight with stage := .awaitReply, deadline } }
  /-- The conversation comes to its end. -/
  | settle {desk : Desk} {inFlight : InFlight} {result : Except Error Answer}
      (talking : desk.inFlight = some inFlight) (ends : inFlight.Ends now result) :
      Move now desk { effects := [.answer inFlight.ticket result] }
        { desk with inFlight := none }
  /-- The dispatcher ceases to work. -/
  | halt (desk : Desk) : Move now desk { effects := desk.closings } desk.halted
  | shut (desk : Desk) : Move now desk { effects := [.shut] } desk
  | receive (desk : Desk) (id : SubscriptionId) (message : Message) :
      Move now desk { effects := [.receive id message] } desk

/-- A series of moves. -/
inductive Moves (now : Instant) : Desk → History → Desk → Prop where
  | rest (desk : Desk) : Moves now desk {} desk
  | step {desk middle final : Desk} {history later : History}
      (move : Move now desk history middle) (moves : Moves now middle later final) :
      Moves now desk (history ++ later) final

namespace Moves

variable {now : Instant} {desk middle final : Desk} {history later : History}

theorem single (move : Move now desk history final) : Moves now desk history final := by
  have moves := Moves.step move (.rest final)
  rwa [History.append_empty] at moves

theorem trans (first : Moves now desk history middle) (second : Moves now middle later final) :
    Moves now desk (history ++ later) final := by
  induction first with
  | rest => exact second
  | step move _ ih =>
      rw [History.append_assoc]
      exact Moves.step move (ih second)

end Moves

end Desk

namespace Modem

open Desk

variable {now : Instant} {line : Line} {modem : Modem}

@[simp]
theorem desk_unanswered (modem : Modem) : modem.desk.unanswered = modem.unanswered := by
  simp only [Desk.unanswered, Modem.unanswered, desk, List.map_filterMap]
  congr 2
  funext control
  cases control <;> rfl

theorem halt_moves (modem : Modem) :
    Moves now modem.desk { effects := modem.halt.2 } modem.halt.1.desk := by
  have effects : modem.halt.2 = modem.desk.closings := by
    simp only [halt, closings, desk_unanswered]
  rw [effects]
  exact Moves.single (.halt modem.desk)

theorem stop_moves (modem : Modem) :
    Moves now modem.desk { effects := modem.stop.2 } modem.stop.1.desk :=
  (halt_moves modem).trans (Moves.single (.shut modem.halt.1.desk))

/-- The requests are handed to the line one after another until it takes one. -/
theorem transmitFirst_moves (idle : modem.inFlight = none) (requests : List (Ticket × Request)) :
    Moves now { modem.desk with queue := requests }
      { effects := (transmitFirst line now modem requests).2 }
      (transmitFirst line now modem requests).1.desk := by
  induction requests generalizing line with
  | nil => exact Moves.rest _
  | cons first rest ih =>
      rcases first with ⟨ticket, request⟩
      cases written : line 0 with
      | none =>
          cases ends : Instant.after? now modem.ackTimeout with
          | some deadline =>
              simp only [transmitFirst, written, ends]
              exact Moves.single (.transmit idle rfl ends)
          | none =>
              have closings : (halt { modem with queue := (ticket, request) :: rest }).2
                  = closings { modem.desk with queue := (ticket, request) :: rest } := by
                simp only [halt, Desk.closings, ← desk_unanswered]
                rfl
              simp only [transmitFirst, written, ends, closings]
              exact Moves.single (.overrun idle rfl ends)
      | some failure =>
          have fails : Move now { modem.desk with queue := (ticket, request) :: rest } _ _ :=
            .fail failure idle rfl
          simp only [transmitFirst, written]
          exact Moves.step fails ih

theorem startNext_moves (line : Line) (now : Instant) (modem : Modem) :
    Moves now modem.desk { effects := (startNext line now modem).2 }
      (startNext line now modem).1.desk := by
  cases talking : modem.inFlight with
  | some inFlight =>
      simp only [startNext, talking]
      exact Moves.rest _
  | none =>
      simp only [startNext, talking]
      exact transmitFirst_moves talking modem.queue

theorem proceed_moves {desk : Desk} {taken : List (Ticket × Request)}
    {handled : Modem × List Effect}
    (moves : Moves now desk { taken, effects := handled.2 } handled.1.desk) :
    Moves now desk { taken, effects := (proceed line now handled).2 }
      (proceed line now handled).1.desk := by
  have all := moves.trans (startNext_moves line now handled.1)
  rw [History.append_def, List.append_nil, List.append_nil] at all
  exact all

theorem handleEcho_moves (modem : Modem) (packet : Packet) :
    Moves now modem.desk { effects := (modem.handleEcho now packet).2 }
      (modem.handleEcho now packet).1.desk := by
  cases talking : modem.inFlight with
  | none =>
      simp only [handleEcho, talking]
      exact Moves.rest _
  | some inFlight =>
      rcases inFlight with ⟨ticket, request, stage, waitsUntil⟩
      cases echoed : InFlight.isEchoedBy ⟨ticket, request, stage, waitsUntil⟩ packet with
      | false =>
          simp only [handleEcho, talking, echoed]
          exact Moves.rest _
      | true =>
          cases refused : packet.isNak with
          | true =>
              simp only [handleEcho, talking, echoed, refused]
              exact Moves.single (.settle talking (.refusal echoed refused))
          | false =>
              cases request with
              | packet command =>
                  simp only [handleEcho, talking, echoed, refused]
                  exact Moves.single (.settle talking (.echo rfl echoed refused))
              | message message =>
                  cases ends : Instant.after? now modem.ackTimeout with
                  | some deadline =>
                      simp only [handleEcho, talking, echoed, refused, ends]
                      exact Moves.single (.await talking rfl echoed refused ends)
                  | none =>
                      simp only [handleEcho, talking, echoed, refused, ends]
                      exact halt_moves modem

theorem handleAnswer_moves (modem : Modem) (message : Message) :
    Moves now modem.desk { effects := (modem.handleAnswer message).2 }
      (modem.handleAnswer message).1.desk := by
  cases talking : modem.inFlight with
  | none =>
      simp only [handleAnswer, talking]
      exact Moves.rest _
  | some inFlight =>
      cases answered : inFlight.isAnsweredBy message with
      | false =>
          simp only [handleAnswer, talking, answered]
          exact Moves.rest _
      | true =>
          simp only [handleAnswer, talking, answered]
          exact Moves.single (.settle talking (.reply answered))

@[simp]
theorem desk_dispatch (now : Instant) (modem : Modem) (message : Message) :
    (modem.dispatch now message).desk = modem.desk := by
  unfold dispatch
  split
  · rfl
  · split <;> rfl

theorem handlePacket_moves (modem : Modem) (packet : Packet) :
    Moves now modem.desk { effects := (modem.handlePacket now packet).2 }
      (modem.handlePacket now packet).1.desk := by
  unfold handlePacket
  split
  · exact handleEcho_moves modem packet
  · split
    · exact Moves.rest _
    · split
      · exact Moves.rest _
      · split
        · exact handleAnswer_moves modem _
        · rw [desk_dispatch]
          exact Moves.rest _

theorem expire_moves (modem : Modem) :
    Moves now modem.desk { effects := (modem.expire now).2 } (modem.expire now).1.desk := by
  cases talking : modem.inFlight with
  | none =>
      simp only [expire, talking]
      exact Moves.rest _
  | some inFlight =>
      by_cases late : inFlight.deadline ≤ now
      · simp only [expire, talking, late, ↓reduceIte]
        exact Moves.single (.settle talking (.timeout late))
      · simp only [expire, talking, late, ↓reduceIte]
        exact Moves.rest _

theorem handleControl_moves {control : Control} {rest : List Control}
    (oldest : modem.controls = control :: rest) :
    Moves now modem.desk
      { taken := control.request?.toList
        effects := (handleControl line now { modem with controls := rest } control).2 }
      (handleControl line now { modem with controls := rest } control).1.desk := by
  -- A control without a request leaves the desk as it is when it is taken from the channel.
  have same (silent : control.request? = none) :
      desk { modem with controls := rest } = modem.desk := by
    simp only [desk, oldest, List.filterMap_cons, silent]
  cases control with
  | request ticket request =>
      have channel : modem.desk.channel = (ticket, request) :: rest.filterMap Control.request? := by
        simp only [desk, oldest, List.filterMap_cons, Control.request?]
      exact proceed_moves (Moves.single (.take channel))
  | subscribe id pattern =>
      rw [← same rfl]
      exact proceed_moves (Moves.rest _)
  | unsubscribe id =>
      rw [← same rfl]
      exact proceed_moves (Moves.rest _)
  | close =>
      rw [← same rfl]
      exact stop_moves _

theorem submit_moves (modem : Modem) (request : Request) :
    Moves now modem.desk { submitted := [request], effects := (modem.submit request).2 }
      (modem.submit request).1.desk := by
  by_cases running : modem.isRunning = true
  · have submitted : modem.submit request
        = (leave { modem with nextTicket := modem.nextTicket + 1 }
            (.request modem.nextTicket request), []) := if_pos running
    have channel : (leave { modem with nextTicket := modem.nextTicket + 1 }
          (.request modem.nextTicket request)).desk
        = { modem.desk with
            channel := modem.desk.channel ++ [(modem.desk.nextTicket, request)]
            nextTicket := modem.desk.nextTicket + 1 } := by
      simp [leave, desk, Control.request?]
    rw [submitted, channel]
    exact Moves.single (.submit request running)
  · have refused : modem.submit request
        = ({ modem with nextTicket := modem.nextTicket + 1 },
            [.answer modem.nextTicket (.error .closed)]) := if_neg running
    have stopped : modem.isRunning = false := by simpa using running
    rw [refused]
    exact Moves.single (.turnAway request stopped)

@[simp]
theorem desk_subscribe (modem : Modem) (id : SubscriptionId) (pattern : Pattern)
    (capacity : Nat) : (modem.subscribe id pattern capacity).desk = modem.desk := by
  simp only [subscribe]
  split <;> simp [leave, desk, Control.request?]

@[simp]
theorem desk_unsubscribe (modem : Modem) (id : SubscriptionId) :
    (modem.unsubscribe id).desk = modem.desk := by
  unfold unsubscribe
  split <;> simp [leave, updateMailbox, desk, Control.request?]

@[simp]
theorem desk_discard (modem : Modem) (id : SubscriptionId) :
    (modem.discard id).desk = modem.desk :=
  desk_unsubscribe modem id

theorem receive_moves (modem : Modem) (id : SubscriptionId) :
    Moves now modem.desk { effects := (modem.receive id).2 } (modem.receive id).1.desk := by
  unfold receive
  split
  · exact Moves.single (.receive modem.desk id _)
  · exact Moves.rest _

/-- The request that an event submits, if it submits one. -/
def Event.submitted : Event → List Request
  | .submit request => [request]
  | _ => []

/-- The request that an event takes from the channel, if it takes one. -/
def taken (modem : Modem) : Event → List (Ticket × Request)
  | .take => (modem.controls.head?.bind Control.request?).toList
  | _ => []

/-- Every step of the dispatcher is a series of moves. -/
theorem step_moves (line : Line) (now : Instant) (modem : Modem) (event : Event) :
    Moves now modem.desk
      ⟨event.submitted, modem.taken event, (step line now modem event).2⟩
      (step line now modem event).1.desk := by
  cases event with
  | submit request => exact submit_moves modem request
  | subscribe id pattern capacity =>
      simp only [step, desk_subscribe]
      exact Moves.rest _
  | unsubscribe id =>
      simp only [step, desk_unsubscribe]
      exact Moves.rest _
  | discard id =>
      simp only [step, desk_discard]
      exact Moves.rest _
  | receive id => exact receive_moves modem id
  | close =>
      have same : (if modem.isRunning then modem.leave .close else modem).desk = modem.desk := by
        split <;> simp [leave, desk, Control.request?]
      simp only [step, same]
      exact Moves.rest _
  | take =>
      cases waiting : modem.controls with
      | nil =>
          simp only [step, taken, waiting]
          exact Moves.rest _
      | cons control rest =>
          simp only [step, taken, waiting, List.head?_cons, Option.bind_some]
          exact handleControl_moves waiting
  | arrive packet =>
      simp only [step]
      split
      · exact proceed_moves (handlePacket_moves modem packet)
      · exact Moves.rest _
  | lineEnd =>
      simp only [step]
      split
      · exact stop_moves modem
      · exact Moves.rest _
  | tick =>
      simp only [step]
      split
      · exact proceed_moves (expire_moves modem)
      · exact Moves.rest _
  | abandon =>
      simp only [step]
      split
      · exact stop_moves modem
      · exact Moves.rest _

end Modem

end Powerline
