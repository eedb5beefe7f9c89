import Powerline.Proofs.Modem.Conversation

/-!
# The ledger of a run

A ledger compares what happened on the desk so far with what is on it now. Results are given in
the order in which the requests were submitted, requests are transmitted in the order in which they
were taken from the channel, and nothing is transmitted before the conversations in front of it are
over. Every move keeps the ledger (`Ledger.move`), and so does every run (`ledger_run`).
-/

namespace Powerline.Modem

open Desk

/-- What an effect hands to the line, and for which request. -/
def Effect.transmission? : Effect → Option (Ticket × Packet)
  | .transmit ticket packet _ => some (ticket, packet)
  | _ => none

/-- The result that an effect gives, and to which request. -/
def Effect.answer? : Effect → Option (Ticket × Except Error Answer)
  | .answer ticket result => some (ticket, result)
  | _ => none

/-- The packets that were handed to the line, in order. -/
def transmissions (effects : List Effect) : List (Ticket × Packet) :=
  effects.filterMap Effect.transmission?

/-- The results that were given, in order. -/
def answers (effects : List Effect) : List (Ticket × Except Error Answer) :=
  effects.filterMap Effect.answer?

/-- The result ends a conversation with the modem: an echo or a refusal of the modem, an answer of
the device, the end of a wait or a failed write. -/
def concludes : Except Error Answer → Bool
  | .ok _ | .error (.modemNak _) | .error .ackTimeout | .error (.line _) => true
  | .error _ => false

/-- The conversation about a request is over. -/
def Concluded (effects : List Effect) (ticket : Ticket) : Prop :=
  ∃ result, (ticket, result) ∈ answers effects ∧ concludes result

/-- Nothing is transmitted before the conversations about all that was transmitted earlier are
over. -/
def InTurn (effects : List Effect) : Prop :=
  ∀ earlier ticket packet failure later,
    effects = earlier ++ .transmit ticket packet failure :: later →
      ∀ other ∈ (transmissions earlier).map Prod.fst, Concluded earlier other

/-- The requests with their tickets: each has its place in the order of submission. -/
def numbered (requests : List Request) : List (Ticket × Request) :=
  requests.zipIdx.map Prod.swap

@[simp]
theorem numbered_append_singleton (requests : List Request) (request : Request) :
    numbered (requests ++ [request]) = numbered requests ++ [(requests.length, request)] := by
  simp [numbered, List.zipIdx_append]

theorem map_fst_numbered (requests : List Request) :
    (numbered requests).map Prod.fst = List.range requests.length := by
  rw [numbered, List.map_map, List.range_eq_range']
  exact List.zipIdx_map_snd 0 requests

theorem nodup_numbered (requests : List Request) : ((numbered requests).map Prod.fst).Nodup := by
  rw [map_fst_numbered]
  exact List.nodup_range

/-- A request as it goes to the line. -/
def sent (submitted : Ticket × Request) : Ticket × Packet :=
  (submitted.1, submitted.2.toPacket)

section Effects

variable {effects more : List Effect} {ticket : Ticket}

@[simp]
theorem transmissions_nil : transmissions [] = [] := rfl

@[simp]
theorem transmissions_transmit (ticket : Ticket) (packet : Packet)
    (failure : Option LineFailure) (effects : List Effect) :
    transmissions (.transmit ticket packet failure :: effects)
      = (ticket, packet) :: transmissions effects := rfl

@[simp]
theorem transmissions_answer (ticket : Ticket) (result : Except Error Answer)
    (effects : List Effect) :
    transmissions (.answer ticket result :: effects) = transmissions effects := rfl

@[simp]
theorem transmissions_append (effects more : List Effect) :
    transmissions (effects ++ more) = transmissions effects ++ transmissions more :=
  List.filterMap_append

@[simp]
theorem answers_nil : answers [] = [] := rfl

@[simp]
theorem answers_transmit (ticket : Ticket) (packet : Packet) (failure : Option LineFailure)
    (effects : List Effect) :
    answers (.transmit ticket packet failure :: effects) = answers effects := rfl

@[simp]
theorem answers_answer (ticket : Ticket) (result : Except Error Answer)
    (effects : List Effect) :
    answers (.answer ticket result :: effects) = (ticket, result) :: answers effects := rfl

@[simp]
theorem answers_append (effects more : List Effect) :
    answers (effects ++ more) = answers effects ++ answers more :=
  List.filterMap_append

@[simp]
theorem transmissions_closings (desk : Desk) : transmissions desk.closings = [] := by
  simp [transmissions, closings, Effect.transmission?]

@[simp]
theorem answers_closings (desk : Desk) :
    answers desk.closings = desk.unanswered.map fun ticket => (ticket, .error .closed) := by
  simp [answers, closings, Effect.answer?, List.filterMap_map, Function.comp_def]

theorem Concluded.append (concluded : Concluded effects ticket) (more : List Effect) :
    Concluded (effects ++ more) ticket := by
  rcases concluded with ⟨result, given, ends⟩
  refine ⟨result, ?_, ends⟩
  rw [answers_append]
  exact List.mem_append_left _ given

theorem concluded_of_answer {result : Except Error Answer} (ends : concludes result) :
    Concluded (effects ++ [.answer ticket result]) ticket :=
  ⟨result, by simp, ends⟩

theorem inTurn_nil : InTurn [] := by
  intro earlier ticket packet failure later same
  simp at same

/-- Effects that transmit nothing do not change whose turn it is. -/
theorem InTurn.append_quiet (inTurn : InTurn effects) (quiet : transmissions more = []) :
    InTurn (effects ++ more) := by
  intro earlier ticket packet failure later same
  rcases List.append_eq_append_iff.mp same with ⟨gap, _, inMore⟩ | ⟨gap, before, after⟩
  · simp [inMore] at quiet
  · cases gap with
    | nil =>
        rw [List.nil_append] at after
        simp [← after] at quiet
    | cons first gap =>
        rcases List.cons.inj after with ⟨rfl, _⟩
        exact inTurn earlier ticket packet failure gap before

/-- Once all conversations are over, another packet may be transmitted. -/
theorem InTurn.append_transmit {packet : Packet} {failure : Option LineFailure}
    (inTurn : InTurn effects)
    (settled : ∀ other ∈ (transmissions effects).map Prod.fst, Concluded effects other) :
    InTurn (effects ++ [.transmit ticket packet failure]) := by
  intro earlier other sent fault later same
  rcases List.eq_nil_or_concat later with rfl | ⟨front, last, rfl⟩
  · rcases List.append_inj_left' same rfl with rfl
    exact settled
  · have before : effects = earlier ++ .transmit other sent fault :: front := by
      rw [List.concat_eq_append, ← List.cons_append, ← List.append_assoc] at same
      exact List.append_inj_left' same rfl
    exact inTurn earlier other sent fault front before

end Effects

/-- What happened up to now agrees with what is on the desk. -/
structure Ledger (past : History) (desk : Desk) : Prop where
  counted : desk.nextTicket = past.submitted.length
  /-- Results are given in the order of submission. -/
  answered : (answers past.effects).map Prod.fst ++ desk.unanswered
    = List.range past.submitted.length
  /-- Requests are taken in the order of submission; only a stop loses some. -/
  accepted : ∃ lost, past.taken ++ desk.channel ++ lost = numbered past.submitted
    ∧ (desk.isRunning → lost = [])
  /-- Requests are transmitted in the order in which they were taken; only a stop drops some. -/
  transmitted : ∃ handed dropped, past.taken = handed ++ desk.queue ++ dropped
    ∧ transmissions past.effects = handed.map sent ∧ (desk.isRunning → dropped = [])
  inTurn : InTurn past.effects
  /-- The only conversation that is not over is the one in flight. -/
  atMostOne : desk.isRunning → ∀ ticket ∈ (transmissions past.effects).map Prod.fst,
    desk.inFlight.map InFlight.ticket = some ticket ∨ Concluded past.effects ticket
  stopped : desk.isRunning = false → desk.IsCleared

namespace Ledger

variable {now : Instant} {past later : History} {submitted : List Request}
  {taken : List (Ticket × Request)} {effects : List Effect} {desk next : Desk}

/-- With no request in flight, all conversations are over. -/
theorem concluded_of_idle (ledger : Ledger past desk) (running : desk.isRunning = true)
    (idle : desk.inFlight = none) :
    ∀ ticket ∈ (transmissions past.effects).map Prod.fst, Concluded past.effects ticket := by
  intro ticket transmitted
  rcases ledger.atMostOne running ticket transmitted with talking | concluded
  · simp [idle] at talking
  · exact concluded

theorem running_of_busy (ledger : Ledger past desk) (busy : ¬ desk.IsCleared) :
    desk.isRunning = true := by
  cases running : desk.isRunning with
  | true => rfl
  | false => exact absurd (ledger.stopped running) busy

/-- No request is in the channel twice, or is taken from it and still there. -/
theorem nodup_accepted (ledger : Ledger past desk) :
    ((past.taken ++ desk.channel).map Prod.fst).Nodup := by
  rcases ledger.accepted with ⟨lost, same, _⟩
  have distinct := nodup_numbered past.submitted
  rw [← same, List.map_append] at distinct
  exact (List.nodup_append.mp distinct).1

/-- No request is taken from the channel twice. -/
theorem nodup_taken (ledger : Ledger past desk) : (past.taken.map Prod.fst).Nodup := by
  have distinct := ledger.nodup_accepted
  rw [List.map_append] at distinct
  exact (List.nodup_append.mp distinct).1

/-- A request that was transmitted was taken from the channel. -/
theorem mem_taken {ticket : Ticket} (ledger : Ledger past desk)
    (mem : ticket ∈ (transmissions past.effects).map Prod.fst) :
    ticket ∈ past.taken.map Prod.fst := by
  rcases ledger.transmitted with ⟨handed, dropped, taken, handedOver, _⟩
  have tickets : (transmissions past.effects).map Prod.fst = handed.map Prod.fst := by
    rw [handedOver, List.map_map]
    rfl
  rw [taken, List.append_assoc, List.map_append, ← tickets]
  exact List.mem_append_left _ mem

theorem empty (ackTimeout : Duration) : Ledger {} ⟨ackTimeout, [], [], none, 0, true⟩ where
  counted := rfl
  answered := rfl
  accepted := ⟨[], rfl, fun _ => rfl⟩
  transmitted := ⟨[], [], rfl, rfl, fun _ => rfl⟩
  inTurn := inTurn_nil
  atMostOne := by simp
  stopped := by simp

theorem submit (ledger : Ledger ⟨submitted, taken, effects⟩ desk) (request : Request)
    (running : desk.isRunning = true) :
    Ledger ⟨submitted ++ [request], taken, effects⟩
      { desk with
        channel := desk.channel ++ [(desk.nextTicket, request)]
        nextTicket := desk.nextTicket + 1 } where
  counted := by simp [ledger.counted]
  answered := by
    rw [List.length_append, List.length_singleton, List.range_succ, ← ledger.answered,
      ← ledger.counted]
    simp [Desk.unanswered]
  accepted := by
    rcases ledger.accepted with ⟨lost, same, kept⟩
    rcases kept running with rfl
    refine ⟨[], ?_, fun _ => rfl⟩
    rw [numbered_append_singleton, ← same, ← ledger.counted]
    simp
  transmitted := ledger.transmitted
  inTurn := ledger.inTurn
  atMostOne := ledger.atMostOne
  stopped := by simp [running]

theorem turnAway (ledger : Ledger ⟨submitted, taken, effects⟩ desk) (request : Request)
    (stopped : desk.isRunning = false) :
    Ledger ⟨submitted ++ [request], taken,
        effects ++ [.answer desk.nextTicket (.error .closed)]⟩
      { desk with nextTicket := desk.nextTicket + 1 } where
  counted := by simp [ledger.counted]
  answered := by
    rcases ledger.stopped stopped with ⟨_, channel, queue, inFlight⟩
    rw [List.length_append, List.length_singleton, List.range_succ, ← ledger.answered,
      ← ledger.counted]
    simp [Desk.unanswered, channel, queue, inFlight]
  accepted := by
    rcases ledger.accepted with ⟨lost, same, _⟩
    refine ⟨lost ++ [(desk.nextTicket, request)], ?_, by simp [stopped]⟩
    rw [numbered_append_singleton, ← same, ← ledger.counted]
    simp
  transmitted := by simpa using ledger.transmitted
  inTurn := ledger.inTurn.append_quiet (by simp)
  atMostOne := by simp [stopped]
  stopped := by
    rcases ledger.stopped stopped with ⟨_, channel, queue, inFlight⟩
    exact fun _ => ⟨stopped, channel, queue, inFlight⟩

theorem take (ledger : Ledger ⟨submitted, taken, effects⟩ desk) {ticket : Ticket}
    {request : Request} {rest : List (Ticket × Request)}
    (oldest : desk.channel = (ticket, request) :: rest) :
    Ledger ⟨submitted, taken ++ [(ticket, request)], effects⟩
      { desk with channel := rest, queue := desk.queue ++ [(ticket, request)] } := by
  have running : desk.isRunning = true := by
    apply ledger.running_of_busy
    intro cleared
    simp [cleared.channel] at oldest
  refine ⟨ledger.counted, ?_, ?_, ?_, ledger.inTurn, ledger.atMostOne, by simp [running]⟩
  · rw [← ledger.answered]
    simp [Desk.unanswered, oldest]
  · rcases ledger.accepted with ⟨lost, same, kept⟩
    exact ⟨lost, by simpa [oldest] using same, kept⟩
  · rcases ledger.transmitted with ⟨handed, dropped, same, handedOver, kept⟩
    rcases kept running with rfl
    have all : taken = handed ++ desk.queue := by simpa using same
    refine ⟨handed, [], ?_, handedOver, fun _ => rfl⟩
    simp only [all, List.append_nil, List.append_assoc]

/-- The first request in the queue is handed to the line, and its conversation begins. -/
theorem transmit (ledger : Ledger ⟨submitted, taken, effects⟩ desk) {ticket : Ticket}
    {request : Request} {rest : List (Ticket × Request)} (failure : Option LineFailure)
    (stage : Stage) (deadline : Instant) (idle : desk.inFlight = none)
    (first : desk.queue = (ticket, request) :: rest) :
    Ledger ⟨submitted, taken, effects ++ [.transmit ticket request.toPacket failure]⟩
      { desk with queue := rest, inFlight := some ⟨ticket, request, stage, deadline⟩ } := by
  have running : desk.isRunning = true := by
    apply ledger.running_of_busy
    intro cleared
    simp [cleared.queue] at first
  refine ⟨ledger.counted, ?_, ledger.accepted, ?_,
    ledger.inTurn.append_transmit (ledger.concluded_of_idle running idle), ?_, by simp [running]⟩
  · rw [← ledger.answered]
    simp [Desk.unanswered, idle, first]
  · rcases ledger.transmitted with ⟨handed, dropped, same, handedOver, kept⟩
    refine ⟨handed ++ [(ticket, request)], dropped, ?_, ?_, kept⟩
    · simpa [first] using same
    · rw [transmissions_append, handedOver, List.map_append]
      rfl
  · intro _ other transmitted
    rw [transmissions_append, List.map_append, List.mem_append] at transmitted
    rcases transmitted with earlier | now
    · exact Or.inr ((ledger.concluded_of_idle running idle other earlier).append _)
    · left
      simpa [eq_comm] using now

/-- The conversation in flight comes to its own end. -/
theorem conclude (ledger : Ledger ⟨submitted, taken, effects⟩ desk) {inFlight : InFlight}
    (result : Except Error Answer) (talking : desk.inFlight = some inFlight)
    (ends : concludes result) :
    Ledger ⟨submitted, taken, effects ++ [.answer inFlight.ticket result]⟩
      { desk with inFlight := none } := by
  have running : desk.isRunning = true := by
    apply ledger.running_of_busy
    intro cleared
    simp [cleared.inFlight] at talking
  refine ⟨ledger.counted, ?_, ledger.accepted, ?_, ledger.inTurn.append_quiet (by simp), ?_,
    by simp [running]⟩
  · rw [← ledger.answered]
    simp [Desk.unanswered, talking]
  · simpa using ledger.transmitted
  · intro _ ticket transmitted
    right
    rcases ledger.atMostOne running ticket (by simpa using transmitted) with current | concluded
    · rw [talking, Option.map_some, Option.some.injEq] at current
      rw [← current]
      exact concluded_of_answer ends
    · exact concluded.append _

theorem await (ledger : Ledger past desk) {inFlight : InFlight} (stage : Stage)
    (deadline : Instant) (talking : desk.inFlight = some inFlight) :
    Ledger past { desk with inFlight := some { inFlight with stage, deadline } } where
  counted := ledger.counted
  answered := by
    rw [← ledger.answered]
    simp [Desk.unanswered, talking]
  accepted := ledger.accepted
  transmitted := ledger.transmitted
  inTurn := ledger.inTurn
  atMostOne := by simpa [talking] using ledger.atMostOne
  stopped := by
    intro stopped
    simp [(ledger.stopped stopped).inFlight] at talking

theorem halt (ledger : Ledger ⟨submitted, taken, effects⟩ desk) :
    Ledger ⟨submitted, taken, effects ++ desk.closings⟩ desk.halted where
  counted := ledger.counted
  answered := by
    rw [← ledger.answered]
    simp [halted, Desk.unanswered, Function.comp_def]
  accepted := by
    rcases ledger.accepted with ⟨lost, same, _⟩
    exact ⟨desk.channel ++ lost, by simpa [halted] using same, by simp [halted]⟩
  transmitted := by
    rcases ledger.transmitted with ⟨handed, dropped, same, handedOver, _⟩
    exact ⟨handed, desk.queue ++ dropped, by simpa [halted] using same, by simpa using handedOver,
      by simp [halted]⟩
  inTurn := ledger.inTurn.append_quiet (by simp)
  atMostOne := by simp [halted]
  stopped := fun _ => ⟨rfl, rfl, rfl, rfl⟩

/-- Effects that neither transmit nor answer anything do not enter the ledger. -/
theorem append_quiet (ledger : Ledger ⟨submitted, taken, effects⟩ desk) (silence : List Effect)
    (untransmitted : transmissions silence = []) (unanswered : answers silence = []) :
    Ledger ⟨submitted, taken, effects ++ silence⟩ desk where
  counted := ledger.counted
  answered := by simpa [unanswered] using ledger.answered
  accepted := ledger.accepted
  transmitted := by simpa [untransmitted] using ledger.transmitted
  inTurn := ledger.inTurn.append_quiet untransmitted
  atMostOne := by
    intro running ticket transmitted
    rcases ledger.atMostOne running ticket (by simpa [untransmitted] using transmitted) with
      talking | concluded
    · exact Or.inl talking
    · exact Or.inr (concluded.append _)
  stopped := ledger.stopped

theorem concludes_of_ends {inFlight : InFlight} {result : Except Error Answer}
    (ends : inFlight.Ends now result) : concludes result := by
  cases ends <;> rfl

/-- Every move keeps the ledger. -/
theorem move (ledger : Ledger past desk) (move : Move now desk later next) :
    Ledger (past ++ later) next := by
  rcases past with ⟨submitted, taken, effects⟩
  cases move with
  | submit request running => simpa [History.append_def] using ledger.submit request running
  | turnAway request stopped => simpa [History.append_def] using ledger.turnAway request stopped
  | take oldest => simpa [History.append_def] using ledger.take oldest
  | @transmit _ _ _ deadline idle first ends =>
      simpa [History.append_def] using ledger.transmit none .awaitEcho deadline idle first
  | fail failure idle first =>
      -- A failed write is a conversation that ends at once.
      have transmitted := ledger.transmit (some failure) .awaitEcho 0 idle first
      have settled := transmitted.conclude (.error (.line failure)) rfl rfl
      simpa [History.append_def, ← idle] using settled
  | @overrun ticket request rest idle first endless =>
      have transmitted := ledger.transmit none .awaitEcho 0 idle first
      have same : closings { desk with
          queue := rest, inFlight := some ⟨ticket, request, .awaitEcho, 0⟩ } = desk.closings := by
        simp [closings, Desk.unanswered, idle, first]
      have halted := transmitted.halt
      rw [same] at halted
      simpa [History.append_def, Desk.halted] using halted
  | @await _ _ _ deadline talking isMessage echoed accepted ends =>
      rw [History.append_empty]
      exact ledger.await .awaitReply deadline talking
  | settle talking ends =>
      simpa [History.append_def] using ledger.conclude _ talking (concludes_of_ends ends)
  | halt => simpa [History.append_def] using ledger.halt
  | shut => simpa [History.append_def] using ledger.append_quiet [.shut] rfl rfl
  | receive id message =>
      simpa [History.append_def] using ledger.append_quiet [.receive id message] rfl rfl

theorem moves (ledger : Ledger past desk) (moves : Moves now desk later next) :
    Ledger (past ++ later) next := by
  induction moves generalizing past with
  | rest =>
      rw [History.append_empty]
      exact ledger
  | step move _ ih =>
      rw [← History.append_assoc]
      exact ih (ledger.move move)

end Ledger

/-- What happens on the desk during a run. -/
def history (modem : Modem) : List Moment → History
  | [] => {}
  | moment :: rest =>
      let stepped := step moment.line moment.now modem moment.event
      ⟨moment.event.submitted, modem.taken moment.event, stepped.2⟩ ++ stepped.1.history rest

/-- The requests that callers submit during a run, in order. -/
def submitted (moments : List Moment) : List Request :=
  moments.flatMap fun moment => moment.event.submitted

/-- The requests that the dispatcher takes from the channel during a run, in order. -/
def accepted (modem : Modem) (moments : List Moment) : List (Ticket × Request) :=
  (modem.history moments).taken

theorem effects_history (modem : Modem) (moments : List Moment) :
    (modem.history moments).effects = (modem.run moments).2 := by
  induction moments generalizing modem with
  | nil => rfl
  | cons moment rest ih =>
      simp only [history, run, History.append_def, ih]

theorem submitted_history (modem : Modem) (moments : List Moment) :
    (modem.history moments).submitted = submitted moments := by
  induction moments generalizing modem with
  | nil => rfl
  | cons moment rest ih =>
      simp only [history, submitted, History.append_def, ih, List.flatMap_cons]

/-- Every run keeps the ledger. -/
theorem ledger_run {modem : Modem} {past : History} (ledger : Ledger past modem.desk)
    (moments : List Moment) :
    Ledger (past ++ modem.history moments) (modem.run moments).1.desk := by
  induction moments generalizing modem past with
  | nil =>
      rw [history, History.append_empty]
      exact ledger
  | cons moment rest ih =>
      have stepped := ledger.moves (step_moves moment.line moment.now modem moment.event)
      simp only [history, run, ← History.append_assoc]
      exact ih stepped

/-- A new modem starts with an empty ledger. -/
theorem ledger_run_new (ackTimeout : Duration) (filter : Option RelayFilter)
    (moments : List Moment) :
    Ledger (history { ackTimeout, filter } moments)
      (run { ackTimeout, filter } moments).1.desk := by
  have start : Ledger {} (desk { ackTimeout, filter }) := Ledger.empty ackTimeout
  exact ledger_run start moments

end Powerline.Modem
