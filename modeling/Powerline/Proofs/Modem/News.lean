import Powerline.Proofs.Modem.Results
import Powerline.Proofs.Modem.Subscriptions

/-!
# News for a subscription

The news for a subscription are the messages that the dispatcher passes on while it is registered
and that its pattern holds for. As long as nobody reads the mailbox, its oldest message is the first
of the news (`Unread`). A request that is submitted behind a subscription is in the channel as long
as the subscription is (`Behind`), so it is not transmitted before the dispatcher knows the
subscription (`not_transmitted_of_behind`).
-/

namespace Powerline.Modem

open Desk

/-- The message for a subscription that an event brings. -/
def news? (pattern : Pattern) (standing : Standing) (modem : Modem) (now : Instant)
    (event : Event) : Option Message :=
  (modem.dispatched? now event).filter fun message =>
    standing = .registered && pattern.holds message

/-- The messages for a subscription that a run brings, with the times. -/
def news (id : SubscriptionId) (pattern : Pattern) (standing : Standing) (modem : Modem) :
    List Moment → List (Instant × Message)
  | [] => []
  | moment :: rest =>
      ((modem.news? pattern standing moment.now moment.event).map (moment.now, ·)).toList
        ++ (step moment.line moment.now modem moment.event).1.news id pattern
          (standing.after id modem moment.event) rest

/-- The event does nothing to a subscription or its mailbox. -/
def Event.Spares (id : SubscriptionId) (event : Event) : Prop :=
  ¬ event.Concerns id ∧ event ≠ .receive id

/-- The subscription is not asked for yet, and there are no news. -/
structure Unasked (id : SubscriptionId) (pattern : Pattern) (modem : Modem)
    (moments : List Moment) : Prop where
  lacks : (modem.run moments).1.mail.Lacks id
  standing : Standing.asked.behind id modem moments = .asked
  news : modem.news id pattern .asked moments = []

/-- These messages wait for a subscription, and nobody has read any. -/
structure Unread (id : SubscriptionId) (pattern : Pattern) (room : Nat) (modem : Modem)
    (moments : List Moment) (waiting : List Message) : Prop where
  stands : Stands id pattern room (Standing.asked.behind id modem moments) waiting
    (modem.run moments).1
  kept : Standing.asked.behind id modem moments ≠ .givenUp
  oldest : waiting.head? = (modem.news id pattern .asked moments).head?.map Prod.snd

/-- The request is in the channel behind the subscription. -/
def Behind (id : SubscriptionId) (ticket : Ticket) (modem : Modem) : Prop :=
  ∃ before pattern after request, modem.controls = before ++ .subscribe id pattern :: after ∧
    .request ticket request ∈ after

/-- As long as the dispatcher has not taken the subscription, the request is behind it. -/
def InOrder (id : SubscriptionId) (ticket : Ticket) (modem : Modem) (moments : List Moment) :
    Prop :=
  Standing.asked.behind id modem moments = .asked →
    (modem.run moments).1.isRunning = true → Behind id ticket (modem.run moments).1

variable {line : Line} {now : Instant} {modem : Modem} {id : SubscriptionId} {event : Event}
  {pattern : Pattern} {room : Nat} {standing : Standing} {waiting : List Message}
  {past moments later : List Moment} {moment : Moment} {ticket : Ticket}

theorem news_append (modem : Modem) (standing : Standing) (moments later : List Moment) :
    modem.news id pattern standing (moments ++ later)
      = modem.news id pattern standing moments
        ++ (modem.run moments).1.news id pattern (standing.behind id modem moments) later := by
  induction moments generalizing modem standing with
  | nil => rfl
  | cons moment rest ih =>
      simp only [List.cons_append, news, ih, List.append_assoc]
      rfl

theorem news_append_singleton (modem : Modem) (past : List Moment) (moment : Moment) :
    modem.news id pattern .asked (past ++ [moment])
      = modem.news id pattern .asked past
        ++ (((modem.run past).1.news? pattern (Standing.asked.behind id modem past) moment.now
          moment.event).map (moment.now, ·)).toList := by
  simp only [news_append, news, List.append_nil]

theorem behind_append_singleton (modem : Modem) (past : List Moment) (moment : Moment) :
    Standing.asked.behind id modem (past ++ [moment])
      = (Standing.asked.behind id modem past).after id (modem.run past).1 moment.event := by
  rw [behind_append]
  rfl

theorem news?_of_ne (other : standing ≠ .registered) :
    modem.news? pattern standing now event = none := by
  simp [news?, other]

/-- An empty mailbox has room for what is news. -/
theorem admitted?_of_empty (empty : modem.waitingFor id = []) (positive : 0 < room) :
    modem.admitted? id pattern room standing now event
      = modem.news? pattern standing now event := by
  simp [admitted?, news?, empty, positive]

theorem givesUp_of_spares (spares : event.Spares id) : event.givesUp id = false := by
  cases event with
  | unsubscribe other | discard other => exact decide_eq_false spares.1
  | submit | subscribe | receive | close | take | arrive | lineEnd | tick | abandon => rfl

theorem after_ne_givenUp (kept : standing ≠ .givenUp) (spares : event.Spares id) :
    standing.after id modem event ≠ .givenUp := by
  rw [Standing.after_of_kept _ (givesUp_of_spares spares)]
  split
  · simp
  · exact kept

namespace Unasked

theorem step (unasked : Unasked id pattern modem past) (spares : moment.event.Spares id) :
    Unasked id pattern modem (past ++ [moment]) where
  lacks := by
    rw [run_append_singleton]
    exact unasked.lacks.step moment.line moment.now spares.1
  standing := by
    have waits : (modem.run past).1.registers id moment.event = false :=
      registers_of_unconcerned unasked.lacks.unconcerned
    rw [behind_append_singleton, unasked.standing,
      Standing.after_of_kept _ (givesUp_of_spares spares)]
    simp [waits]
  news := by
    rw [news_append_singleton, unasked.news, unasked.standing, news?_of_ne (by simp)]
    rfl

theorem subscribe (unasked : Unasked id pattern modem past) (line : Line) (now : Instant)
    (capacity : Nat) :
    Unread id pattern (max capacity 1) modem
      (past ++ [⟨now, line, .subscribe id pattern capacity⟩]) [] := by
  have standing : Standing.asked.behind id modem
      (past ++ [⟨now, line, .subscribe id pattern capacity⟩]) = .asked := by
    rw [behind_append_singleton, unasked.standing]
    rfl
  refine ⟨?_, ?_, ?_⟩
  · rw [standing, run_append_singleton]
    exact unasked.lacks.subscribe pattern capacity
  · simp [standing]
  · rw [news_append_singleton, unasked.news, unasked.standing, news?_of_ne (by simp)]
    rfl

end Unasked

namespace Unread

/-- What others do adds to what waits. -/
theorem step (unread : Unread id pattern room modem past waiting) (positive : 0 < room)
    (moment : Moment) (spares : moment.event.Spares id) :
    ∃ more, Unread id pattern room modem (past ++ [moment]) more ∧
      (waiting ≠ [] → more ≠ []) := by
  rcases unread with ⟨stands, kept, oldest⟩
  rcases stands.step moment.line moment.now (Event.ne_subscribe spares.1) with
    ⟨more, lost, next, balance, keeps⟩
  -- Only the owner could throw the mailbox away.
  have whole : lost = [] := by
    apply keeps
    intro discards
    rw [discards] at spares
    exact spares.1 rfl
  rw [whole, taken?_of_ne spares.2, Option.toList_none, List.nil_append, List.append_nil] at balance
  refine ⟨more, ⟨?_, ?_, ?_⟩, ?_⟩
  · rw [behind_append_singleton, run_append_singleton]
    exact next
  · rw [behind_append_singleton]
    exact after_ne_givenUp kept spares
  · rw [news_append_singleton, ← balance, List.head?_append, List.head?_append, oldest]
    cases first : (modem.news id pattern .asked past).head? with
    | some entry => rfl
    | none =>
        rw [first, Option.map_none, List.head?_eq_none_iff] at oldest
        have empty := stands.waitingFor_eq
        rw [oldest] at empty
        rw [admitted?_of_empty empty positive]
        cases (modem.run past).1.news? pattern (Standing.asked.behind id modem past) moment.now
          moment.event <;> rfl
  · rintro filled rfl
    exact filled (List.append_eq_nil_iff.mp balance).1

end Unread

/-! ### The order in the channel -/

theorem Behind.step (behind : Behind id ticket modem) (line : Line) (now : Instant)
    (waits : modem.registers id event = false)
    (running : (step line now modem event).1.isRunning = true) :
    Behind id ticket (Modem.step line now modem event).1 := by
  rcases behind with ⟨before, pattern, after, request, controls, mem⟩
  have same : (Modem.step line now modem event).1.controls
      = (modem.mailAfter now event).controls := by
    rcases mail_step line now modem event with same | closed
    · exact congrArg Mail.controls same
    · have stopped : (Modem.step line now modem event).1.isRunning = false :=
        congrArg Mail.isRunning closed
      rw [running] at stopped
      contradiction
  rcases Classical.em (event = .take) with rfl | other
  · rw [controls_mailAfter_take, controls] at same
    cases before with
    | nil => simp [registers, controls] at waits
    | cons first rest => exact ⟨rest, pattern, after, request, same, mem⟩
  · -- Other events only put controls into the channel behind those that are there.
    rw [controls_mailAfter now modem other, controls, List.append_assoc, List.cons_append] at same
    exact ⟨before, pattern, after ++ _, request, same, List.mem_append_left _ mem⟩

theorem behind_submit (asked : modem.mail.Asked id pattern room) (request : Request) :
    Behind id modem.nextTicket (modem.submit request).1 := by
  rcases asked.asked with ⟨before, after, controls, _⟩
  have running : modem.isRunning = true := asked.running
  change modem.controls = _ at controls
  refine ⟨before, pattern, after ++ [.request modem.nextTicket request], request, ?_, by simp⟩
  simp [submit, running, leave, controls]

/-- The oldest control is not the request, as the subscription is in front of that. -/
theorem Behind.not_taken (behind : Behind id ticket modem)
    (distinct : (modem.desk.channel.map Prod.fst).Nodup) (event : Event) :
    ticket ∉ (modem.taken event).map Prod.fst := by
  rcases behind with ⟨before, pattern, after, request, controls, mem⟩
  have channel : modem.desk.channel
      = before.filterMap Control.request? ++ after.filterMap Control.request? := by
    simp only [desk, controls, List.filterMap_append]
    rfl
  have waits : ticket ∈ (after.filterMap Control.request?).map Prod.fst := by
    have own : (ticket, request) ∈ after.filterMap Control.request? :=
      List.mem_filterMap.mpr ⟨_, mem, rfl⟩
    exact List.mem_map_of_mem own
  cases event with
  | take =>
      rw [taken, controls]
      cases before with
      | nil => exact List.not_mem_nil
      | cons first rest =>
          intro now
          have inFront : ticket ∈ ((first :: rest).filterMap Control.request?).map Prod.fst := by
            rw [List.filterMap_cons]
            cases found : first.request? with
            | none => simp [found] at now
            | some entry =>
                have same : ticket = entry.1 := by simpa [found] using now
                rw [same]
                exact List.mem_cons_self
          -- As the oldest control it would be in the channel twice.
          rw [channel, List.map_append] at distinct
          exact (List.nodup_append.mp distinct).2.2 ticket inFront ticket waits rfl
  | submit | subscribe | unsubscribe | discard | receive | close | arrive | lineEnd | tick
  | abandon => exact List.not_mem_nil

/-- A request that is in the channel behind a subscription is not transmitted yet. -/
theorem not_transmitted_of_behind {history : History} (ledger : Ledger history modem.desk)
    (behind : Behind id ticket modem) :
    ticket ∉ (transmissions (step line now modem event).2).map Prod.fst := by
  have waits : ticket ∈ modem.desk.channel.map Prod.fst := by
    rcases behind with ⟨before, pattern, after, request, controls, mem⟩
    have own : (ticket, request) ∈ modem.desk.channel := by
      refine List.mem_filterMap.mpr ⟨.request ticket request, ?_, rfl⟩
      rw [controls]
      exact List.mem_append_right _ (List.mem_cons_of_mem _ mem)
    exact List.mem_map_of_mem own
  have distinct := ledger.nodup_accepted
  rw [List.map_append] at distinct
  rcases List.nodup_append.mp distinct with ⟨_, distinctChannel, apart⟩
  intro transmitted
  have taken : ticket ∈ (history.taken ++ modem.taken event).map Prod.fst := by
    apply (ledger.moves (step_moves line now modem event)).mem_taken
    rw [History.append_def, transmissions_append, List.map_append]
    exact List.mem_append_right _ transmitted
  rw [List.map_append] at taken
  rcases List.mem_append.mp taken with before | now
  · exact apart ticket before ticket waits rfl
  · exact behind.not_taken distinctChannel event now

/-- No request gets two results. -/
theorem nodup_answers_step {history : History} (ledger : Ledger history modem.desk) (line : Line)
    (now : Instant) (event : Event) :
    ((answers (step line now modem event).2).map Prod.fst).Nodup := by
  have answered := (ledger.moves (step_moves line now modem event)).answered
  have distinct : (List.range (history ++ ⟨event.submitted, modem.taken event,
    (step line now modem event).2⟩).submitted.length).Nodup := List.nodup_range
  rw [← answered, History.append_def, answers_append, List.map_append, List.append_assoc]
    at distinct
  exact (List.nodup_append.mp (List.nodup_append.mp distinct).2.1).1

theorem InOrder.step (inOrder : InOrder id ticket modem past) (spares : moment.event.Spares id) :
    InOrder id ticket modem (past ++ [moment]) := by
  intro standing running
  rw [behind_append_singleton, Standing.after_of_kept _ (givesUp_of_spares spares)] at standing
  rw [run_append_singleton] at running ⊢
  split at standing
  · contradiction
  · next waits =>
      have earlier : (modem.run past).1.isRunning = true := by
        cases before : (modem.run past).1.isRunning with
        | true => rfl
        | false =>
            rw [isRunning_step_of_stopped before] at running
            contradiction
      rw [standing] at waits
      refine (inOrder standing earlier).step moment.line moment.now ?_ running
      simpa using waits

/-- A request that is submitted behind the subscription is in order. -/
theorem Unread.inOrder_submit (unread : Unread id pattern room modem past waiting) (line : Line)
    (now : Instant) (request : Request) :
    InOrder id (modem.run past).1.nextTicket modem (past ++ [⟨now, line, .submit request⟩]) := by
  intro standing running
  rw [behind_append_singleton, Standing.after_of_kept _ rfl] at standing
  rw [run_append_singleton] at running ⊢
  split at standing
  · contradiction
  · rcases unread with ⟨stands, _, _⟩
    rw [standing] at stands
    cases stands with
    | asked asked => exact behind_submit asked request
    | ended mailbox deaf =>
        rcases deaf with givenUp | stopped
        · contradiction
        · rw [isRunning_step_of_stopped stopped] at running
          contradiction

/-- A dispatcher that transmits the request knows the subscription already. -/
theorem Unread.known_of_transmitted {history : History}
    (unread : Unread id pattern room modem past waiting)
    (ledger : Ledger history (modem.run past).1.desk) (inOrder : InOrder id ticket modem past)
    (transmitted : ticket
      ∈ (transmissions (Modem.step line now (modem.run past).1 event).2).map Prod.fst) :
    ⟨id, pattern⟩ ∈ (modem.run past).1.subscribers := by
  have running : (modem.run past).1.isRunning = true := by
    cases stopped : (modem.run past).1.isRunning with
    | true => rfl
    | false =>
        have away := turnsAway_of_moves (ledger.stopped stopped)
          (step_moves line now (modem.run past).1 event)
        rw [away.untransmitted] at transmitted
        contradiction
  rcases unread with ⟨stands, kept, _⟩
  generalize standing : Standing.asked.behind id modem past = reached at stands kept
  cases stands with
  | asked asked =>
      exact absurd transmitted (not_transmitted_of_behind ledger (inOrder standing running))
  | heard hears => exact hears.known running
  | ended mailbox deaf =>
      rcases deaf with givenUp | stopped
      · exact absurd givenUp kept
      · rw [running] at stopped
        contradiction
  | gone mailbox => exact absurd rfl kept

end Powerline.Modem
