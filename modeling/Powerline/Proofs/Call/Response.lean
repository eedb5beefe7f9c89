import Powerline.Bench.Step
import Powerline.Proofs.Call.Scene
import Powerline.Proofs.Dialogue
import Powerline.Proofs.Modem.Attribution
import Powerline.Proofs.Modem.Handshake
import Powerline.Proofs.Modem.News

/-!
# The response to a command

A call that asks for a response subscribes before it sends its command. The dispatcher takes both
from the channel in this order, so it knows the subscription when it transmits the command, and
whatever the device says from then on waits for the call.
-/

namespace Powerline

open Modem Bench

/-- The call waits for the response, and gives its subscription up when it has come or is late. -/
def Connection.hearing (connection : Connection) (id : SubscriptionId) : Script :=
  .receive id (some connection.config.readTimeout) fun mail =>
    .discard id (.done (mail.map Value.message))

/-- What the call does when its command has got a result. -/
def Connection.replied (connection : Connection) (id : SubscriptionId)
    (answer : Except Error Message) : Script :=
  match connection.verdict answer with
  | .ok _ => connection.hearing id
  | .error error => .discard id (.done (.error error))

theorem Connection.script_request (connection : Connection) (command : Command) (payload : Bytes)
    (response : Pattern) :
    script .message (connection.request command payload response)
      = .subscribe (connection.heard response) connection.config.subscriberBuffer fun id =>
          .send (connection.addressed (connection.direct command payload))
            (connection.replied id) := by
  change Dialogue.subscribe _ _ _ = _
  congr 1
  funext id
  change Dialogue.send _ _ = _
  congr 1
  funext answer
  cases answer with
  | error error => rfl
  | ok answer =>
      have verdict : connection.verdict (.ok answer) = connection.checkAnswer answer := rfl
      unfold replied
      rw [verdict]
      cases checked : connection.checkAnswer answer with
      | ok ack =>
          simp only [Dialogue.bind, Dialogue.ofExcept, checked, Dialogue.attempt,
            Dialogue.receiveWithin, hearing]
          congr 1
          funext mail
          cases mail <;> rfl
      | error error => simp only [Dialogue.bind, Dialogue.ofExcept, checked, Dialogue.attempt]

namespace Bench

/-- The beat is a turn of the call, which would subscribe under this number, or something that does
nothing to the subscription. -/
def Beat.Spares (id : SubscriptionId) : Beat → Prop
  | .other moment => moment.event.Spares id
  | .turn _ _ fresh => fresh = id

namespace Position

/-- The call listens for its response. -/
def listening (connection : Connection) (id : SubscriptionId) (deadline : Option Instant) :
    Position :=
  .waits (.mail id deadline (connection.hearing id) (.discard id (.done (.error .readTimeout))))

/-- The call knows its result and gives its subscription up. -/
def leaving (id : SubscriptionId) (result : Except Error Value) : Position :=
  .acts (.discard id (.done result))

/-- The call has had the result of its command. -/
inductive HasReply (connection : Connection) (id : SubscriptionId) : Position → Prop where
  | hears : HasReply connection id (.acts (connection.hearing id))
  | listens (deadline : Option Instant) : HasReply connection id (listening connection id deadline)
  | leaves (result : Except Error Value) : HasReply connection id (leaving id result)
  | ends (result : Except Error Value) : HasReply connection id (.acts (.done result))
  | finished (result : Except Error Value) : HasReply connection id (.finished result)
  | broken : HasReply connection id .broken

variable {connection : Connection} {id : SubscriptionId} {ticket : Ticket} {position : Position}
  {deadline : Option Instant}

@[simp]
theorem hear_listening (connection : Connection) (given : List (Ticket × Except Error Answer)) :
    (listening connection id deadline).hear given = listening connection id deadline :=
  hear_mail id deadline _ _ given

theorem HasReply.hear (has : HasReply connection id position)
    (given : List (Ticket × Except Error Answer)) : position.hear given = position := by
  cases has with
  | listens => exact hear_listening connection given
  | hears | leaves | ends | finished | broken => rfl

theorem hasReply_replied (answer : Except Error Message) :
    HasReply connection id (acts (connection.replied id answer)) := by
  unfold Connection.replied
  split
  · exact .hears
  · exact .leaves _

end Position

open Position

variable {connection : Connection} {command : Command} {payload : Bytes} {response : Pattern}
  {id : SubscriptionId} {scene start : Scene} {beat : Beat} {now : Instant} {memory : Memory}
  {fresh : SubscriptionId} {result : Except Error Value} {ticket : Ticket}
  {deadline : Option Instant} {past later : List Beat} {waiting : List Message} {moment : Moment}

/-! ### Turns -/

theorem position_of_hearing (position : scene.position = .acts (connection.hearing id)) :
    (scene.after (.turn now memory fresh)).position
      = match mail? scene.modem id with
        | some mail => leaving id (mail.map .message)
        | none =>
            if connection.config.readTimeout = 0 then leaving id (.error .readTimeout)
            else listening connection id (Instant.after? now connection.config.readTimeout) := by
  simp only [Scene.after, Scene.turn, position, Connection.hearing, act]
  cases mail? scene.modem id with
  | some mail => rfl
  | none =>
      simp only [Option.some.injEq, Option.bind_some]
      split
      · rfl
      · exact hear_listening connection _

theorem position_of_listening (position : scene.position = listening connection id deadline) :
    (scene.after (.turn now memory fresh)).position
      = if (mail? scene.modem id).isSome then .acts (connection.hearing id)
        else if deadline.any (· ≤ now) then leaving id (.error .readTimeout)
        else listening connection id deadline := by
  simp only [Scene.after, Scene.turn, position, listening, Wait.look]
  split
  · rfl
  · split
    · rfl
    · exact hear_listening connection _

theorem position_of_leaving (position : scene.position = leaving id result) :
    (scene.after (.turn now memory fresh)).position = .acts (.done result) := by
  simp only [Scene.after, Scene.turn, position, leaving, act]
  rfl

theorem position_of_done (position : scene.position = .acts (.done result)) :
    (scene.after (.turn now memory fresh)).position = .finished result := by
  simp only [Scene.after, Scene.turn, position, act]
  rfl

theorem hasReply_after (has : scene.position.HasReply connection id) (beat : Beat) :
    (scene.after beat).position.HasReply connection id := by
  cases beat with
  | other moment =>
      change (scene.position.hear _).HasReply connection id
      rw [has.hear]
      exact has
  | turn now memory fresh =>
      generalize reached : scene.position = position at has
      cases has with
      | hears =>
          rw [position_of_hearing reached]
          split
          · exact .leaves _
          · split
            · exact .leaves _
            · exact .listens _
      | listens deadline =>
          rw [position_of_listening reached]
          split
          · exact .hears
          · split
            · exact .leaves _
            · exact .listens _
      | leaves result =>
          rw [position_of_leaving reached]
          exact .ends result
      | ends result =>
          rw [position_of_done reached]
          exact .finished result
      | finished result =>
          simp only [Scene.after, Scene.turn, reached]
          exact .finished result
      | broken =>
          simp only [Scene.after, Scene.turn, reached]
          exact .broken

/-! ### Up to the reply -/

/-- These messages wait for the subscription of the call. -/
abbrev Heard (connection : Connection) (response : Pattern) (id : SubscriptionId) (start : Scene)
    (past : List Beat) (waiting : List Message) : Prop :=
  Unread id (connection.heard response) (max connection.config.subscriberBuffer 1) start.modem
    (start.moments past) waiting

/-- How far the call has come with its command. -/
inductive Asks (connection : Connection) (command : Command) (payload : Bytes)
    (response : Pattern) (id : SubscriptionId) (start : Scene) (past : List Beat) : Prop where
  | new
      (position : (start.play past).position
        = .acts (script .message (connection.request command payload response)))
      (unasked : Unasked id (connection.heard response) start.modem (start.moments past))
  | subscribed {waiting : List Message}
      (position : (start.play past).position
        = .acts (.send (connection.addressed (connection.direct command payload))
            (connection.replied id)))
      (heard : Heard connection response id start past waiting)
  | sent {ticket : Ticket} {waiting : List Message}
      (position : (start.play past).position
        = .waits (.reply ticket (connection.replied id)))
      (heard : Heard connection response id start past waiting)
      (inOrder : InOrder id ticket start.modem (start.moments past))
  | replied (has : (start.play past).position.HasReply connection id)

theorem Heard.other (heard : Heard connection response id start past waiting)
    (spares : moment.event.Spares id) :
    ∃ more, Heard connection response id start (past ++ [.other moment]) more ∧
      (waiting ≠ [] → more ≠ []) := by
  unfold Heard
  rw [Scene.moments_append_singleton]
  exact Unread.step heard (by omega) moment spares

/-- A turn in which the call does nothing to the modem. -/
theorem Heard.turn (heard : Heard connection response id start past waiting)
    (silent : (start.play past).happens beat = []) :
    Heard connection response id start (past ++ [beat]) waiting := by
  unfold Heard
  rw [Scene.moments_append_singleton, silent, List.append_nil]
  exact heard

namespace Asks

variable {connection : Connection} {command : Command} {payload : Bytes} {response : Pattern}

theorem other (asks : Asks connection command payload response id start past)
    (spares : moment.event.Spares id) :
    Asks connection command payload response id start (past ++ [.other moment]) := by
  have position_of_acts {acting : Script} (position : (start.play past).position = .acts acting) :
      (start.play (past ++ [.other moment])).position = .acts acting := by
    rw [Scene.play_append_singleton]
    change (start.play past).position.hear _ = _
    rw [position]
    rfl
  cases asks with
  | new position unasked =>
      refine .new (position_of_acts position) ?_
      rw [Scene.moments_append_singleton]
      exact unasked.step spares
  | subscribed position heard =>
      rcases heard.other spares with ⟨more, next, _⟩
      exact .subscribed (position_of_acts position) next
  | @sent ticket waiting position heard inOrder =>
      rcases heard.other spares with ⟨more, next, _⟩
      have reached : (start.play (past ++ [.other moment])).position
          = (Position.waits (.reply ticket (connection.replied id))).hear
            (Modem.answers ((start.play past).effects (.other moment))) := by
        rw [Scene.play_append_singleton, ← position]
        rfl
      rcases hear_reply ticket (connection.replied id)
        (Modem.answers ((start.play past).effects (.other moment))) with waits | ⟨answer, acts⟩
      · refine .sent (reached.trans waits) next ?_
        rw [Scene.moments_append_singleton]
        exact inOrder.step spares
      · refine .replied ?_
        rw [reached, acts]
        exact hasReply_replied answer
  | replied has =>
      refine .replied ?_
      rw [Scene.play_append_singleton]
      exact hasReply_after has _

/-- The call subscribes, unless nothing could have so much room. -/
theorem turn_of_new
    (position : (start.play past).position
      = .acts (script .message (connection.request command payload response)))
    (unasked : Unasked id (connection.heard response) start.modem (start.moments past)) :
    Asks connection command payload response id start (past ++ [.turn now memory id]) := by
  have turn : (start.play past).turn now memory id
      = if connection.config.subscriberBuffer > Mailbox.maxCapacity then
          ⟨(start.play past).subscriptions.map .discard, .broken, []⟩
        else
          ⟨[.subscribe id (connection.heard response) connection.config.subscriberBuffer],
            .acts (.send (connection.addressed (connection.direct command payload))
              (connection.replied id)), id :: (start.play past).subscriptions⟩ := by
    simp only [Scene.turn, position, connection.script_request, act]
  split at turn
  · refine .replied ?_
    simp only [Scene.play_append_singleton, Scene.after, turn]
    exact .broken
  · have heard : Heard connection response id start (past ++ [.turn now memory id]) [] := by
      unfold Heard
      simp only [Scene.moments_append_singleton, Scene.happens, turn, List.map_cons, List.map_nil]
      exact unasked.subscribe .sound now connection.config.subscriberBuffer
    refine .subscribed ?_ heard
    simp only [Scene.play_append_singleton, Scene.after, turn]
    rfl

theorem turn_of_subscribed
    (position : (start.play past).position
      = .acts (.send (connection.addressed (connection.direct command payload))
          (connection.replied id)))
    (heard : Heard connection response id start past waiting) :
    Asks connection command payload response id start (past ++ [.turn now memory fresh]) := by
  have reached := congrArg Scene.position
    (Scene.play_append_singleton start past (.turn now memory fresh))
  have happens : (start.play past).happens (.turn now memory fresh)
      = [⟨now, .sound,
          .submit (.message (connection.addressed (connection.direct command payload)))⟩] := by
    simp only [Scene.happens, Scene.turn, position, act]
    rfl
  simp only [Scene.after, Scene.turn, position, act] at reached
  rcases hear_reply (start.play past).modem.nextTicket (connection.replied id)
    (Modem.answers ((start.play past).effects (.turn now memory fresh))) with waits | ⟨answer, acts⟩
  · have spares : (Modem.Event.submit
        (.message (connection.addressed (connection.direct command payload)))).Spares id :=
      ⟨not_false, by simp⟩
    rcases Unread.step heard (by omega) ⟨now, .sound, _⟩ spares with ⟨more, next, _⟩
    refine .sent (reached.trans waits) (?_ : Heard connection response id start _ more) ?_
    · unfold Heard
      rw [Scene.moments_append_singleton, happens]
      exact next
    · rw [Scene.moments_append_singleton, happens, Scene.modem_play]
      exact Unread.inOrder_submit heard .sound now _
  · refine .replied ?_
    rw [reached, acts]
    exact hasReply_replied answer

/-- A beat leaves the call where it is or takes it one step further. -/
theorem step (asks : Asks connection command payload response id start past)
    (spares : beat.Spares id) :
    Asks connection command payload response id start (past ++ [beat]) := by
  cases beat with
  | other moment => exact asks.other spares
  | turn now memory fresh =>
      cases asks with
      | new position unasked =>
          have own : fresh = id := spares
          rw [own]
          exact turn_of_new position unasked
      | subscribed position heard => exact turn_of_subscribed position heard
      | @sent ticket waiting position heard inOrder =>
          have silent := Scene.happens_of_reply position now memory fresh
          have reached : (start.play (past ++ [.turn now memory fresh])).position
              = .waits (.reply ticket (connection.replied id)) := by
            simp only [Scene.play_append_singleton, Scene.after, Scene.effects, silent, Scene.turn,
              position, Wait.look]
            rfl
          refine .sent reached (heard.turn silent) ?_
          rw [Scene.moments_append_singleton, silent, List.append_nil]
          exact inOrder
      | replied has =>
          refine .replied ?_
          rw [Scene.play_append_singleton]
          exact hasReply_after has _

theorem run {beats : List Beat} (asks : Asks connection command payload response id start past)
    (spares : ∀ beat ∈ beats, beat.Spares id) :
    Asks connection command payload response id start (past ++ beats) := by
  induction beats generalizing past with
  | nil =>
      rw [List.append_nil]
      exact asks
  | cons beat rest ih =>
      rw [List.forall_mem_cons] at spares
      rw [List.append_cons]
      exact ih (asks.step spares.1) spares.2

end Asks

/-! ### From the reply on -/

/-- What comes of the call when it has looked into its mailbox for the last time. -/
def outcome (first : Option (Instant × Message)) (isRunning : Bool) : Except Error Value :=
  match first with
  | some (_, message) => .ok (.message message)
  | none => .error (if isRunning then .readTimeout else .closed)

/-- What the call finds in its mailbox: nothing as long as something may come, and else the oldest
message or the end. -/
theorem mail?_of_heard (heard : Heard connection response id start past waiting) :
    mail? (start.play past).modem id
      = if waiting.isEmpty && (start.play past).modem.isRunning then none
        else some (leftIn waiting) := by
  rcases heard with ⟨stands, kept, _⟩
  rw [← Scene.modem_play] at stands
  generalize Standing.asked.behind id start.modem (start.moments past) = standing at stands kept
  cases stands with
  | asked asked =>
      have mailbox : (start.play past).modem.mailbox? id = _ := asked.mailbox
      have running : (start.play past).modem.isRunning = true := asked.running
      simp only [mail?, mailbox, running]
      rfl
  | heard hears =>
      simp only [mail?, hears.mailbox]
      cases waiting <;> cases (start.play past).modem.isRunning <;> rfl
  | ended mailbox deaf =>
      have stopped : (start.play past).modem.isRunning = false := deaf.resolve_left kept
      simp only [mail?, mailbox, stopped]
      cases waiting <;> rfl
  | gone => exact absurd rfl kept

/-- The call gets the first of the news, or what comes of there being none. -/
theorem outcome_of_heard (heard : Heard connection response id start past waiting) :
    outcome (start.modem.news id (connection.heard response) .asked (start.moments past)).head?
        (start.play past).modem.isRunning
      = match mail? (start.play past).modem id with
        | some mail => mail.map .message
        | none => .error .readTimeout := by
  have oldest := heard.oldest
  rw [mail?_of_heard heard]
  cases found : (start.modem.news id (connection.heard response) .asked
    (start.moments past)).head? with
  | some entry =>
      rw [found] at oldest
      cases waiting with
      | nil => contradiction
      | cons message rest =>
          rw [Option.map_some, List.head?_cons, Option.some.injEq] at oldest
          simp only [outcome, ← oldest]
          rfl
  | none =>
      rw [found, Option.map_none, List.head?_eq_none_iff] at oldest
      subst oldest
      cases (start.play past).modem.isRunning <;> rfl

/-- What the call finds in its mailbox is no late response. -/
theorem map_mail_ne (heard : Heard connection response id start past waiting)
    {mail : Except Error Message} (found : mail? (start.play past).modem id = some mail) :
    mail.map Value.message ≠ .error .readTimeout := by
  rw [mail?_of_heard heard] at found
  split at found
  · contradiction
  · rw [← Option.some.inj found]
    cases waiting <;> simp [leftIn, Except.map]

/-- What the call has found in its mailbox stays there while others go on. -/
theorem isSome_mail?_of_other (heard : Heard connection response id start past waiting)
    (spares : moment.event.Spares id) (found : (mail? (start.play past).modem id).isSome = true) :
    (mail? (start.play (past ++ [.other moment])).modem id).isSome = true := by
  rcases heard.other spares with ⟨more, next, kept⟩
  rw [mail?_of_heard next]
  rw [mail?_of_heard heard] at found
  cases more with
  | cons message rest => rfl
  | nil =>
      cases waiting with
      | cons message rest => exact absurd rfl (kept (by simp))
      | nil =>
          have stopped : (start.play past).modem.isRunning = false := by
            simpa using found
          have still := isRunning_step_of_stopped stopped moment.line moment.now moment.event
          rw [Scene.play_append_singleton, Scene.modem_after]
          simp only [Scene.happens, Modem.run, still]
          rfl

/-- When the wait for a response ends, if the device accepted the command at the given time. -/
abbrev latest (connection : Connection) (answered : Instant) : Instant :=
  answered + connection.config.readTimeout

/-- The call has looked into its mailbox for the last time, and this is what came of it. It is never
too early for a late response, and in time if the call had its turns promptly. -/
def Decided (connection : Connection) (response : Pattern) (id : SubscriptionId) (start : Scene)
    (base : List Beat) (answered : Instant) (prompt : Prop) (later : List Beat)
    (result : Except Error Value) : Prop :=
  ∃ window look rest, later = window ++ look :: rest ∧
    result = outcome
      (start.modem.news id (connection.heard response) .asked
        (start.moments (base ++ window))).head?
      (start.play (base ++ window)).modem.isRunning ∧
    (result = .error .readTimeout → latest connection answered ≤ look.now) ∧
    (prompt → look.now ≤ latest connection answered)

/-- The time is not before the answer, and just then if the call had its turns promptly. -/
def FromAnswer (answered : Instant) (prompt : Prop) (time : Instant) : Prop :=
  answered ≤ time ∧ (prompt → time = answered)

/-- How far the call has come with the response, when the device has accepted the command. -/
inductive Awaits (connection : Connection) (response : Pattern) (id : SubscriptionId)
    (start : Scene) (base : List Beat) (answered : Instant) (prompt : Prop) (later : List Beat) :
    Prop where
  | hears {waiting : List Message}
      (position : (start.play (base ++ later)).position = .acts (connection.hearing id))
      (heard : Heard connection response id start (base ++ later) waiting)
      (inTime : prompt → (start.play (base ++ later)).now ≤ latest connection answered)
      (recent : FromAnswer answered prompt (start.play (base ++ later)).now ∨
        (mail? (start.play (base ++ later)).modem id).isSome = true)
  | listens {waiting : List Message} {begun : Instant}
      (position : (start.play (base ++ later)).position
        = listening connection id (Instant.after? begun connection.config.readTimeout))
      (heard : Heard connection response id start (base ++ later) waiting)
      (inTime : prompt → (start.play (base ++ later)).now ≤ latest connection answered)
      (begins : FromAnswer answered prompt begun)
  | leaves {result : Except Error Value}
      (position : (start.play (base ++ later)).position = leaving id result)
      (inTime : prompt → (start.play (base ++ later)).now ≤ latest connection answered)
      (decided : Decided connection response id start base answered prompt later result)
  | ends {result : Except Error Value}
      (position : (start.play (base ++ later)).position = .acts (.done result))
      (inTime : prompt → (start.play (base ++ later)).now ≤ latest connection answered)
      (decided : Decided connection response id start base answered prompt later result)
  | finished {result : Except Error Value}
      (position : (start.play (base ++ later)).position = .finished result)
      (decided : Decided connection response id start base answered prompt later result)

/-- The call had its turn before the clock ran too far, if it always has. -/
def OnTime (scene : Scene) (prompt : Prop) (time : Instant) : Prop :=
  prompt → ∀ limit ∈ scene.limit?, time ≤ limit

theorem Decided.append {base : List Beat} {answered : Instant} {prompt : Prop}
    (decided : Decided connection response id start base answered prompt later result)
    (beat : Beat) :
    Decided connection response id start base answered prompt (later ++ [beat]) result := by
  rcases decided with ⟨window, look, rest, rfl, same, late, inTime⟩
  exact ⟨window, look, rest ++ [beat], by simp, same, late, inTime⟩

/-- A wait that the clock cannot measure goes on as long as the clock reaches. -/
theorem getD_after?_le (now : Instant) (span : Duration) :
    (Instant.after? now span).getD Instant.last ≤ now + span := by
  unfold Instant.after?
  split
  · exact Nat.le_refl _
  · next beyond => exact Nat.le_of_lt (Nat.lt_of_not_le beyond)

/-- The clock stands still while the call has something to do. -/
theorem le_of_acts {script : Script} {time bound : Instant} {prompt : Prop}
    (position : scene.position = .acts script) (onTime : OnTime scene prompt time)
    (inTime : prompt → scene.now ≤ bound) : prompt → time ≤ bound := by
  intro holds
  have limit : scene.limit? = some scene.now := by simp only [Scene.limit?, position]
  exact Nat.le_trans (onTime holds _ limit) (inTime holds)

/-- The clock does not run past the end of the wait. -/
theorem le_of_listens {answered begun time : Instant} {prompt : Prop}
    (position : scene.position
      = listening connection id (Instant.after? begun connection.config.readTimeout))
    (onTime : OnTime scene prompt time) (begins : FromAnswer answered prompt begun)
    (inTime : prompt → scene.now ≤ latest connection answered) :
    prompt → time ≤ latest connection answered := by
  intro holds
  have limit : scene.limit? = if (mail? scene.modem id).isSome then some scene.now
      else some ((Instant.after? begun connection.config.readTimeout).getD Instant.last) := by
    simp only [Scene.limit?, position, listening]
  split at limit
  · exact Nat.le_trans (onTime holds _ limit) (inTime holds)
  · rw [begins.2 holds] at limit
    exact Nat.le_trans (onTime holds _ limit) (getD_after?_le answered _)

/-- As long as the call acts, the time stays near the answer. -/
theorem FromAnswer.of_acts {script : Script} {answered time : Instant} {prompt : Prop}
    (position : scene.position = .acts script) (onTime : OnTime scene prompt time)
    (ordered : scene.now ≤ time) (near : FromAnswer answered prompt scene.now) :
    FromAnswer answered prompt time := by
  refine ⟨Nat.le_trans near.1 ordered, ?_⟩
  intro holds
  have limit : scene.limit? = some scene.now := by simp only [Scene.limit?, position]
  rw [← near.2 holds]
  exact Nat.le_antisymm (onTime holds _ limit) ordered

namespace Awaits

variable {base : List Beat} {answered begun : Instant} {prompt : Prop}

theorem other (awaits : Awaits connection response id start base answered prompt later)
    (spares : moment.event.Spares id)
    (ordered : (start.play (base ++ later)).now ≤ moment.now)
    (onTime : OnTime (start.play (base ++ later)) prompt moment.now) :
    Awaits connection response id start base answered prompt (later ++ [.other moment]) := by
  have now := Scene.now_behind start base later (.other moment)
  have stays (has : (start.play (base ++ later)).position.HasReply connection id) :
      (start.play (base ++ (later ++ [.other moment]))).position
        = (start.play (base ++ later)).position := by
    rw [Scene.play_behind]
    exact has.hear _
  cases awaits with
  | hears position heard inTime recent =>
      rcases heard.other spares with ⟨more, next, _⟩
      rw [List.append_assoc] at next
      refine .hears ((stays ?_).trans position) next ?_ ?_
      · rw [position]
        exact .hears
      · rw [now]
        exact le_of_acts position onTime inTime
      · rcases recent with near | found
        · left
          rw [now]
          exact near.of_acts position onTime ordered
        · right
          rw [← List.append_assoc]
          exact isSome_mail?_of_other heard spares found
  | listens position heard inTime begins =>
      rcases heard.other spares with ⟨more, next, _⟩
      rw [List.append_assoc] at next
      refine .listens ((stays ?_).trans position) next ?_ begins
      · rw [position]
        exact .listens _
      · rw [now]
        exact le_of_listens position onTime begins inTime
  | leaves position inTime decided =>
      refine .leaves ((stays ?_).trans position) ?_ (decided.append _)
      · rw [position]
        exact .leaves _
      · rw [now]
        exact le_of_acts position onTime inTime
  | ends position inTime decided =>
      refine .ends ((stays ?_).trans position) ?_ (decided.append _)
      · rw [position]
        exact .ends _
      · rw [now]
        exact le_of_acts position onTime inTime
  | finished position decided =>
      refine .finished ((stays ?_).trans position) (decided.append _)
      rw [position]
      exact .finished _

/-- The call looks into its mailbox when it is its turn. -/
theorem turn_of_hears
    (position : (start.play (base ++ later)).position = .acts (connection.hearing id))
    (heard : Heard connection response id start (base ++ later) waiting)
    (inTime : prompt → (start.play (base ++ later)).now ≤ latest connection answered)
    (recent : FromAnswer answered prompt (start.play (base ++ later)).now ∨
      (mail? (start.play (base ++ later)).modem id).isSome = true)
    (ordered : (start.play (base ++ later)).now ≤ now)
    (onTime : OnTime (start.play (base ++ later)) prompt now) :
    Awaits connection response id start base answered prompt
      (later ++ [.turn now memory fresh]) := by
  have reached := congrArg Scene.position
    (Scene.play_behind start base later (.turn now memory fresh))
  rw [position_of_hearing position] at reached
  have early : prompt → now ≤ latest connection answered := le_of_acts position onTime inTime
  have stillInTime : prompt → (start.play (base ++ (later ++ [.turn now memory fresh]))).now
      ≤ latest connection answered := by
    rw [Scene.now_behind]
    exact early
  have result := outcome_of_heard heard
  cases mail : mail? (start.play (base ++ later)).modem id with
  | some found =>
      simp only [mail] at reached result
      refine .leaves reached stillInTime ⟨later, _, [], rfl, result.symm, ?_, early⟩
      intro late
      exact absurd late (map_mail_ne heard mail)
  | none =>
      simp only [mail] at reached result
      -- It finds nothing, so it was not woken and comes right from the answer.
      have near := (recent.resolve_right (by simp [mail])).of_acts position onTime ordered
      split at reached
      · next hurried =>
          refine .leaves reached stillInTime ⟨later, _, [], rfl, result.symm, ?_, early⟩
          intro _
          rw [latest, hurried]
          exact near.1
      · have silent : (start.play (base ++ later)).happens (.turn now memory fresh) = [] := by
          simp only [Scene.happens, Scene.turn, position, Connection.hearing, act, mail]
          split <;> rfl
        have next := heard.turn silent
        rw [List.append_assoc] at next
        exact .listens reached next stillInTime near

/-- The call goes on to listen, or looks once more, or gives up. -/
theorem turn_of_listens
    (position : (start.play (base ++ later)).position
      = listening connection id (Instant.after? begun connection.config.readTimeout))
    (heard : Heard connection response id start (base ++ later) waiting)
    (inTime : prompt → (start.play (base ++ later)).now ≤ latest connection answered)
    (begins : FromAnswer answered prompt begun)
    (onTime : OnTime (start.play (base ++ later)) prompt now) :
    Awaits connection response id start base answered prompt
      (later ++ [.turn now memory fresh]) := by
  have reached := congrArg Scene.position
    (Scene.play_behind start base later (.turn now memory fresh))
  rw [position_of_listening position] at reached
  have early : prompt → now ≤ latest connection answered :=
    le_of_listens position onTime begins inTime
  have stillInTime : prompt → (start.play (base ++ (later ++ [.turn now memory fresh]))).now
      ≤ latest connection answered := by
    rw [Scene.now_behind]
    exact early
  have silent : (start.play (base ++ later)).happens (.turn now memory fresh) = [] := by
    simp only [Scene.happens, Scene.turn, position]
    rfl
  have next := heard.turn silent
  rw [List.append_assoc] at next
  cases mail : mail? (start.play (base ++ later)).modem id with
  | some found =>
      simp only [mail, Option.isSome_some, ↓reduceIte] at reached
      -- It is woken for what it has found and takes that in its next turn.
      refine .hears reached next stillInTime (Or.inr ?_)
      rw [Scene.play_behind, Scene.modem_after, silent]
      simp only [Modem.run, mail, Option.isSome_some]
  | none =>
      have result := outcome_of_heard heard
      simp only [mail] at result
      simp only [mail, Option.isSome_none, Bool.false_eq_true, ↓reduceIte] at reached
      split at reached
      · next ended =>
          refine .leaves reached stillInTime ⟨later, _, [], rfl, result.symm, ?_, early⟩
          intro _
          cases ends : Instant.after? begun connection.config.readTimeout with
          | none => simp [ends] at ended
          | some deadline =>
              have passed : deadline ≤ now := by simpa [ends] using ended
              rw [Instant.after?_eq_some ends] at passed
              exact Nat.le_trans (Nat.add_le_add_right begins.1 _) passed
      · exact .listens reached next stillInTime begins

theorem step (awaits : Awaits connection response id start base answered prompt later)
    (spares : beat.Spares id)
    (ordered : (start.play (base ++ later)).now ≤ beat.now)
    (onTime : OnTime (start.play (base ++ later)) prompt beat.now) :
    Awaits connection response id start base answered prompt (later ++ [beat]) := by
  cases beat with
  | other moment => exact awaits.other spares ordered onTime
  | turn now memory fresh =>
      have reached := congrArg Scene.position
        (Scene.play_behind start base later (.turn now memory fresh))
      cases awaits with
      | hears position heard inTime recent =>
          exact turn_of_hears position heard inTime recent ordered onTime
      | listens position heard inTime begins =>
          exact turn_of_listens position heard inTime begins onTime
      | leaves position inTime decided =>
          refine .ends (reached.trans (position_of_leaving position)) ?_ (decided.append _)
          rw [Scene.now_behind]
          exact le_of_acts position onTime inTime
      | ends position inTime decided =>
          exact .finished (reached.trans (position_of_done position)) (decided.append _)
      | finished position decided =>
          refine .finished (reached.trans ?_) (decided.append _)
          simp only [Scene.after, Scene.turn, position]
          rfl

theorem run {beats : List Beat}
    (awaits : Awaits connection response id start base answered prompt later)
    (spares : ∀ beat ∈ beats, beat.Spares id)
    (ordered : ((start.play (base ++ later)).now :: beats.map Beat.now).Pairwise (· ≤ ·))
    (onTime : prompt → (start.play (base ++ later)).Prompt beats) :
    Awaits connection response id start base answered prompt (later ++ beats) := by
  induction beats generalizing later with
  | nil =>
      rw [List.append_nil]
      exact awaits
  | cons beat rest ih =>
      rw [List.forall_mem_cons] at spares
      rw [List.map_cons, List.pairwise_cons] at ordered
      have next := awaits.step spares.1 (ordered.1 _ List.mem_cons_self)
        fun holds => (onTime holds).1
      rw [List.append_cons]
      apply ih next spares.2
      · rw [Scene.now_behind]
        exact ordered.2
      · intro holds
        rw [Scene.play_behind]
        exact (onTime holds).2

/-- A call that has come to its end has looked for the last time. -/
theorem decided_of_finished
    (awaits : Awaits connection response id start base answered prompt later)
    (finished : (start.play (base ++ later)).position = .finished result) :
    Decided connection response id start base answered prompt later result := by
  cases awaits with
  | finished position decided =>
      rw [position] at finished
      rw [← Position.finished.inj finished]
      exact decided
  | hears position | listens position | leaves position | ends position =>
      rw [position] at finished
      contradiction

/-- A call that has its turns promptly has come to its end when the wait is over. -/
theorem finished_of_late
    (awaits : Awaits connection response id start base answered prompt later) (holds : prompt)
    (late : latest connection answered < (start.play (base ++ later)).now) :
    ∃ result, (start.play (base ++ later)).position = .finished result := by
  cases awaits with
  | finished position => exact ⟨_, position⟩
  | hears _ _ inTime | listens _ _ inTime | leaves _ inTime | ends _ inTime =>
      exact absurd (inTime holds) (Nat.not_le_of_lt late)

end Awaits

/-- A call that waits for an answer has sent its command, and nobody has read what waits for it. -/
theorem Asks.of_waits {next : Except Error Message → Script}
    (asks : Asks connection command payload response id start past)
    (sent : (start.play past).position = .waits (.reply ticket next)) :
    ∃ waiting, next = connection.replied id ∧ Heard connection response id start past waiting ∧
      InOrder id ticket start.modem (start.moments past) := by
  cases asks with
  | new position =>
      rw [position, connection.script_request] at sent
      contradiction
  | subscribed position =>
      rw [position] at sent
      contradiction
  | sent position heard inOrder =>
      rw [position] at sent
      rcases Wait.reply.inj (Position.waits.inj sent) with ⟨rfl, rfl⟩
      exact ⟨_, rfl, heard, inOrder⟩
  | replied has =>
      rw [sent] at has
      contradiction

/-- When the command goes to the line, the dispatcher knows the subscription. -/
theorem Asks.known_of_transmitted {history : Desk.History} {next : Except Error Message → Script}
    (asks : Asks connection command payload response id start past)
    (ledger : Ledger history (start.play past).modem.desk)
    (sent : (start.play past).position = .waits (.reply ticket next))
    (transmitted : ticket ∈ (transmissions ((start.play past).effects beat)).map Prod.fst) :
    ⟨id, connection.heard response⟩ ∈ (start.play past).modem.subscribers := by
  rcases asks.of_waits sent with ⟨waiting, _, heard, inOrder⟩
  cases beat with
  | turn now memory fresh =>
      rw [Scene.effects, Scene.happens_of_reply sent] at transmitted
      contradiction
  | other moment =>
      rw [Scene.effects_other] at transmitted
      rw [Scene.modem_play] at transmitted ledger ⊢
      exact Unread.known_of_transmitted heard ledger inOrder transmitted

/-- The device has accepted the command, and the call begins to wait for the response. -/
theorem awaits_of_answer {history : Desk.History} {next : Except Error Message → Script}
    {ack : Message} (asks : Asks connection command payload response id start past)
    (ledger : Ledger history (start.play past).modem.desk) (spares : beat.Spares id)
    (sent : (start.play past).position = .waits (.reply ticket next))
    (given : (ticket, .ok (.reply ack)) ∈ Modem.answers ((start.play past).effects beat))
    (accepted : ack.isNak = false) (prompt : Prop) :
    Awaits connection response id start (past ++ [beat]) beat.now prompt [] := by
  rcases asks.of_waits sent with ⟨waiting, rfl, heard, _⟩
  cases beat with
  | turn now memory fresh =>
      rw [Scene.effects, Scene.happens_of_reply sent] at given
      contradiction
  | other moment =>
      have distinct := nodup_answers_step ledger moment.line moment.now moment.event
      have verdict : connection.verdict (.ok ack) = .ok ack := by
        change connection.checkAnswer ack = _
        simp [Connection.checkAnswer, accepted]
      have reached : (start.play (past ++ [.other moment])).position
          = .acts (connection.hearing id) := by
        rw [Scene.play_append_singleton]
        change (start.play past).position.hear _ = _
        rw [Scene.effects_other] at given ⊢
        rw [sent, hear_answer _ distinct given]
        simp only [Connection.replied, verdict]
      have now : (start.play (past ++ [.other moment])).now = moment.now := by
        rw [Scene.play_append_singleton]
        rfl
      rcases heard.other spares with ⟨more, next, _⟩
      have base : past ++ [.other moment] ++ [] = past ++ [.other moment] := List.append_nil _
      rw [← base] at reached next now
      refine .hears reached next ?_ (Or.inl ⟨Nat.le_of_eq now.symm, fun _ => now⟩)
      intro _
      rw [now]
      exact Nat.le_add_right _ _

/-- In every interleaving with what others do, a call that asks for a response misses none. The
dispatcher knows its subscription when it hands the command to the line. Once the device has
accepted the command, the call ends with the first message from the device that the pattern holds
for and that was passed on since the dispatcher took the subscription, also if that was before the
device answered or even before the echo. Only if there was none when the call last looked does it
end with an error: that the response is late, and then the wait is over, or that the modem is
closed. A call that has its turns promptly looks for the last time before the wait is over or just
then, and has ended when the clock runs on. -/
theorem request_misses_no_response (ackTimeout : Duration) (filter : Option RelayFilter)
    (before : List Moment) (time : Instant) (connection : Connection) (command : Command)
    (payload : Bytes) (response : Pattern) (id : SubscriptionId) (beats : List Beat)
    (isNew : ∀ moment ∈ before, ¬ moment.event.Concerns id)
    (spares : ∀ beat ∈ beats, beat.Spares id)
    (ordered : (time :: beats.map Beat.now).Pairwise (· ≤ ·)) :
    let start : Scene := {
      modem := (Modem.run { ackTimeout, filter } before).1
      position := .acts (script .message (connection.request command payload response))
      now := time }
    let news (past : List Beat) :=
      start.modem.news id (connection.heard response) .asked (start.moments past)
    (∀ past beat, past ++ [beat] <+: beats → ∀ ticket next,
      (start.play past).position = .waits (.reply ticket next) →
      ticket ∈ (transmissions ((start.play past).effects beat)).map Prod.fst →
      ⟨id, connection.heard response⟩ ∈ (start.play past).modem.subscribers) ∧
    ∀ early answering later, early ++ answering :: later = beats → ∀ ticket next ack,
      (start.play early).position = .waits (.reply ticket next) →
      (ticket, .ok (.reply ack)) ∈ Modem.answers ((start.play early).effects answering) →
      ack.isNak = false →
      let waitEnds := latest connection answering.now
      (∀ result, (start.play beats).position = .finished result →
        ∃ window look rest, later = window ++ look :: rest ∧
          let seen := early ++ answering :: window
          result = outcome (news seen).head? (start.play seen).modem.isRunning ∧
          (result = .error .readTimeout → waitEnds ≤ look.now) ∧
          (start.Prompt beats → look.now ≤ waitEnds)) ∧
      (start.Prompt beats → waitEnds < (start.play beats).now →
        ∃ result, (start.play beats).position = .finished result) := by
  intro start news
  have new : Asks connection command payload response id start [] :=
    .new rfl ⟨(lacks_new ackTimeout filter id).run isNew, rfl, rfl⟩
  have asks {past rest : List Beat} (split : past ++ rest = beats) :
      Asks connection command payload response id start past := by
    apply new.run
    intro beat mem
    exact spares beat (split ▸ List.mem_append_left rest mem)
  have ledger (past : List Beat) :
      Ledger (Modem.history { ackTimeout, filter } (before ++ start.moments past))
        (start.play past).modem.desk := by
    have whole := ledger_run_new ackTimeout filter (before ++ start.moments past)
    rw [run_append] at whole
    rw [Scene.modem_play]
    exact whole
  refine ⟨?_, ?_⟩
  · rintro past beat ⟨rest, split⟩ ticket next sent transmitted
    rw [List.append_assoc] at split
    exact (asks split).known_of_transmitted (ledger past) sent transmitted
  · intro early answering later split ticket next ack sent given accepted waitEnds
    have whole : early ++ [answering] ++ later = beats := by
      rw [← split]
      simp
    have awaits : Awaits connection response id start (early ++ [answering]) answering.now
        (start.Prompt beats) ([] ++ later) := by
      apply Awaits.run
      · exact awaits_of_answer (asks split) (ledger early) (spares answering (split ▸ by simp))
          sent given accepted _
      · intro beat mem
        exact spares beat (split ▸ List.mem_append_right _ (List.mem_cons_of_mem _ mem))
      · rw [List.append_nil, Scene.play_append_singleton, Scene.now_after]
        refine ordered.sublist ?_
        rw [← split, List.map_append, List.map_cons]
        exact List.Sublist.cons _ (List.sublist_append_right _ _)
      · intro prompt
        rw [List.append_nil]
        rw [← whole] at prompt
        exact Scene.prompt_append prompt
    rw [List.nil_append] at awaits
    refine ⟨?_, ?_⟩
    · intro result finished
      rw [← whole] at finished
      rcases awaits.decided_of_finished finished with
        ⟨window, look, rest, same, found, late, inTime⟩
      rw [List.append_assoc] at found
      exact ⟨window, look, rest, same, found, late, inTime⟩
    · intro prompt passed
      rw [← whole] at passed
      have ended := awaits.finished_of_late prompt passed
      rw [whole] at ended
      exact ended

/-- The device at 01.02.03. -/
def lamp : Connection := ⟨{}, ⟨1, 2, 3⟩, .i2⟩

/-- The ping that asks the device for its level. -/
def ping : Message := lamp.addressed (lamp.direct (.standard 0x10 0) [])

/-- The response comes even before the modem's echo of the command, and the call gets it. -/
theorem request_misses_no_response_early :
    let start : Scene := {
      modem := { ackTimeout := 5 }
      position := .acts (script .message (lamp.request (.standard 0x10 0) [] (.cmd1 0x11))) }
    let early : List Beat := [.turn 0 {} 0, .other ⟨0, .sound, .take⟩, .turn 0 {} 0,
      .other ⟨0, .sound, .take⟩, .other ⟨1, .sound, .arrive (levelReport 1)⟩,
      .other ⟨2, .sound, .arrive (echoOf ping)⟩]
    let answering : Beat := .other ⟨3, .sound, .arrive (Modem.answerTo ping)⟩
    let later : List Beat := [.turn 3 {} 0, .turn 3 {} 0, .turn 3 {} 0]
    let report : Message := .standard ⟨1, 2, 3⟩ ⟨4, 5, 6⟩ ⟨0x0f⟩ (.standard 0x11 1)
    start.Prompt (early ++ answering :: later) ∧
      (start.play (early ++ answering :: later)).position = .finished (.ok (.message report)) ∧
      ∃ window look rest, later = window ++ look :: rest ∧
        outcome (start.modem.news 0 (lamp.heard (.cmd1 0x11)) .asked
            (start.moments (early ++ answering :: window))).head?
          (start.play (early ++ answering :: window)).modem.isRunning = .ok (.message report) ∧
        look.now ≤ latest lamp 3 := by
  intro start early answering later report
  have spares : ∀ beat ∈ early ++ answering :: later, beat.Spares 0 := by
    simp [early, answering, later, Beat.Spares, Modem.Event.Spares, Modem.Event.Concerns]
  have sent : (start.play early).position = .waits (.reply 0 (lamp.replied 0)) := by
    simp only [start, lamp.script_request]
    rfl
  have given : (0, .ok (.reply (.standard ⟨1, 2, 3⟩ .zero (.make .directAck false 0 0)
      (.standard 0x10 0)))) ∈ Modem.answers ((start.play early).effects answering) := by
    simp only [start, lamp.script_request]
    exact List.mem_singleton.mpr rfl
  have finished : (start.play (early ++ answering :: later)).position
      = .finished (.ok (.message report)) := by
    simp only [start, lamp.script_request]
    rfl
  have prompt : start.Prompt (early ++ answering :: later) := by decide +kernel
  have heard := (request_misses_no_response 5 none [] 0 lamp (.standard 0x10 0) [] (.cmd1 0x11) 0
    (early ++ answering :: later) (by simp) spares (by decide)).2 early answering later rfl
    0 (lamp.replied 0) _ sent given rfl
  rcases heard.1 _ finished with ⟨window, look, rest, same, result, _, inTime⟩
  exact ⟨prompt, finished, window, look, rest, same, result.symm, inTime prompt⟩

end Bench

end Powerline
