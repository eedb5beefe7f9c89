import Powerline.Bench.Clock
import Powerline.Proofs.Modem.Moments
import Powerline.Proofs.Modem.Readers

/-!
# A call among others

A call goes on in turns. Between two of its turns anything can happen: others talk to the modem, the
dispatcher works, packets arrive. A scene is the modem and how far the call has come, and every beat
leads to the next scene. A call that the bench carries out as far as it can takes its turns with
nothing in between (`plays_advance`), and one that waits for a message goes on in the same cases
(`look_mail`).
-/

namespace Powerline.Bench

open Modem

/-- How far a call has come. -/
inductive Position where
  | acts (script : Script)
  | waits (wait : Wait)
  | finished (result : Except Error Value)
  /-- It broke off and has no end. -/
  | broken

/-- What a call does when its turn comes. -/
structure Turn where
  /-- What it does to the modem. -/
  events : List Modem.Event := []
  /-- How far it comes. -/
  position : Position
  /-- The subscriptions that it has then. -/
  subscriptions : List SubscriptionId

/-- The modem and a call. -/
structure Scene where
  modem : Modem
  position : Position
  now : Instant := 0
  /-- The subscriptions that end with the call. -/
  subscriptions : List SubscriptionId := []

/-- What happens next. -/
inductive Beat where
  /-- Something that is not the call's doing. -/
  | other (moment : Moment)
  /-- The turn of the call, with what is in its memory and the number under which it would
  subscribe. -/
  | turn (now : Instant) (memory : Memory) (fresh : SubscriptionId)

def Beat.now : Beat → Instant
  | .other moment => moment.now
  | .turn now _ _ => now

/-- What a subscription has at once. -/
def mail? (modem : Modem) (id : SubscriptionId) : Option (Except Error Message) :=
  match modem.mailbox? id with
  | none => some (.error .closed)
  | some mailbox =>
      match mailbox.waiting with
      | message :: _ => some (.ok message)
      | [] => if mailbox.isOpen then none else some (.error .closed)

theorem mail?_eq_poll (bench : Bench) (id : SubscriptionId) :
    mail? bench.modem id = bench.poll id := rfl

/-- One step of a script. -/
def act (modem : Modem) (now : Instant) (memory : Memory) (fresh : SubscriptionId)
    (subscriptions : List SubscriptionId) : Script → Turn
  | .done result => ⟨subscriptions.map .discard, .finished result, []⟩
  | .inspect next => ⟨[], .acts (next memory), subscriptions⟩
  | .store _ next => ⟨[], .acts next, subscriptions⟩
  | .clock next => ⟨[], .acts (next now), subscriptions⟩
  | .command packet next =>
      ⟨[.submit (.packet packet)], .waits (.echo modem.nextTicket next), subscriptions⟩
  | .send message next =>
      ⟨[.submit (.message message)], .waits (.reply modem.nextTicket next), subscriptions⟩
  | .subscribe pattern capacity next =>
      if capacity > Mailbox.maxCapacity then ⟨subscriptions.map .discard, .broken, []⟩
      else ⟨[.subscribe fresh pattern capacity], .acts (next fresh), fresh :: subscriptions⟩
  | .discard id next => ⟨[.discard id], .acts next, subscriptions.erase id⟩
  | .receive id timeout next =>
      match mail? modem id with
      | some result => ⟨[.receive id], .acts (next result), subscriptions⟩
      | none =>
          let late := next (.error .readTimeout)
          if timeout = some 0 then ⟨[], .acts late, subscriptions⟩
          else
            let deadline := timeout.bind (Instant.after? now)
            ⟨[], .waits (.mail id deadline (.receive id timeout next) late), subscriptions⟩
  | .readTable id timeout reading next =>
      let (reading, complete, count) := absorb reading (modem.waitingFor id)
      let events := List.replicate count (.receive id)
      let late := next (.error .readTimeout) reading
      if complete then ⟨events, .acts (next (.ok ()) reading), subscriptions⟩
      else if !modem.isListening id then
        ⟨events, .acts (next (.error .closed) reading), subscriptions⟩
      else if timeout = 0 then ⟨events, .acts late, subscriptions⟩
      else
        let resume := Dialogue.readTable id timeout reading next
        ⟨events, .waits (.mail id (Instant.after? now timeout) resume late), subscriptions⟩

/-- Where a call that waits comes when its turn comes: it goes on if there is something for it or
if it has waited too long. -/
def Wait.look (modem : Modem) (now : Instant) (wait : Wait) : Position :=
  match wait with
  | .mail id deadline resume late =>
      if (mail? modem id).isSome then .acts resume
      else if deadline.any (· ≤ now) then .acts late
      else .waits wait
  | .echo .. | .reply .. => .waits wait

/-- On the bench, a call that waits for a message goes on in the same cases. -/
theorem look_mail (bench : Bench) (caller : Caller) (id : SubscriptionId)
    (deadline : Option Instant) (resume late : Script) :
    let wait : Wait := .mail id deadline resume late
    wait.look bench.modem bench.now
      = if (bench.resumable? ⟨caller, wait⟩).isSome then .acts resume
        else if bench.isLate ⟨caller, wait⟩ then .acts late
        else .waits wait := by
  intro wait
  simp only [wait, Wait.look, mail?_eq_poll, resumable?]
  cases bench.poll id <;> rfl

/-- How far a call has come when the modem has given some results. -/
def Position.hear (given : List (Ticket × Except Error Answer)) (position : Position) :
    Position :=
  match position with
  | .waits wait =>
      match given.findSome? fun (ticket, result) => wait.resumeWith? ticket result with
      | some script => .acts script
      | none => position
  | .acts _ | .finished _ | .broken => position

namespace Position

theorem hear_mail (id : SubscriptionId) (deadline : Option Instant) (resume late : Script)
    (given : List (Ticket × Except Error Answer)) :
    (waits (.mail id deadline resume late)).hear given = waits (.mail id deadline resume late) := by
  have nothing : given.findSome? (fun (ticket, result) =>
      Wait.resumeWith? ticket result (.mail id deadline resume late)) = none := by
    simp [List.findSome?_eq_none_iff, Wait.resumeWith?]
  simp only [hear, nothing]

/-- Whatever result a message gets, the script goes on with it. -/
theorem hear_reply (ticket : Ticket) (next : Except Error Message → Script)
    (given : List (Ticket × Except Error Answer)) :
    (waits (.reply ticket next)).hear given = waits (.reply ticket next) ∨
      ∃ answer, (waits (.reply ticket next)).hear given = acts (next answer) := by
  cases found : given.findSome? (fun (other, result) =>
      Wait.resumeWith? other result (.reply ticket next)) with
  | none => simp only [hear, found, true_or]
  | some script =>
      right
      rcases List.exists_of_findSome?_eq_some found with ⟨⟨other, result⟩, _, resumed⟩
      simp only [hear, found]
      simp only [Wait.resumeWith?] at resumed
      split at resumed
      · split at resumed <;> exact ⟨_, congrArg acts (Option.some.inj resumed).symm⟩
      · contradiction

/-- A message that got its answer goes on with that. -/
theorem hear_answer {ticket : Ticket} {ack : Message}
    {given : List (Ticket × Except Error Answer)}
    (next : Except Error Message → Script) (distinct : (given.map Prod.fst).Nodup)
    (mem : (ticket, .ok (.reply ack)) ∈ given) :
    (waits (.reply ticket next)).hear given = acts (next (.ok ack)) := by
  have found : given.findSome? (fun (other, result) =>
      Wait.resumeWith? other result (.reply ticket next)) = some (next (.ok ack)) := by
    induction given with
    | nil => contradiction
    | cons first rest ih =>
        rw [List.map_cons, List.nodup_cons] at distinct
        rcases List.mem_cons.mp mem with rfl | later
        · simp [Wait.resumeWith?]
        · have apart : ticket ≠ first.1 := by
            rintro rfl
            exact distinct.1 (List.mem_map.mpr ⟨_, later, rfl⟩)
          simp only [List.findSome?_cons, Wait.resumeWith?, apart, ↓reduceIte]
          exact ih distinct.2 later
  simp only [hear, found]

end Position

namespace Scene

/-- What the call does if its turn comes. -/
def turn (scene : Scene) (now : Instant) (memory : Memory) (fresh : SubscriptionId) : Turn :=
  match scene.position with
  | .acts script => act scene.modem now memory fresh scene.subscriptions script
  | .waits wait => ⟨[], wait.look scene.modem now, scene.subscriptions⟩
  | position => ⟨[], position, scene.subscriptions⟩

/-- What happens to the modem. -/
def happens (scene : Scene) : Beat → List Moment
  | .other moment => [moment]
  | .turn now memory fresh => (scene.turn now memory fresh).events.map (⟨now, .sound, ·⟩)

def effects (scene : Scene) (beat : Beat) : List Effect :=
  (scene.modem.run (scene.happens beat)).2

def after (scene : Scene) (beat : Beat) : Scene :=
  let modem := (scene.modem.run (scene.happens beat)).1
  let given := Modem.answers (scene.effects beat)
  match beat with
  | .other moment => { scene with modem, position := scene.position.hear given, now := moment.now }
  | .turn now memory fresh =>
      let turn := scene.turn now memory fresh
      { modem, position := turn.position.hear given, now, subscriptions := turn.subscriptions }

def play (scene : Scene) : List Beat → Scene
  | [] => scene
  | beat :: rest => (scene.after beat).play rest

def moments (scene : Scene) : List Beat → List Moment
  | [] => []
  | beat :: rest => scene.happens beat ++ (scene.after beat).moments rest

/-- Until when the clock may run before the call has its turn: not on while the call can do
something, and not past the end of a wait. -/
def limit? (scene : Scene) : Option Instant :=
  match scene.position with
  | .acts _ => some scene.now
  | .waits (.mail id deadline _ _) =>
      if (mail? scene.modem id).isSome then some scene.now
      else some (deadline.getD Instant.last)
  | .waits (.echo ..) | .waits (.reply ..) | .finished _ | .broken => none

/-- The call always has its turn before the clock runs too far. -/
def Prompt (scene : Scene) : List Beat → Prop
  | [] => True
  | beat :: rest =>
      (∀ limit ∈ scene.limit?, beat.now ≤ limit) ∧ (scene.after beat).Prompt rest

instance decidablePrompt (scene : Scene) : (beats : List Beat) → Decidable (scene.Prompt beats)
  | [] => inferInstanceAs (Decidable True)
  | beat :: rest =>
      have := decidablePrompt (scene.after beat) rest
      inferInstanceAs (Decidable (_ ∧ _))

variable {scene : Scene} {beats past later : List Beat}

theorem modem_after (scene : Scene) (beat : Beat) :
    (scene.after beat).modem = (scene.modem.run (scene.happens beat)).1 := by
  cases beat <;> rfl

theorem now_after (scene : Scene) (beat : Beat) : (scene.after beat).now = beat.now := by
  cases beat <;> rfl

theorem modem_play (scene : Scene) (beats : List Beat) :
    (scene.play beats).modem = (scene.modem.run (scene.moments beats)).1 := by
  induction beats generalizing scene with
  | nil => rfl
  | cons beat rest ih => simp only [play, moments, ih, run_append, modem_after]

theorem play_append (scene : Scene) (beats later : List Beat) :
    scene.play (beats ++ later) = (scene.play beats).play later := by
  induction beats generalizing scene with
  | nil => rfl
  | cons beat rest ih => exact ih (scene.after beat)

theorem moments_append (scene : Scene) (beats later : List Beat) :
    scene.moments (beats ++ later) = scene.moments beats ++ (scene.play beats).moments later := by
  induction beats generalizing scene with
  | nil => rfl
  | cons beat rest ih => simp only [List.cons_append, moments, ih, play, List.append_assoc]

theorem play_append_singleton (scene : Scene) (past : List Beat) (beat : Beat) :
    scene.play (past ++ [beat]) = (scene.play past).after beat := by
  rw [play_append]
  rfl

theorem moments_append_singleton (scene : Scene) (past : List Beat) (beat : Beat) :
    scene.moments (past ++ [beat]) = scene.moments past ++ (scene.play past).happens beat := by
  rw [moments_append, moments, moments, List.append_nil]

theorem play_behind (scene : Scene) (base later : List Beat) (beat : Beat) :
    scene.play (base ++ (later ++ [beat])) = (scene.play (base ++ later)).after beat := by
  rw [← List.append_assoc, play_append_singleton]

theorem now_behind (scene : Scene) (base later : List Beat) (beat : Beat) :
    (scene.play (base ++ (later ++ [beat]))).now = beat.now := by
  rw [play_behind, now_after]

theorem happens_of_reply {ticket : Ticket} {next : Except Error Message → Script}
    (position : scene.position = .waits (.reply ticket next)) (now : Instant) (memory : Memory)
    (fresh : SubscriptionId) :
    scene.happens (.turn now memory fresh) = [] := by
  simp only [happens, turn, position]
  rfl

theorem effects_other (scene : Scene) (moment : Moment) :
    scene.effects (.other moment)
      = (Modem.step moment.line moment.now scene.modem moment.event).2 := by
  simp [effects, happens, run]

theorem prompt_append (prompt : scene.Prompt (past ++ later)) :
    (scene.play past).Prompt later := by
  induction past generalizing scene with
  | nil => exact prompt
  | cons beat rest ih => exact ih prompt.2

end Scene

/-! ### The bench -/

/-- Only the modem has changed, by these events, and the results that it gave are noted. -/
structure Follows (bench : Bench) (events : List Modem.Event) (next : Bench) : Prop where
  modem : next.modem = (bench.modem.run (events.map (⟨bench.now, .sound, ·⟩))).1
  answers : next.answers
    = bench.answers ++ Modem.answers (bench.modem.run (events.map (⟨bench.now, .sound, ·⟩))).2
  time : next.time = bench.time
  calls : next.calls = bench.calls
  completed : next.completed = bench.completed

def isCalls : Modem.Event → Bool
  | .submit _ | .subscribe _ _ _ | .discard _ | .receive _ => true
  | _ => false

variable {bench next final : Bench} {event : Modem.Event} {events later : List Modem.Event}

theorem follows_note (bench : Bench) (effects : List Effect) :
    let next := effects.foldl note bench
    next.modem = bench.modem ∧ next.answers = bench.answers ++ Modem.answers effects ∧
      next.time = bench.time ∧ next.calls = bench.calls ∧ next.completed = bench.completed := by
  induction effects generalizing bench with
  | nil => simp
  | cons effect rest ih =>
      rcases ih (bench.note effect) with ⟨modem, answers, time, calls, completed⟩
      simp only [List.foldl_cons, modem, answers, time, calls, completed]
      cases effect with
      | transmit ticket packet failure => cases failure <;> exact ⟨rfl, rfl, rfl, rfl, rfl⟩
      | answer ticket result => simp [note]
      | receive | shut => exact ⟨rfl, rfl, rfl, rfl, rfl⟩

theorem follows_happen (bench : Bench) (event : Modem.Event) (own : isCalls event = true) :
    Follows bench [event] (bench.happen event) := by
  have line : bench.modem.step (fun _ => bench.failure) bench.now event
      = bench.modem.step .sound bench.now event := by
    cases event <;> first | rfl | contradiction
  rcases follows_note { bench with modem := (bench.modem.step .sound bench.now event).1 }
    (bench.modem.step .sound bench.now event).2 with ⟨modem, answers, time, calls, completed⟩
  unfold happen
  rw [line]
  refine ⟨modem, ?_, time, calls, completed⟩
  rw [answers]
  simp [run]

theorem follows_nil (bench : Bench) : Follows bench [] bench :=
  ⟨rfl, (List.append_nil _).symm, rfl, rfl, rfl⟩

theorem Follows.append (first : Follows bench events next) (second : Follows next later final) :
    Follows bench (events ++ later) final := by
  have now : next.now = bench.now := congrArg Duration.ofMilliseconds first.time
  rcases second with ⟨modem, answers, time, calls, completed⟩
  rw [now, first.modem] at modem answers
  refine ⟨?_, ?_, time.trans first.time, calls.trans first.calls, completed.trans first.completed⟩
  · rw [List.map_append, run_append, modem]
  · rw [List.map_append, run_append, answers, first.answers, answers_append, List.append_assoc]

theorem follows_receive (bench : Bench) (id : SubscriptionId) (count : Nat) :
    Follows bench (List.replicate count (.receive id)) (bench.receive id count) := by
  induction count generalizing bench with
  | zero => exact follows_nil bench
  | succ count ih => exact (follows_happen bench _ rfl).append (ih (bench.happen (.receive id)))

theorem follows_discardAll (bench : Bench) (ids : List SubscriptionId) :
    Follows bench (ids.map .discard) (bench.discardAll ids) := by
  induction ids generalizing bench with
  | nil => exact follows_nil bench
  | cons id rest ih => exact (follows_happen bench _ rfl).append (ih (bench.happen (.discard id)))

/-- What the bench shows of a call that has gone on as far as it can. -/
inductive Shows (bench : Bench) (caller : Caller) (final : Bench) : Scene → Prop where
  | parked {modem : Modem} {now : Instant} {wait : Wait} {subscriptions : List SubscriptionId}
      {given : List (Ticket × Except Error Answer)}
      (answers : final.answers = bench.answers ++ given)
      (calls : final.calls = bench.calls ++ [⟨{ caller with subscriptions }, wait⟩])
      (completed : final.completed = bench.completed) :
      Shows bench caller final ⟨modem, (Position.waits wait).hear given, now, subscriptions⟩
  | finished {modem : Modem} {now : Instant} {result : Except Error Value}
      (answers : final.answers = bench.answers) (calls : final.calls = bench.calls)
      (completed : final.completed = bench.completed ++ [⟨caller.number, bench.time, result⟩]) :
      Shows bench caller final ⟨modem, .finished result, now, []⟩
  | broken {modem : Modem} {now : Instant} (answers : final.answers = bench.answers)
      (calls : final.calls = bench.calls) (completed : final.completed = bench.completed) :
      Shows bench caller final ⟨modem, .broken, now, []⟩

/-- The call takes turns, one right after the other, until the bench is as given. -/
def Plays (bench : Bench) (caller : Caller) (script : Script) (final : Bench) : Prop :=
  ∃ beats : List Beat, (∀ beat ∈ beats, ∃ memory fresh, beat = .turn bench.now memory fresh) ∧
    let scene := Scene.play ⟨bench.modem, .acts script, bench.now, caller.subscriptions⟩ beats
    final.modem = scene.modem ∧ Shows bench caller final scene

theorem answers_receive (modem : Modem) (id : SubscriptionId) :
    Modem.answers (modem.receive id).2 = [] := by
  unfold Modem.receive
  split <;> rfl

/-- Only a request can bring a result at once. -/
theorem Follows.answers_eq (follows : Follows bench events next)
    (quiet : ∀ event ∈ events, ∀ request, event ≠ .submit request)
    (own : ∀ event ∈ events, isCalls event = true) : next.answers = bench.answers := by
  have silent (modem : Modem) :
      Modem.answers (modem.run (events.map (⟨bench.now, .sound, ·⟩))).2 = [] := by
    clear follows
    induction events generalizing modem with
    | nil => rfl
    | cons event rest ih =>
        rw [List.forall_mem_cons] at quiet own
        simp only [List.map_cons, run, answers_append, ih quiet.2 own.2, List.append_nil]
        cases event with
        | receive id => exact answers_receive modem id
        | subscribe | discard => rfl
        | submit request => exact absurd rfl (quiet.1 request)
        | unsubscribe | close | take | arrive | lineEnd | tick | abandon => simp [isCalls] at own
  rw [follows.answers, silent, List.append_nil]

theorem isListening_receive (bench : Bench) (id : SubscriptionId) (count : Nat) :
    (bench.receive id count).modem.isListening id = bench.modem.isListening id := by
  induction count generalizing bench with
  | zero => rfl
  | succ count ih =>
      have once : (bench.modem.receive id).1.isListening id = bench.modem.isListening id := by
        unfold Modem.receive
        split
        · simp only [isListening, updateMailbox, List.any_map]
          congr 1
          funext mailbox
          by_cases owner : mailbox.id = id <;> simp [owner]
        · rfl
      have happened := (follows_happen bench (.receive id) rfl).modem
      have next : (bench.happen (.receive id)).modem = (bench.modem.receive id).1 := happened
      simp only [receive, ih, next, once]

/-- What a bench shows of a call does not depend on the turns before. -/
theorem Shows.behind {caller : Caller} {subscriptions : List SubscriptionId} {scene : Scene}
    (shows : Shows next { caller with subscriptions } final scene)
    (follows : Follows bench events next) (same : next.answers = bench.answers) :
    Shows bench caller final scene := by
  cases shows with
  | parked answers calls completed =>
      rw [same] at answers
      rw [follows.calls] at calls
      rw [follows.completed] at completed
      exact .parked answers calls completed
  | finished answers calls completed =>
      rw [same] at answers
      rw [follows.calls] at calls
      rw [follows.completed, follows.time] at completed
      exact .finished answers calls completed
  | broken answers calls completed =>
      rw [same] at answers
      rw [follows.calls] at calls
      rw [follows.completed] at completed
      exact .broken answers calls completed

/-- A turn after which the call can go on, and what it does then. -/
theorem Plays.behind {caller : Caller} {script resumed : Script}
    {subscriptions : List SubscriptionId}
    (turn : act bench.modem bench.now bench.memory bench.nextSubscription caller.subscriptions
      script = ⟨events, .acts resumed, subscriptions⟩)
    (follows : Follows bench events next) (same : next.answers = bench.answers)
    (plays : Plays next { caller with subscriptions } resumed final) :
    Plays bench caller script final := by
  have now : next.now = bench.now := congrArg Duration.ofMilliseconds follows.time
  rcases plays with ⟨beats, turns, modem, shows⟩
  rw [now] at turns modem shows
  have after : Scene.after ⟨bench.modem, .acts script, bench.now, caller.subscriptions⟩
      (.turn bench.now bench.memory bench.nextSubscription)
        = ⟨next.modem, .acts resumed, bench.now, subscriptions⟩ := by
    simp only [Scene.after, Scene.effects, Scene.happens, Scene.turn, turn, ← follows.modem]
    rfl
  refine ⟨.turn bench.now bench.memory bench.nextSubscription :: beats, ?_, ?_⟩
  · rw [List.forall_mem_cons]
    exact ⟨⟨bench.memory, bench.nextSubscription, rfl⟩, turns⟩
  · simp only [Scene.play, after]
    exact ⟨modem, shows.behind follows same⟩

/-- A turn after which the call waits, has ended or has broken off. -/
theorem plays_of_last {caller : Caller} {script : Script} {position : Position}
    {subscriptions : List SubscriptionId}
    (turn : act bench.modem bench.now bench.memory bench.nextSubscription caller.subscriptions
      script = ⟨events, position, subscriptions⟩)
    (follows : Follows bench events next) (modem : final.modem = next.modem)
    (shows : Shows bench caller final ⟨next.modem, position.hear (Modem.answers
      (bench.modem.run (events.map (⟨bench.now, .sound, ·⟩))).2), bench.now, subscriptions⟩) :
    Plays bench caller script final := by
  refine ⟨[.turn bench.now bench.memory bench.nextSubscription], ?_, ?_⟩
  · intro beat mem
    exact ⟨bench.memory, bench.nextSubscription, List.mem_singleton.mp mem⟩
  · simp only [Scene.play, Scene.after, Scene.effects, Scene.happens, Scene.turn, turn,
      ← follows.modem]
    exact ⟨modem, shows⟩

theorem plays_finish (bench : Bench) (caller : Caller) (result : Except Error Value) :
    Plays bench caller (.done result) (bench.finish caller result) := by
  have follows := follows_discardAll bench caller.subscriptions
  have quiet := follows.answers_eq (by simp) (by simp [isCalls])
  have fields : (bench.finish caller result).modem = (bench.discardAll caller.subscriptions).modem ∧
      (bench.finish caller result).answers = (bench.discardAll caller.subscriptions).answers ∧
      (bench.finish caller result).calls = (bench.discardAll caller.subscriptions).calls ∧
      (bench.finish caller result).completed
        = (bench.discardAll caller.subscriptions).completed
          ++ [⟨caller.number, (bench.discardAll caller.subscriptions).time, result⟩] := by
    unfold finish
    split <;> exact ⟨rfl, rfl, rfl, rfl⟩
  rcases fields with ⟨modem, answers, calls, completed⟩
  refine plays_of_last rfl follows modem (.finished ?_ ?_ ?_)
  · rw [answers, quiet]
  · rw [calls, follows.calls]
  · rw [completed, follows.completed, follows.time]

/-- Carrying a call out on the bench is to take its turns one right after the other. -/
theorem plays_advance (bench : Bench) (caller : Caller) (script : Script) :
    Plays bench caller script (bench.advance caller script) := by
  induction script generalizing bench caller with
  | done result => exact plays_finish bench caller result
  | inspect next ih => exact Plays.behind rfl (follows_nil bench) rfl (ih bench.memory bench caller)
  | store memory next ih =>
      have follows : Follows bench [] { bench with memory } :=
        ⟨rfl, (List.append_nil _).symm, rfl, rfl, rfl⟩
      exact Plays.behind rfl follows rfl (ih { bench with memory } caller)
  | clock next ih => exact Plays.behind rfl (follows_nil bench) rfl (ih bench.now bench caller)
  | command packet next ih =>
      have follows := follows_happen bench (.submit (.packet packet)) rfl
      exact plays_of_last rfl follows rfl
        (.parked follows.answers (congrArg (· ++ _) follows.calls) follows.completed)
  | send message next ih =>
      have follows := follows_happen bench (.submit (.message message)) rfl
      exact plays_of_last rfl follows rfl
        (.parked follows.answers (congrArg (· ++ _) follows.calls) follows.completed)
  | subscribe pattern capacity next ih =>
      by_cases full : capacity > Mailbox.maxCapacity
      · have follows := follows_discardAll bench caller.subscriptions
        have quiet := follows.answers_eq (by simp) (by simp [isCalls])
        simp only [advance, full, ↓reduceIte]
        exact plays_of_last (if_pos full) follows rfl
          (.broken quiet follows.calls follows.completed)
      · -- The bench counts subscriptions, which a scene does not show.
        have happened := follows_happen bench
          (.subscribe bench.nextSubscription pattern capacity) rfl
        have follows : Follows bench [.subscribe bench.nextSubscription pattern capacity]
            { bench.happen (.subscribe bench.nextSubscription pattern capacity) with
              nextSubscription := bench.nextSubscription + 1 } :=
          ⟨happened.modem, happened.answers, happened.time, happened.calls, happened.completed⟩
        simp only [advance, full, ↓reduceIte]
        exact Plays.behind (if_neg full) follows
          (happened.answers_eq (by simp) (by simp [isCalls])) (ih _ _ _)
  | discard id next ih =>
      have follows := follows_happen bench (.discard id) rfl
      exact Plays.behind rfl follows (follows.answers_eq (by simp) (by simp [isCalls])) (ih _ _)
  | receive id timeout next ih =>
      cases found : bench.poll id with
      | some result =>
          have mail : mail? bench.modem id = some result := (mail?_eq_poll bench id).trans found
          have follows := follows_receive bench id 1
          simp only [advance, found]
          exact Plays.behind (by simp only [act, mail]; rfl) follows
            (follows.answers_eq (by simp) (by simp [isCalls])) (ih _ _ _)
      | none =>
          have mail : mail? bench.modem id = none := (mail?_eq_poll bench id).trans found
          by_cases hurried : timeout = some 0
          · simp only [advance, found, hurried, ↓reduceIte]
            exact Plays.behind (by simp only [act, mail, ↓reduceIte]) (follows_nil bench) rfl
              (ih _ _ _)
          · simp only [advance, found, hurried, ↓reduceIte]
            exact plays_of_last (by simp only [act, mail, hurried, ↓reduceIte]; rfl)
              (follows_nil bench) rfl (.parked (List.append_nil _).symm rfl rfl)
  | readTable id timeout reading next ih =>
      have follows := follows_receive bench id (absorb reading (bench.waiting id)).2.2
      have quiet := follows.answers_eq (by simp) (by simp [isCalls])
      have listens := isListening_receive bench id (absorb reading (bench.waiting id)).2.2
      cases absorbed : absorb reading (bench.waiting id) with
      | mk read rest =>
          rcases rest with ⟨complete, count⟩
          have same : absorb reading (bench.modem.waitingFor id) = (read, complete, count) :=
            absorbed
          rw [absorbed] at follows quiet listens
          simp only [advance, absorbed, listens]
          split_ifs with done deaf hurried
          · exact Plays.behind (by simp only [act, same, done, ↓reduceIte]) follows quiet
              (ih _ _ _ _)
          · exact Plays.behind (by simp only [act, same, done, deaf, ↓reduceIte]; rfl) follows quiet
              (ih _ _ _ _)
          · exact Plays.behind (by simp only [act, same, done, deaf, hurried, ↓reduceIte]; rfl)
              follows quiet (ih _ _ _ _)
          · refine plays_of_last (by simp only [act, same, done, deaf, hurried, ↓reduceIte]; rfl)
              follows rfl (.parked follows.answers ?_ follows.completed)
            have late : (bench.receive id count).deadline? timeout
                = Instant.after? bench.now timeout := by
              unfold deadline? now
              rw [follows.time]
            rw [late]
            exact congrArg (· ++ _) follows.calls

end Powerline.Bench
