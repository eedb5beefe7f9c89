import Powerline.Bench.Step
import Powerline.Proofs.Modem.Moments
import Powerline.Proofs.Modem.Order
import Powerline.Proofs.Modem.Subscriptions

/-!
# Subscribers do not interfere

A view shows some of the subscriptions of a modem and leaves the others out. What it shows of a
run is a run itself (`View.run_moments`): the events of the hidden subscriptions are left out, and
so are the moments at which their controls are taken from the channel. So a run with one more
subscription shows all others the same transmissions, results and messages as the run without it. A
subscription is a caller, though: a modem that all other callers have left works on for it.
-/

namespace Powerline.Modem

/-- Shows some subscriptions, each under a number of its own, and hides the others. -/
structure View where
  see : SubscriptionId → Option SubscriptionId
  faithful : ∀ {left right shown : SubscriptionId},
    see left = some shown → see right = some shown → left = right

namespace View

/-- Hides one subscription; those behind it move up. -/
def without (hidden : SubscriptionId) : View where
  see id := if id < hidden then some id else if id = hidden then none else some (id - 1)
  faithful := by
    intro left right shown first second
    grind

/-- What a view shows of a control. -/
def control? (view : View) : Control → Option Control
  | .subscribe id pattern => (view.see id).map (.subscribe · pattern)
  | .unsubscribe id => (view.see id).map .unsubscribe
  | .request ticket request => some (.request ticket request)
  | .close => some .close

/-- What a view shows of a subscriber. -/
def subscriber? (view : View) (subscriber : Subscriber) : Option Subscriber :=
  (view.see subscriber.id).map fun id => { subscriber with id }

/-- What a view shows of a mailbox. -/
def mailbox? (view : View) (mailbox : Mailbox) : Option Mailbox :=
  (view.see mailbox.id).map fun id => { mailbox with id }

/-- What a view shows of a modem. -/
def modem (view : View) (modem : Modem) : Modem :=
  { modem with
    controls := modem.controls.filterMap view.control?
    subscribers := modem.subscribers.filterMap view.subscriber?
    mailboxes := modem.mailboxes.filterMap view.mailbox? }

/-- What a view shows of an effect. -/
def effect? (view : View) : Effect → Option Effect
  | .receive id message => (view.see id).map (.receive · message)
  | .transmit ticket packet failure => some (.transmit ticket packet failure)
  | .answer ticket result => some (.answer ticket result)
  | .shut => some .shut

/-- What a view shows of an event. That no caller is left is shown where it ends the work of the
dispatcher, which takes all controls first. -/
def event? (view : View) (modem : Modem) : Event → Option Event
  | .subscribe id pattern capacity => (view.see id).map (.subscribe · pattern capacity)
  | .unsubscribe id => (view.see id).map .unsubscribe
  | .discard id => (view.see id).map .discard
  | .receive id => (view.see id).map .receive
  | .take =>
      match modem.controls with
      | [] => some .take
      | control :: _ => (view.control? control).map fun _ => .take
  | .abandon => if modem.controls.isEmpty then some .abandon else none
  | .submit request => some (.submit request)
  | .close => some .close
  | .arrive packet => some (.arrive packet)
  | .lineEnd => some .lineEnd
  | .tick => some .tick

/-- What a view shows of a moment. -/
def moment? (view : View) (modem : Modem) (moment : Moment) : Option Moment :=
  (view.event? modem moment.event).map fun event => { moment with event }

/-- What a view shows of a run. -/
def moments (view : View) (modem : Modem) : List Moment → List Moment
  | [] => []
  | moment :: rest =>
      (view.moment? modem moment).toList
        ++ view.moments (step moment.line moment.now modem moment.event).1 rest

/-- What a view shows of what has been done. -/
def handled (view : View) (handled : Modem × List Effect) : Modem × List Effect :=
  (view.modem handled.1, handled.2.filterMap view.effect?)

variable {view : View} {line : Line} {now : Instant} {state : Modem} {id shown : SubscriptionId}

theorem mailbox?_post (view : View) (mailbox : Mailbox) (message : Message) :
    view.mailbox? (mailbox.post message) = (view.mailbox? mailbox).map (·.post message) := by
  unfold Mailbox.post Mailbox.hasRoom
  cases seen : view.see mailbox.id with
  | none => split <;> simp [mailbox?, seen]
  | some shown => split <;> next room => simpa [mailbox?, seen] using room

/-- Changing what is shown is the same as showing what was changed. -/
theorem filterMap_map {α : Type} {show? : α → Option α} {change shownChange : α → α}
    (items : List α) (commutes : ∀ item, show? (change item) = (show? item).map shownChange) :
    (items.map change).filterMap show? = (items.filterMap show?).map shownChange := by
  rw [List.filterMap_map, List.map_filterMap]
  congr 1
  funext item
  exact commutes item

theorem unanswered_modem (view : View) (state : Modem) :
    (view.modem state).unanswered = state.unanswered := by
  simp only [unanswered, modem, List.filterMap_filterMap]
  congr 2
  funext control
  cases control with
  | subscribe id pattern | unsubscribe id => cases seen : view.see id <;> simp [control?, seen]
  | request | close => rfl

theorem halt_modem (view : View) (state : Modem) :
    (view.modem state).halt = view.handled state.halt := by
  have mailboxes : (state.mailboxes.map fun mailbox => { mailbox with isOpen := false }).filterMap
      view.mailbox?
        = (state.mailboxes.filterMap view.mailbox?).map
          fun mailbox => { mailbox with isOpen := false } := by
    apply filterMap_map
    intro mailbox
    cases seen : view.see mailbox.id <;> simp [mailbox?, seen]
  have answers :
      (state.unanswered.map fun ticket => Effect.answer ticket (.error .closed)).filterMap
        view.effect? = state.unanswered.map fun ticket => .answer ticket (.error .closed) := by
    simp [List.filterMap_map, Function.comp_def, effect?]
  simp only [halt, handled, unanswered_modem, answers]
  simp only [modem, mailboxes, List.filterMap_nil]

theorem transmitFirst_modem (view : View) (state : Modem) (requests : List (Ticket × Request)) :
    transmitFirst line now (view.modem state) requests
      = view.handled (transmitFirst line now state requests) := by
  induction requests generalizing line with
  | nil => rfl
  | cons first rest ih =>
      rcases first with ⟨ticket, request⟩
      have timeout : (view.modem state).ackTimeout = state.ackTimeout := rfl
      cases written : line 0 with
      | some failure =>
          simp only [transmitFirst, written, ih]
          rfl
      | none =>
          cases ends : Instant.after? now state.ackTimeout with
          | some deadline =>
              simp only [transmitFirst, written, timeout, ends]
              rfl
          | none =>
              have halted := view.halt_modem { state with queue := (ticket, request) :: rest }
              simp only [transmitFirst, written, timeout, ends]
              exact congrArg (fun done : Modem × List Effect =>
                (done.1, Effect.transmit ticket request.toPacket none :: done.2)) halted

theorem proceed_modem (view : View) (done : Modem × List Effect) :
    proceed line now (view.handled done) = view.handled (proceed line now done) := by
  have started : startNext line now (view.modem done.1)
      = view.handled (startNext line now done.1) := by
    have talking : (view.modem done.1).inFlight = done.1.inFlight := rfl
    unfold startNext
    rw [talking]
    split
    · rfl
    · exact view.transmitFirst_modem done.1 done.1.queue
  change ((startNext line now (view.modem done.1)).1,
    done.2.filterMap view.effect? ++ (startNext line now (view.modem done.1)).2) = _
  rw [started]
  simp only [proceed, handled, List.filterMap_append]

theorem handleEcho_modem (view : View) (state : Modem) (packet : Packet) :
    (view.modem state).handleEcho now packet = view.handled (state.handleEcho now packet) := by
  have talking : (view.modem state).inFlight = state.inFlight := rfl
  have timeout : (view.modem state).ackTimeout = state.ackTimeout := rfl
  unfold handleEcho
  rw [talking, timeout]
  repeat' split
  all_goals first
    | exact view.halt_modem state
    | rfl

theorem handleAnswer_modem (view : View) (state : Modem) (message : Message) :
    (view.modem state).handleAnswer message = view.handled (state.handleAnswer message) := by
  have talking : (view.modem state).inFlight = state.inFlight := rfl
  unfold handleAnswer
  rw [talking]
  repeat' split
  all_goals rfl

theorem expire_modem (view : View) (state : Modem) :
    (view.modem state).expire now = view.handled (state.expire now) := by
  have talking : (view.modem state).inFlight = state.inFlight := rfl
  unfold expire
  rw [talking]
  repeat' split
  all_goals rfl

/-- Any subscription is hidden and another one than this, or it is shown, and under the same number
only if it is this one. -/
theorem see_or (seen : view.see id = some shown) (other : SubscriptionId) :
    (view.see other = none ∧ other ≠ id) ∨
      ∃ shownOther, view.see other = some shownOther ∧ (shownOther = shown ↔ other = id) := by
  cases found : view.see other with
  | none =>
      refine Or.inl ⟨rfl, ?_⟩
      rintro rfl
      rw [found] at seen
      contradiction
  | some shownOther =>
      refine Or.inr ⟨shownOther, rfl, ?_, ?_⟩
      · rintro rfl
        exact view.faithful found seen
      · rintro rfl
        rw [found] at seen
        exact Option.some.inj seen

theorem isListening_modem (seen : view.see id = some shown) (state : Modem) :
    (view.modem state).isListening shown = state.isListening id := by
  simp only [isListening, modem, List.any_filterMap]
  congr 1
  funext mailbox
  rcases see_or seen mailbox.id with ⟨found, apart⟩ | ⟨other, found, same⟩
  · simp [mailbox?, found, apart]
  · simp [mailbox?, found, same]

/-- A view does not change who of the shown subscribers stays after a delivery. -/
theorem filter_listening_modem (view : View) (state : Modem) (message : Message) :
    (state.subscribers.filterMap view.subscriber?).filter (fun subscriber =>
      !subscriber.pattern.holds message || (view.modem state).isListening subscriber.id)
      = (state.subscribers.filter fun subscriber =>
        !subscriber.pattern.holds message || state.isListening subscriber.id).filterMap
        view.subscriber? := by
  rw [List.filter_filterMap, List.filterMap_filter]
  congr 1
  funext subscriber
  cases seen : view.see subscriber.id with
  | none => simp [subscriber?, seen]
  | some shown => simp [subscriber?, seen, Option.filter_some, isListening_modem seen]

/-- A view does not change whether a shown subscription wants a message. -/
theorem any_subscribers_modem (seen : view.see id = some shown) (subscribers : List Subscriber)
    (message : Message) :
    ((subscribers.filterMap view.subscriber?).any fun subscriber =>
      subscriber.id = shown && subscriber.pattern.holds message)
      = subscribers.any fun subscriber =>
        subscriber.id = id && subscriber.pattern.holds message := by
  rw [List.any_filterMap]
  congr 1
  funext subscriber
  rcases see_or seen subscriber.id with ⟨found, apart⟩ | ⟨other, found, same⟩
  · simp [subscriber?, found, apart]
  · simp [subscriber?, found, same]

theorem deliver_modem (view : View) (state : Modem) (message : Message) :
    (view.modem state).deliver message = view.modem (state.deliver message) := by
  have mailboxes : (state.mailboxes.map fun mailbox =>
      if mailbox.isOpen && state.subscribers.any fun subscriber =>
          subscriber.id = mailbox.id && subscriber.pattern.holds message
        then mailbox.post message else mailbox).filterMap view.mailbox?
        = (state.mailboxes.filterMap view.mailbox?).map fun mailbox =>
          if mailbox.isOpen && (state.subscribers.filterMap view.subscriber?).any fun subscriber =>
              subscriber.id = mailbox.id && subscriber.pattern.holds message
            then mailbox.post message else mailbox := by
    apply filterMap_map
    intro mailbox
    cases seen : view.see mailbox.id with
    | none =>
        have hidden : view.mailbox? mailbox = none := by simp [mailbox?, seen]
        split
        · rw [mailbox?_post, hidden]
          rfl
        · rw [hidden]
          rfl
    | some shown =>
        have shows : view.mailbox? mailbox = some { mailbox with id := shown } := by
          simp [mailbox?, seen]
        rw [shows, Option.map_some, any_subscribers_modem seen]
        split
        · rw [mailbox?_post, shows]
          rfl
        · exact shows
  simp only [deliver, modem, mailboxes]
  rw [← filter_listening_modem]
  rfl

theorem dispatch_modem (view : View) (state : Modem) (message : Message) :
    (view.modem state).dispatch now message = view.modem (state.dispatch now message) := by
  have filter : (view.modem state).filter = state.filter := rfl
  unfold dispatch
  rw [filter]
  split
  · exact view.deliver_modem state message
  · split
    · rfl
    · next found observed =>
        exact view.deliver_modem { state with filter := some _ } message

theorem handlePacket_modem (view : View) (state : Modem) (packet : Packet) :
    (view.modem state).handlePacket now packet = view.handled (state.handlePacket now packet) := by
  unfold handlePacket
  split
  · exact view.handleEcho_modem state packet
  · split
    · rfl
    · split
      · rfl
      · next message _ =>
          split
          · exact view.handleAnswer_modem state message
          · rw [dispatch_modem]
            rfl

theorem stop_modem (view : View) (state : Modem) :
    (view.modem state).stop = view.handled state.stop := by
  unfold stop
  rw [halt_modem]
  simp [handled, effect?]

/-! ### What the owners of subscriptions do -/

theorem leave_modem (view : View) (state : Modem) (control : Control) :
    view.modem (state.leave control)
      = { view.modem state with
          controls := (view.modem state).controls ++ (view.control? control).toList } := by
  cases shows : view.control? control <;> simp [modem, leave, List.filterMap_append, shows]

theorem subscribe_modem (view : View) (state : Modem) (id : SubscriptionId) (pattern : Pattern)
    (capacity : Nat) :
    view.modem (state.subscribe id pattern capacity)
      = (view.see id).elim (view.modem state)
          fun shown => (view.modem state).subscribe shown pattern capacity := by
  cases running : state.isRunning <;> cases seen : view.see id <;>
    simp [subscribe, running, leave, modem, mailbox?, control?, seen]

theorem updateMailbox_modem (view : View) (state : Modem) (id : SubscriptionId)
    {change : Mailbox → Mailbox}
    (commutes : ∀ (mailbox : Mailbox) (id : SubscriptionId),
      change { mailbox with id } = { change mailbox with id }) :
    view.modem (state.updateMailbox id change)
      = (view.see id).elim (view.modem state)
          fun shown => (view.modem state).updateMailbox shown change := by
  have keeps (mailbox : Mailbox) : (change mailbox).id = mailbox.id := by
    rw [commutes mailbox mailbox.id]
  have shows (mailbox : Mailbox) :
      view.mailbox? (change mailbox) = (view.mailbox? mailbox).map change := by
    rw [mailbox?, mailbox?, keeps, Option.map_map]
    congr 1
    funext id
    exact (commutes mailbox id).symm
  cases seen : view.see id with
  | none =>
      simp only [Option.elim_none, modem, updateMailbox, List.filterMap_map]
      congr 2
      funext mailbox
      rcases Classical.em (mailbox.id = id) with same | apart
      · simp [same, mailbox?, keeps, seen]
      · simp [apart]
  | some shown =>
      have mailboxes : (state.mailboxes.map fun mailbox =>
          if mailbox.id = id then change mailbox else mailbox).filterMap view.mailbox?
            = (state.mailboxes.filterMap view.mailbox?).map fun mailbox =>
              if mailbox.id = shown then change mailbox else mailbox := by
        apply filterMap_map
        intro mailbox
        rcases Classical.em (mailbox.id = id) with owner | apart
        · have seenBox : view.mailbox? mailbox = some { mailbox with id := shown } := by
            simp [mailbox?, owner, seen]
          rw [if_pos owner, shows, seenBox]
          simp
        · rcases see_or seen mailbox.id with ⟨found, _⟩ | ⟨other, found, same⟩
          · simp [apart, mailbox?, found]
          · simp [apart, mailbox?, found, same]
      simp only [Option.elim_some, modem, updateMailbox, mailboxes]

theorem unsubscribe_modem (view : View) (state : Modem) (id : SubscriptionId) :
    view.modem (state.unsubscribe id)
      = (view.see id).elim (view.modem state)
          fun shown => (view.modem state).unsubscribe shown := by
  have closed : view.modem (state.updateMailbox id fun mailbox => { mailbox with isOpen := false })
      = (view.see id).elim (view.modem state) fun shown =>
          (view.modem state).updateMailbox shown fun mailbox => { mailbox with isOpen := false } :=
    view.updateMailbox_modem state id fun _ _ => rfl
  cases seen : view.see id with
  | none =>
      rw [seen] at closed
      unfold unsubscribe
      split
      · simp [leave_modem, closed, control?, seen]
      · rfl
  | some shown =>
      rw [seen] at closed
      simp only [Option.elim_some, unsubscribe, isListening_modem seen]
      split
      · rw [leave_modem, closed]
        simp [control?, seen, leave]
      · rfl

theorem discard_modem (view : View) (state : Modem) (id : SubscriptionId) :
    view.modem (state.discard id)
      = (view.see id).elim (view.modem state) fun shown => (view.modem state).discard shown := by
  have unsubscribed := view.unsubscribe_modem state id
  have parts : view.modem (state.discard id)
      = { view.modem (state.unsubscribe id) with
          mailboxes := ((state.unsubscribe id).mailboxes.filter fun mailbox =>
            mailbox.id ≠ id).filterMap view.mailbox? } := rfl
  rw [parts, List.filterMap_filter]
  cases seen : view.see id with
  | none =>
      rw [seen] at unsubscribed
      have mailboxes : (state.unsubscribe id).mailboxes.filterMap (fun mailbox =>
          if (mailbox.id ≠ id : Bool) then view.mailbox? mailbox else none)
            = (view.modem (state.unsubscribe id)).mailboxes := by
        simp only [modem]
        congr 1
        funext mailbox
        rcases Classical.em (mailbox.id = id) with same | apart
        · simp [same, mailbox?, seen]
        · simp [apart]
      rw [mailboxes, unsubscribed]
      rfl
  | some shown =>
      rw [seen] at unsubscribed
      have mailboxes : (state.unsubscribe id).mailboxes.filterMap (fun mailbox =>
          if (mailbox.id ≠ id : Bool) then view.mailbox? mailbox else none)
            = (view.modem (state.unsubscribe id)).mailboxes.filter fun mailbox =>
              mailbox.id ≠ shown := by
        simp only [modem, List.filter_filterMap]
        congr 1
        funext mailbox
        rcases see_or seen mailbox.id with ⟨found, _⟩ | ⟨other, found, same⟩
        · simp [mailbox?, found]
        · simp [mailbox?, found, Option.filter_some, ← same]
      rw [mailboxes, unsubscribed]
      rfl

theorem mailbox?_modem (seen : view.see id = some shown) (state : Modem) :
    (view.modem state).mailbox? shown
      = (state.mailbox? id).map fun mailbox => { mailbox with id := shown } := by
  have owner : (fun mailbox : Mailbox => (view.mailbox? mailbox).any fun seenBox =>
      decide (seenBox.id = shown)) = fun mailbox => decide (mailbox.id = id) := by
    funext mailbox
    rcases see_or seen mailbox.id with ⟨found, apart⟩ | ⟨other, found, same⟩
    · simp [View.mailbox?, found, apart]
    · simp [View.mailbox?, found, same]
  simp only [Modem.mailbox?, modem, List.find?_filterMap, owner]
  cases found : state.mailboxes.find? fun mailbox => decide (mailbox.id = id) with
  | none => rfl
  | some mailbox =>
      have same : mailbox.id = id := by simpa using List.find?_some found
      simp [View.mailbox?, same, seen]

theorem receive_modem (view : View) (state : Modem) (id : SubscriptionId) :
    view.handled (state.receive id)
      = (view.see id).elim (view.modem state, [])
          fun shown => (view.modem state).receive shown := by
  cases seen : view.see id with
  | none =>
      unfold receive
      split
      · next message rest _ _ =>
          have taken : view.modem (state.updateMailbox id fun mailbox =>
              { mailbox with waiting := rest }) = view.modem state := by
            rw [view.updateMailbox_modem state id fun _ _ => rfl, seen]
            rfl
          simp [handled, effect?, seen, taken]
      · rfl
  | some shown =>
      simp only [Option.elim_some, receive, mailbox?_modem seen]
      cases found : state.mailbox? id with
      | none => rfl
      | some mailbox =>
          rcases mailbox with ⟨owner, capacity, waiting, isOpen⟩
          cases waiting with
          | nil => rfl
          | cons message rest =>
              have taken : view.modem (state.updateMailbox id fun mailbox =>
                  { mailbox with waiting := rest })
                    = (view.modem state).updateMailbox shown fun mailbox =>
                      { mailbox with waiting := rest } := by
                rw [view.updateMailbox_modem state id fun _ _ => rfl, seen]
                rfl
              simp [handled, effect?, seen, taken]

/-! ### Steps -/

/-- A dispatcher for which nothing waits transmits nothing. -/
theorem proceed_of_idle (idle : state.inFlight = none → state.queue = []) :
    proceed line now (state, []) = (state, []) := by
  rcases state with ⟨_, _, _, queue, inFlight, _, _, _, _⟩
  cases inFlight with
  | some inFlight => rfl
  | none =>
      have empty : queue = [] := idle rfl
      subst empty
      rfl

theorem filter_subscribers_modem (seen : view.see id = some shown)
    (subscribers : List Subscriber) :
    (subscribers.filter fun other => other.id ≠ id).filterMap view.subscriber?
      = (subscribers.filterMap view.subscriber?).filter fun other => other.id ≠ shown := by
  rw [List.filter_filterMap, List.filterMap_filter]
  congr 1
  funext subscriber
  rcases see_or seen subscriber.id with ⟨found, _⟩ | ⟨other, found, same⟩
  · simp [subscriber?, found]
  · simp [subscriber?, found, Option.filter_some, ← same]

theorem filter_subscribers_hidden (seen : view.see id = none) (subscribers : List Subscriber) :
    (subscribers.filter fun subscriber => subscriber.id ≠ id).filterMap view.subscriber?
      = subscribers.filterMap view.subscriber? := by
  rw [List.filterMap_filter]
  congr 1
  funext subscriber
  rcases Classical.em (subscriber.id = id) with same | apart
  · simp [same, subscriber?, seen]
  · simp [apart]

theorem take_modem (view : View) (state : Modem) (idle : state.inFlight = none → state.queue = []) :
    view.handled (step line now state .take)
      = (view.event? state .take).elim (view.modem state, [])
          fun shownEvent => step line now (view.modem state) shownEvent := by
  have shownIdle : (view.modem state).inFlight = none → (view.modem state).queue = [] := idle
  cases taken : state.controls with
  | nil =>
      have empty : (view.modem state).controls = [] := by simp [modem, taken]
      simp only [event?, taken, Option.elim_some, step, empty]
      rfl
  | cons control rest =>
      have controls : (view.modem state).controls
          = (view.control? control).toList ++ rest.filterMap view.control? := by
        cases shows : view.control? control <;> simp [modem, taken, shows]
      cases control with
      | request ticket request =>
          simp only [event?, taken, step, controls, handleControl, ← proceed_modem]
          rfl
      | close =>
          simp only [event?, taken, step, controls, handleControl, ← stop_modem]
          rfl
      | subscribe id pattern =>
          cases seen : view.see id with
          | none =>
              have same : view.modem { state with
                  controls := rest, subscribers := state.subscribers ++ [⟨id, pattern⟩] }
                    = view.modem state := by
                simp [modem, taken, control?, subscriber?, seen]
              simp only [event?, control?, taken, seen, step, handleControl, ← proceed_modem]
              change proceed line now (view.modem _, []) = _
              rw [same, proceed_of_idle shownIdle]
              rfl
          | some shown =>
              simp only [event?, control?, taken, seen, step, controls, handleControl,
                ← proceed_modem]
              simp [handled, modem, subscriber?, seen]
      | unsubscribe id =>
          cases seen : view.see id with
          | none =>
              have same : view.modem { state with
                  controls := rest
                  subscribers := state.subscribers.filter fun other => other.id ≠ id }
                    = view.modem state := by
                simp only [modem, filter_subscribers_hidden seen]
                simp [taken, control?, seen]
              simp only [event?, control?, taken, seen, step, handleControl, ← proceed_modem]
              change proceed line now (view.modem _, []) = _
              rw [same, proceed_of_idle shownIdle]
              rfl
          | some shown =>
              simp only [event?, control?, taken, seen, step, controls, handleControl,
                ← proceed_modem]
              simp only [handled, modem, filter_subscribers_modem seen]
              simp

/-- What is shown of a step is the step that is shown, and if none is shown, nothing changes. -/
theorem step_modem (view : View) (line : Line) (now : Instant) (state : Modem) (event : Event)
    (idle : state.inFlight = none → state.queue = []) :
    view.handled (step line now state event)
      = (view.event? state event).elim (view.modem state, [])
          fun shownEvent => step line now (view.modem state) shownEvent := by
  have running : (view.modem state).isRunning = state.isRunning := rfl
  cases event with
  | submit request =>
      simp only [event?, Option.elim_some, step, submit, running]
      split
      · simp only [handled, leave_modem, List.filterMap_nil]
        rfl
      · rfl
  | subscribe id pattern capacity =>
      simp only [event?, step, handled, subscribe_modem, List.filterMap_nil]
      cases view.see id <;> rfl
  | unsubscribe id =>
      simp only [event?, step, handled, unsubscribe_modem, List.filterMap_nil]
      cases view.see id <;> rfl
  | discard id =>
      simp only [event?, step, handled, discard_modem, List.filterMap_nil]
      cases view.see id <;> rfl
  | receive id =>
      simp only [event?, step, receive_modem]
      cases view.see id <;> rfl
  | close =>
      simp only [event?, Option.elim_some, step, running]
      split
      · simp only [handled, leave_modem, List.filterMap_nil]
        rfl
      · rfl
  | take => exact view.take_modem state idle
  | arrive packet =>
      simp only [event?, Option.elim_some, step, running]
      split
      · rw [handlePacket_modem, proceed_modem]
      · rfl
  | lineEnd =>
      simp only [event?, Option.elim_some, step, running]
      split
      · rw [stop_modem]
      · rfl
  | tick =>
      simp only [event?, Option.elim_some, step, running]
      split
      · rw [expire_modem, proceed_modem]
      · rfl
  | abandon =>
      cases left : state.controls with
      | nil =>
          have empty : (view.modem state).controls = [] := by simp [modem, left]
          simp only [event?, left, List.isEmpty_nil, ↓reduceIte, Option.elim_some, step, running,
            empty, Bool.and_true]
          split
          · rw [stop_modem]
          · rfl
      | cons control rest =>
          simp only [event?, left, List.isEmpty_cons, Bool.false_eq_true, ↓reduceIte,
            Option.elim_none, step, Bool.and_false]
          rfl

/-! ### Runs -/

theorem moments_append (view : View) (state : Modem) (past rest : List Moment) :
    view.moments state (past ++ rest)
      = view.moments state past ++ view.moments (state.run past).1 rest := by
  induction past generalizing state with
  | nil => rfl
  | cons moment past ih =>
      simp only [List.cons_append, moments, ih, List.append_assoc]
      rfl

end View

/-- What a run does, with the times. -/
def timeline (modem : Modem) : List Moment → List (Instant × Effect)
  | [] => []
  | moment :: rest =>
      (step moment.line moment.now modem moment.event).2.map (moment.now, ·)
        ++ (step moment.line moment.now modem moment.event).1.timeline rest

theorem timeline_append (modem : Modem) (past rest : List Moment) :
    modem.timeline (past ++ rest) = modem.timeline past ++ (modem.run past).1.timeline rest := by
  induction past generalizing modem with
  | nil => rfl
  | cons moment past ih =>
      simp only [List.cons_append, timeline, ih, List.append_assoc]
      rfl

/-- What is done, without the times. -/
theorem map_snd_timeline (modem : Modem) (moments : List Moment) :
    (modem.timeline moments).map Prod.snd = (modem.run moments).2 := by
  induction moments generalizing modem with
  | nil => rfl
  | cons moment rest ih =>
      simp only [timeline, List.map_append, List.map_map, ih, run]
      congr 1
      exact List.map_id _

theorem idle_run_new (ackTimeout : Duration) (filter : Option RelayFilter) (moments : List Moment) :
    (run { ackTimeout, filter } moments).1.inFlight = none →
      (run { ackTimeout, filter } moments).1.queue = [] := by
  intro idle
  cases running : (run { ackTimeout, filter } moments).1.isRunning with
  | true => exact keepsTalking_run (fun _ _ => rfl) moments running idle
  | false => exact ((ledger_run_new ackTimeout filter moments).stopped running).queue

namespace View

/-- What a view shows of an effect with its time. -/
def entry? (view : View) (entry : Instant × Effect) : Option (Instant × Effect) :=
  (view.effect? entry.2).map (entry.1, ·)

theorem filterMap_entry? (view : View) (now : Instant) (effects : List Effect) :
    (effects.map (now, ·)).filterMap view.entry?
      = (effects.filterMap view.effect?).map (now, ·) := by
  rw [List.filterMap_map, List.map_filterMap]
  rfl

/-- What is shown of a run of a new modem is a run of a new modem. -/
theorem run_moments (view : View) (ackTimeout : Duration) (filter : Option RelayFilter)
    (moments : List Moment) :
    let bare := view.moments { ackTimeout, filter } moments
    (run { ackTimeout, filter } bare).1 = view.modem (run { ackTimeout, filter } moments).1 ∧
      timeline { ackTimeout, filter } bare
        = (timeline { ackTimeout, filter } moments).filterMap view.entry? := by
  induction moments using List.reverseRecOn with
  | nil => exact ⟨rfl, rfl⟩
  | append_singleton past moment ih =>
      rcases ih with ⟨state, history⟩
      have shown := view.step_modem moment.line moment.now (run { ackTimeout, filter } past).1
        moment.event (idle_run_new ackTimeout filter past)
      simp only [moments_append, timeline_append, run_append, state, history,
        List.filterMap_append]
      cases sees : view.event? (run { ackTimeout, filter } past).1 moment.event with
      | none =>
          rw [sees, Option.elim_none] at shown
          rcases Prod.mk.inj shown with ⟨same, silent⟩
          simp only [moments, moment?, sees, run, timeline, Option.map_none, Option.toList_none,
            List.append_nil, filterMap_entry?, same, silent, List.map_nil, and_self]
      | some event =>
          rw [sees, Option.elim_some] at shown
          rcases Prod.ext_iff.mp shown with ⟨same, effects⟩
          change view.modem _ = _ at same
          change List.filterMap view.effect? _ = _ at effects
          simp only [moments, moment?, sees, run, timeline, Option.map_some, Option.toList_some,
            List.append_nil, filterMap_entry?, same, effects, and_self]

end View

/-! ### What others see -/

/-- The octets that were handed to the line, with the times, and how the line took them. -/
def writes (history : List (Instant × Effect)) :
    List (Instant × Ticket × Bytes × Option LineFailure) :=
  history.filterMap fun
    | (now, .transmit ticket packet failure) => some (now, ticket, Frame.encode packet, failure)
    | _ => none

/-- The results that were given, with the times. -/
def results (history : List (Instant × Effect)) :
    List (Instant × Ticket × Except Error Answer) :=
  history.filterMap fun
    | (now, .answer ticket result) => some (now, ticket, result)
    | _ => none

/-- The messages that a subscriber received, with the times. -/
def receipts (id : SubscriptionId) (history : List (Instant × Effect)) :
    List (Instant × Message) :=
  history.filterMap fun entry => (entry.2.received? id).map (entry.1, ·)

section Others

variable (view : View) (history : List (Instant × Effect))

theorem writes_shown : writes (history.filterMap view.entry?) = writes history := by
  rw [writes, writes, List.filterMap_filterMap]
  congr 1
  funext ⟨now, effect⟩
  cases effect with
  | receive id message => cases seen : view.see id <;> simp [View.entry?, View.effect?, seen]
  | transmit | answer | shut => rfl

theorem results_shown : results (history.filterMap view.entry?) = results history := by
  rw [results, results, List.filterMap_filterMap]
  congr 1
  funext ⟨now, effect⟩
  cases effect with
  | receive id message => cases seen : view.see id <;> simp [View.entry?, View.effect?, seen]
  | transmit | answer | shut => rfl

theorem receipts_shown {id shown : SubscriptionId} (seen : view.see id = some shown) :
    receipts shown (history.filterMap view.entry?) = receipts id history := by
  rw [receipts, receipts, List.filterMap_filterMap]
  congr 1
  funext ⟨now, effect⟩
  cases effect with
  | receive other message =>
      rcases View.see_or seen other with ⟨found, apart⟩ | ⟨shownOther, found, same⟩
      · simp [View.entry?, View.effect?, Effect.received?, found, apart]
      · simp [View.entry?, View.effect?, Effect.received?, found, same]
  | transmit | answer | shut => rfl

end Others

/-- In every run of a new modem, one more subscription changes nothing for anyone else, whatever its
pattern and its room are and whatever its owner does with it. The run without it has the same events
otherwise, the end of the dispatcher for want of callers included; the same octets go to the line,
the same results are given and the same messages received, all at the same times. -/
theorem subscribers_independent (ackTimeout : Duration) (filter : Option RelayFilter)
    (moments : List Moment) (hidden : SubscriptionId) :
    let view := View.without hidden
    let whole := timeline { ackTimeout, filter } moments
    let bare := timeline { ackTimeout, filter } (view.moments { ackTimeout, filter } moments)
    writes bare = writes whole ∧ results bare = results whole ∧
      ∀ other shown, view.see other = some shown → receipts shown bare = receipts other whole := by
  intro view whole bare
  have same : bare = whole.filterMap view.entry? :=
    (view.run_moments ackTimeout filter moments).2
  rw [same]
  exact ⟨writes_shown view whole, results_shown view whole,
    fun _ _ seen => receipts_shown view whole seen⟩

/-- A subscriber with room for one message does not listen at first, then gives its subscription up
twice. Another one hears all messages, and the request gets its result. -/
theorem subscribers_independent_stalled :
    let moments := List.map (⟨0, .sound, ·⟩) [
      .subscribe 0 (.cmd1 0x11) 0, .take, .subscribe 1 (.cmd1 0x11) 2, .take,
      .submit (.packet ⟨.getInfo, [], none⟩), .take, .arrive (levelReport 1),
      .arrive (levelReport 2), .unsubscribe 0, .unsubscribe 0,
      .arrive ⟨.getInfo, [], none⟩, .take, .receive 0, .receive 1, .receive 1]
    let bare := (View.without 0).moments { ackTimeout := 1 } moments
    bare.length = 9 ∧
      (receipts 0 (timeline { ackTimeout := 1 } bare)).map (·.2.command.cmd2) = [1, 2] := by
  intro moments bare
  have others := (subscribers_independent 1 none moments 0).2.2 1 0 (by decide)
  refine ⟨by decide +kernel, ?_⟩
  rw [others]
  decide +kernel

/-- The packets that the line takes in a session, with their times. -/
def sessionWrites (steps : List Bench.Step) : Option (List (Nat × Bytes)) :=
  (session {} steps).toOption.join.map (List.flatMap Bench.Report.written)

/-- Two messages are sent to a device, and those who sent them and all others leave. A subscription
that is there as well keeps the modem at work, and the second message goes out. -/
theorem subscription_keeps_modem_at_work :
    let before : List Bench.Step := [
      .modem (.device "hall" ⟨0x1a, 0x2b, 0x3c⟩ .i2),
      .thing "hall" (.send (.standard 0x11 0x40) []),
      .thing "hall" (.send (.standard 0x13 0x00) [])]
    let extra : List Bench.Step := [.modem (.subscribe "news" .extended none)]
    let after : List Bench.Step := [
      .abort 1, .abort 2, .drop "hall", .dropModem, .feed [.echo nakByte]]
    let first : Nat × Bytes := (0, [2, 0x62, 0x1a, 0x2b, 0x3c, 0x0f, 0x11, 0x40])
    let second : Nat × Bytes := (0, [2, 0x62, 0x1a, 0x2b, 0x3c, 0x0f, 0x13, 0])
    sessionWrites (before ++ after) = some [first] ∧
      sessionWrites (before ++ extra ++ after) = some [first, second] := by
  decide +kernel

end Powerline.Modem
