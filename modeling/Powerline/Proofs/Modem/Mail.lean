import Powerline.Proofs.Modem.Readers

/-!
# Mail

Subscriptions live in a part of the state that the conversations with the modem do not touch, except
that a dispatcher that stops closes it. A step changes that part as its event says (`quiet_step`),
and what it does to one mailbox depends on the event and the subscribers alone
(`mailbox?_mailAfter`).
-/

namespace Powerline

namespace Modem

/-! ### Mail -/

/-- What concerns subscriptions in the state of a modem. -/
structure Mail where
  controls : List Control
  subscribers : List Subscriber
  mailboxes : List Mailbox
  isRunning : Bool

/-- The mail of a modem. -/
def mail (modem : Modem) : Mail :=
  ⟨modem.controls, modem.subscribers, modem.mailboxes, modem.isRunning⟩

/-- The mail when the dispatcher has stopped. -/
def Mail.close (mail : Mail) : Mail where
  controls := []
  subscribers := []
  mailboxes := mail.mailboxes.map fun mailbox => { mailbox with isOpen := false }
  isRunning := false

/-- The mailbox of a subscription. -/
def Mail.mailbox? (mail : Mail) (id : SubscriptionId) : Option Mailbox :=
  mail.mailboxes.find? fun mailbox => mailbox.id = id

/-- The message that an effect brings to a subscriber. -/
def Effect.received? (id : SubscriptionId) : Effect → Option Message
  | .receive other message => if other = id then some message else none
  | .transmit .. | .answer .. | .shut => none

/-- The messages that a subscriber receives, in order. -/
def received (id : SubscriptionId) (effects : List Effect) : List Message :=
  effects.filterMap (Effect.received? id)

/-- The mail after an event, unless the dispatcher stops. -/
def mailAfter (modem : Modem) (now : Instant) : Event → Mail
  | .submit request => (modem.submit request).1.mail
  | .subscribe id pattern capacity => (modem.subscribe id pattern capacity).mail
  | .unsubscribe id => (modem.unsubscribe id).mail
  | .discard id => (modem.discard id).mail
  | .receive id => (modem.receive id).1.mail
  | .close => if modem.isRunning then (modem.leave .close).mail else modem.mail
  | .take =>
      match modem.controls with
      | [] => modem.mail
      | control :: rest =>
          match control with
          | .subscribe id pattern =>
              { modem.mail with
                controls := rest, subscribers := modem.subscribers ++ [⟨id, pattern⟩] }
          | .unsubscribe id =>
              { modem.mail with
                controls := rest,
                subscribers := modem.subscribers.filter fun other => other.id ≠ id }
          | .request _ _ | .close => { modem.mail with controls := rest }
  | .arrive packet =>
      match modem.dispatched? now (.arrive packet) with
      | some message => (modem.deliver message).mail
      | none => modem.mail
  | .lineEnd | .tick | .abandon => modem.mail

variable {line : Line} {now : Instant} {modem : Modem} {id : SubscriptionId} {event : Event}
  {mail : Mail} {handled : Modem × List Effect} {packet : Packet}

@[simp]
theorem Mail.close_close (mail : Mail) : mail.close.close = mail.close := by
  simp [close, Function.comp_def]

@[simp]
theorem received_nil (id : SubscriptionId) : received id [] = [] := rfl

@[simp]
theorem received_append (id : SubscriptionId) (effects more : List Effect) :
    received id (effects ++ more) = received id effects ++ received id more :=
  List.filterMap_append

/-- Nobody has received anything, and the mail is as given or was closed. -/
structure Quiet (mail : Mail) (handled : Modem × List Effect) : Prop where
  mail : handled.1.mail = mail ∨ handled.1.mail = mail.close
  received : ∀ id, received id handled.2 = []

theorem quiet_halt (modem : Modem) : Quiet modem.mail modem.halt where
  mail := Or.inr rfl
  received := by
    intro id
    simp [Modem.received, halt, Effect.received?]

theorem quiet_transmitFirst (requests : List (Ticket × Request)) :
    Quiet modem.mail (transmitFirst line now modem requests) := by
  induction requests generalizing line with
  | nil => exact ⟨Or.inl rfl, fun _ => rfl⟩
  | cons first rest ih =>
      rcases first with ⟨ticket, request⟩
      cases written : line 0 with
      | some failure =>
          simp only [transmitFirst, written]
          exact ⟨ih.mail, ih.received⟩
      | none =>
          cases ends : Instant.after? now modem.ackTimeout with
          | some deadline =>
              simp only [transmitFirst, written, ends]
              exact ⟨Or.inl rfl, fun _ => rfl⟩
          | none =>
              simp only [transmitFirst, written, ends]
              have halted := quiet_halt { modem with queue := (ticket, request) :: rest }
              exact ⟨halted.mail, halted.received⟩

theorem Quiet.proceed (quiet : Quiet mail handled) : Quiet mail (proceed line now handled) := by
  have started : Quiet handled.1.mail (startNext line now handled.1) := by
    unfold startNext
    split
    · exact ⟨Or.inl rfl, fun _ => rfl⟩
    · exact quiet_transmitFirst handled.1.queue
  refine ⟨?_, ?_⟩
  · change (startNext line now handled.1).1.mail = _ ∨ (startNext line now handled.1).1.mail = _
    rcases quiet.mail with same | closed
    · rw [same] at started
      exact started.mail
    · rw [closed] at started
      right
      rcases started.mail with same | again
      · exact same
      · rw [again, Mail.close_close]
  · intro id
    change Modem.received id (handled.2 ++ (startNext line now handled.1).2) = []
    rw [received_append, quiet.received, started.received, List.append_nil]

theorem quiet_handleEcho : Quiet modem.mail (modem.handleEcho now packet) := by
  unfold handleEcho
  repeat' split
  all_goals first
    | exact quiet_halt modem
    | exact ⟨Or.inl rfl, fun _ => rfl⟩

theorem quiet_handleAnswer (message : Message) :
    Quiet modem.mail (modem.handleAnswer message) := by
  unfold handleAnswer
  repeat' split
  all_goals exact ⟨Or.inl rfl, fun _ => rfl⟩

theorem quiet_expire : Quiet modem.mail (modem.expire now) := by
  unfold expire
  repeat' split
  all_goals exact ⟨Or.inl rfl, fun _ => rfl⟩

/-- What is passed on to the subscribers is delivered; the filter is no mail. -/
theorem mail_dispatch (now : Instant) (modem : Modem) (message : Message) :
    (modem.dispatch now message).mail
      = if modem.suppresses now message then modem.mail else (modem.deliver message).mail := by
  unfold dispatch suppresses
  cases modem.filter with
  | none => rfl
  | some filter =>
      simp only [Option.any_some]
      split
      · next observed => simp only [observed, ↓reduceIte]; rfl
      · next observed => simp only [observed, Bool.false_eq_true, ↓reduceIte]; rfl

theorem quiet_handlePacket (running : modem.isRunning = true) :
    Quiet (modem.mailAfter now (.arrive packet)) (modem.handlePacket now packet) := by
  simp only [handlePacket, mailAfter, dispatched?, running, ↓reduceIte, Packet.news?]
  cases host : packet.opcode.isHost with
  | true => exact quiet_handleEcho
  | false =>
      cases carries : packet.opcode.carriesMessage with
      | false => exact ⟨Or.inl rfl, fun _ => rfl⟩
      | true =>
          cases read : packet.message with
          | error error => exact ⟨Or.inl rfl, fun _ => rfl⟩
          | ok message =>
              simp only [Bool.false_eq_true, ↓reduceIte, Bool.not_true, Bool.or_self,
                Except.toOption]
              cases answers : message.isAnswer with
              | true => simpa [Option.filter_some, answers] using quiet_handleAnswer message
              | false =>
                  refine ⟨Or.inl ?_, fun _ => rfl⟩
                  simp only [Bool.false_eq_true, ↓reduceIte, mail_dispatch]
                  cases copy : modem.suppresses now message <;>
                    simp [Option.filter_some, copy, answers]

theorem quiet_stop (modem : Modem) : Quiet modem.mail modem.stop where
  mail := Or.inr rfl
  received := by
    intro id
    change Modem.received id (modem.halt.2 ++ [.shut]) = []
    rw [received_append, (quiet_halt modem).received]
    rfl

theorem quiet_take :
    Quiet (modem.mailAfter now .take) (step line now modem .take) := by
  cases taken : modem.controls with
  | nil =>
      simp only [step, mailAfter, taken]
      exact ⟨Or.inl rfl, fun _ => rfl⟩
  | cons control rest =>
      simp only [step, mailAfter, taken]
      cases control with
      | request | subscribe | unsubscribe => exact Quiet.proceed ⟨Or.inl rfl, fun _ => rfl⟩
      | close => exact quiet_stop { modem with controls := rest }

/-- A step changes the mail as its event says and closes it if the dispatcher stops. Only the event
of receiving brings somebody a message. -/
theorem quiet_step (line : Line) (now : Instant) (modem : Modem)
    (other : ∀ id, event ≠ .receive id) :
    Quiet (modem.mailAfter now event) (step line now modem event) := by
  cases event with
  | submit request =>
      refine ⟨Or.inl rfl, ?_⟩
      intro id
      simp only [step, submit]
      split <;> rfl
  | subscribe | unsubscribe | discard => exact ⟨Or.inl rfl, fun _ => rfl⟩
  | receive id => exact absurd rfl (other id)
  | close =>
      simp only [step, mailAfter]
      split <;> exact ⟨Or.inl rfl, fun _ => rfl⟩
  | take => exact quiet_take
  | arrive packet =>
      cases running : modem.isRunning with
      | true =>
          simp only [step, running, ↓reduceIte]
          exact (quiet_handlePacket running).proceed
      | false =>
          simp only [step, mailAfter, dispatched?, running, Bool.false_eq_true, ↓reduceIte]
          exact ⟨Or.inl rfl, fun _ => rfl⟩
  | lineEnd =>
      simp only [step]
      split
      · exact quiet_stop modem
      · exact ⟨Or.inl rfl, fun _ => rfl⟩
  | tick =>
      simp only [step]
      split
      · exact quiet_expire.proceed
      · exact ⟨Or.inl rfl, fun _ => rfl⟩
  | abandon =>
      simp only [step]
      split
      · exact quiet_stop modem
      · exact ⟨Or.inl rfl, fun _ => rfl⟩

theorem mail_step (line : Line) (now : Instant) (modem : Modem) (event : Event) :
    (step line now modem event).1.mail = modem.mailAfter now event ∨
      (step line now modem event).1.mail = (modem.mailAfter now event).close := by
  by_cases reads : ∃ id, event = .receive id
  · rcases reads with ⟨id, rfl⟩
    exact Or.inl rfl
  · exact (quiet_step line now modem (not_exists.mp reads)).mail

/-- What an owner receives is what it takes out of its mailbox. -/
theorem received_step (id : SubscriptionId) (line : Line) (now : Instant) (modem : Modem)
    (event : Event) :
    received id (step line now modem event).2 = (modem.taken? id event).toList := by
  by_cases reads : ∃ other, event = .receive other
  · rcases reads with ⟨other, rfl⟩
    simp only [step, receive, taken?, waitingFor]
    split
    · next found =>
        by_cases same : other = id
        · subst same
          simp [received, Effect.received?, found]
        · simp [received, Effect.received?, same]
    · next empty =>
        split
        · next same =>
            subst same
            cases found : modem.mailbox? other with
            | none => rfl
            | some mailbox =>
                rcases mailbox with ⟨owner, capacity, waiting, isOpen⟩
                cases waiting with
                | nil => rfl
                | cons message rest => exact absurd found (empty _ _ _ _ _)
        · rfl
  · have kept := not_exists.mp reads
    rw [(quiet_step line now modem kept).received, taken?_of_ne (kept id)]
    rfl

/-! ### One mailbox -/

/-- What becomes of the mailbox of a subscription by an event, unless the dispatcher stops. -/
def boxAfter (id : SubscriptionId) (modem : Modem) (now : Instant) :
    Event → Mailbox → Option Mailbox
  | .unsubscribe other => fun mailbox =>
      some (if other = id then { mailbox with isOpen := false } else mailbox)
  | .discard other => if other = id then fun _ => none else some
  | .receive other => fun mailbox =>
      some (if other = id then { mailbox with waiting := mailbox.waiting.tail } else mailbox)
  | .arrive packet =>
      match modem.dispatched? now (.arrive packet) with
      | some message => fun mailbox =>
          some (if mailbox.isOpen && modem.subscribers.any fun subscriber =>
              subscriber.id = id && subscriber.pattern.holds message
            then mailbox.post message else mailbox)
      | none => some
  | _ => some

variable {other : SubscriptionId} {pattern : Pattern} {capacity : Nat} {waiting : List Message}

theorem mailbox?_close (mail : Mail) (id : SubscriptionId) :
    mail.close.mailbox? id
      = (mail.mailbox? id).map fun mailbox => { mailbox with isOpen := false } := by
  simp only [Mail.mailbox?, Mail.close, List.find?_map]
  rfl

theorem isOpen_of_not_isListening {mailbox : Mailbox} (found : modem.mailbox? id = some mailbox)
    (deaf : ¬ modem.isListening id = true) : mailbox.isOpen = false := by
  have owner : mailbox.id = id := by simpa using List.find?_some found
  cases listens : mailbox.isOpen with
  | false => rfl
  | true =>
      refine absurd (List.any_eq_true.mpr ⟨mailbox, List.mem_of_find?_eq_some found, ?_⟩) deaf
      simp [owner, listens]

theorem mailbox?_unsubscribe (modem : Modem) (other id : SubscriptionId) :
    (modem.unsubscribe other).mailbox? id
      = (modem.mailbox? id).map fun mailbox =>
          if other = id then { mailbox with isOpen := false } else mailbox := by
  unfold unsubscribe
  split
  · have changed : (modem.updateMailbox other fun mailbox =>
        { mailbox with isOpen := false }).mailbox? id
          = (modem.mailbox? id).map fun mailbox =>
            if mailbox.id = other then { mailbox with isOpen := false } else mailbox :=
      mailbox?_updateMailbox fun _ => rfl
    change (modem.updateMailbox other _).mailbox? id = _
    rw [changed]
    cases found : modem.mailbox? id with
    | none => rfl
    | some mailbox =>
        have owner : mailbox.id = id := by simpa using List.find?_some found
        simp only [Option.map_some, owner, eq_comm]
  · next deaf =>
      cases found : modem.mailbox? id with
      | none => rfl
      | some mailbox =>
          rcases Classical.em (other = id) with rfl | apart
          · have closed := isOpen_of_not_isListening found deaf
            rcases mailbox with ⟨owner, capacity, waiting, isOpen⟩
            change isOpen = false at closed
            simp [closed]
          · simp [apart]

theorem mailbox?_discard (modem : Modem) (other id : SubscriptionId) :
    (modem.discard other).mailbox? id = if other = id then none else modem.mailbox? id := by
  simp only [mailbox?, discard, List.find?_filter]
  split
  · next same =>
      subst same
      rw [List.find?_eq_none]
      simp
  · next apart =>
      have unsubscribed := mailbox?_unsubscribe modem other id
      simp only [apart, ↓reduceIte, Option.map_id', mailbox?] at unsubscribed
      rw [← unsubscribed]
      congr 1
      funext mailbox
      by_cases same : mailbox.id = id
      · simp [same, Ne.symm apart]
      · simp [same]

theorem mailbox?_receive (modem : Modem) (other id : SubscriptionId) :
    (modem.receive other).1.mailbox? id
      = (modem.mailbox? id).map fun mailbox =>
          if other = id then { mailbox with waiting := mailbox.waiting.tail } else mailbox := by
  unfold receive
  split
  · next owner capacity message rest isOpen found =>
      rw [mailbox?_updateMailbox (by simp)]
      cases same : modem.mailbox? id with
      | none => rfl
      | some mailbox =>
          have owns : mailbox.id = id := by simpa using List.find?_some same
          rcases Classical.em (other = id) with rfl | apart
          · rw [found, Option.some.injEq] at same
            subst same
            have same : owner = other := owns
            simp [same]
          · simp [owns, apart, Ne.symm apart]
  · next empty =>
      cases found : modem.mailbox? id with
      | none => rfl
      | some mailbox =>
          rcases Classical.em (other = id) with rfl | apart
          · rcases mailbox with ⟨owner, capacity, waiting, isOpen⟩
            cases waiting with
            | nil => simp
            | cons message rest => exact absurd found (empty _ _ _ _ _)
          · simp [apart]

theorem mailbox?_deliver (modem : Modem) (message : Message) (id : SubscriptionId) :
    (modem.deliver message).mailbox? id
      = (modem.mailbox? id).map fun mailbox =>
          if mailbox.isOpen && modem.subscribers.any fun subscriber =>
              subscriber.id = id && subscriber.pattern.holds message
            then mailbox.post message else mailbox := by
  simp only [deliver, mailbox?]
  rw [mailbox?_map]
  · cases found : modem.mailbox? id with
    | none => rw [mailbox?] at found; simp [found]
    | some mailbox =>
        have owner : mailbox.id = id := by simpa using List.find?_some found
        rw [mailbox?] at found
        simp [found, owner]
  · intro mailbox
    split
    · unfold Mailbox.post
      split <;> rfl
    · rfl

/-- An event other than the subscription itself changes a mailbox or throws it away. -/
theorem mailbox?_mailAfter (now : Instant) (modem : Modem)
    (apart : ∀ pattern capacity, event ≠ .subscribe id pattern capacity) :
    (modem.mailAfter now event).mailbox? id
      = (modem.mailbox? id).bind (modem.boxAfter id now event) := by
  have kept : modem.mailbox? id = (modem.mailbox? id).bind some := by
    cases modem.mailbox? id <;> rfl
  cases event with
  | submit request =>
      simp only [mailAfter, submit]
      split <;> exact kept
  | subscribe other pattern capacity =>
      have others : other ≠ id := by
        rintro rfl
        exact apart pattern capacity rfl
      simp only [mailAfter, subscribe, boxAfter]
      rw [← kept]
      split <;>
        simp [mail, leave, Mail.mailbox?, mailbox?, List.find?_append, others]
  | unsubscribe other =>
      refine (mailbox?_unsubscribe modem other id).trans ?_
      cases modem.mailbox? id <;> rfl
  | discard other =>
      refine (mailbox?_discard modem other id).trans ?_
      simp only [boxAfter]
      split
      · simp
      · exact kept
  | receive other =>
      refine (mailbox?_receive modem other id).trans ?_
      cases modem.mailbox? id <;> rfl
  | close =>
      simp only [mailAfter]
      split <;> exact kept
  | take =>
      simp only [mailAfter]
      split
      · exact kept
      · next control rest taken => cases control <;> exact kept
  | arrive packet =>
      simp only [mailAfter, boxAfter]
      split
      · next message brings =>
          refine (mailbox?_deliver modem message id).trans ?_
          cases modem.mailbox? id <;> rfl
      · exact kept
  | lineEnd | tick | abandon => exact kept

/-! ### Subscribers and controls -/

theorem isRunning_mailAfter (now : Instant) (modem : Modem) (event : Event) :
    (modem.mailAfter now event).isRunning = modem.isRunning := by
  cases event with
  | submit request =>
      simp only [mailAfter, submit]
      split <;> rfl
  | subscribe id pattern capacity =>
      simp only [mailAfter, subscribe]
      split <;> rfl
  | unsubscribe id | discard id =>
      simp only [mailAfter, discard, unsubscribe]
      split <;> rfl
  | receive id =>
      simp only [mailAfter, receive]
      split <;> rfl
  | close =>
      simp only [mailAfter]
      split <;> rfl
  | take =>
      simp only [mailAfter]
      split
      · rfl
      · next control rest taken => cases control <;> rfl
  | arrive packet =>
      simp only [mailAfter]
      split <;> rfl
  | lineEnd | tick | abandon => rfl

/-- The only new subscriber is one whose subscription is taken from the channel. -/
theorem mem_subscribers_mailAfter {subscriber : Subscriber}
    (mem : subscriber ∈ (modem.mailAfter now event).subscribers) :
    subscriber ∈ modem.subscribers ∨
      event = .take ∧
        ∃ rest, modem.controls = .subscribe subscriber.id subscriber.pattern :: rest := by
  cases event with
  | submit request =>
      simp only [mailAfter, submit] at mem
      split at mem <;> exact Or.inl mem
  | subscribe id pattern capacity =>
      simp only [mailAfter, subscribe] at mem
      split at mem <;> exact Or.inl mem
  | unsubscribe id | discard id =>
      simp only [mailAfter, discard, unsubscribe] at mem
      split at mem <;> exact Or.inl mem
  | receive id =>
      simp only [mailAfter, receive] at mem
      split at mem <;> exact Or.inl mem
  | close =>
      simp only [mailAfter] at mem
      split at mem <;> exact Or.inl mem
  | take =>
      simp only [mailAfter] at mem
      split at mem
      · exact Or.inl mem
      · next control rest taken =>
          cases control with
          | request | close => exact Or.inl mem
          | subscribe id pattern =>
              rcases List.mem_append.mp mem with before | new
              · exact Or.inl before
              · rw [List.mem_singleton.mp new]
                exact Or.inr ⟨rfl, rest, taken⟩
          | unsubscribe id => exact Or.inl (List.mem_filter.mp mem).1
  | arrive packet =>
      simp only [mailAfter] at mem
      split at mem
      · exact Or.inl (List.mem_filter.mp mem).1
      · exact Or.inl mem
  | lineEnd | tick | abandon => exact Or.inl mem

/-- The control that an event leaves in the channel. -/
def leaves? (modem : Modem) : Event → Option Control
  | .submit request =>
      if modem.isRunning then some (.request modem.nextTicket request) else none
  | .subscribe id pattern _ => if modem.isRunning then some (.subscribe id pattern) else none
  | .unsubscribe id | .discard id =>
      if modem.isListening id then some (.unsubscribe id) else none
  | .close => if modem.isRunning then some .close else none
  | .receive _ | .take | .arrive _ | .lineEnd | .tick | .abandon => none

theorem concerns_of_leaves? {control : Control} (left : modem.leaves? event = some control)
    (concerns : control.Concerns id) : event.Concerns id := by
  unfold leaves? at left
  split at left
  all_goals first
    | contradiction
    | split at left
      · rw [Option.some.injEq] at left
        subst left
        exact concerns
      · contradiction

theorem controls_mailAfter (now : Instant) (modem : Modem) (other : event ≠ .take) :
    (modem.mailAfter now event).controls = modem.controls ++ (modem.leaves? event).toList := by
  have nothing : modem.controls = modem.controls ++ [] := (List.append_nil _).symm
  cases event with
  | submit request =>
      simp only [mailAfter, submit, leaves?]
      split
      · rfl
      · exact nothing
  | subscribe id pattern capacity =>
      simp only [mailAfter, subscribe, leaves?]
      split
      · rfl
      · exact nothing
  | unsubscribe id | discard id =>
      simp only [mailAfter, discard, unsubscribe, leaves?]
      split
      · rfl
      · exact nothing
  | receive id =>
      simp only [mailAfter, receive]
      split <;> exact nothing
  | close =>
      simp only [mailAfter, leaves?]
      split
      · rfl
      · exact nothing
  | take => exact absurd rfl other
  | arrive packet =>
      simp only [mailAfter]
      split <;> exact nothing
  | lineEnd | tick | abandon => exact nothing

theorem controls_mailAfter_take (now : Instant) (modem : Modem) :
    (modem.mailAfter now .take).controls = modem.controls.tail := by
  cases taken : modem.controls with
  | nil =>
      simp only [mailAfter, taken]
      exact taken
  | cons control rest =>
      simp only [mailAfter, taken]
      cases control <;> rfl

end Modem

end Powerline
