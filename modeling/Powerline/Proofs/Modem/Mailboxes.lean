import Powerline.Modem.Step

/-!
# What waits for a subscriber

Once the dispatcher has taken a subscription from the channel, it is heard until its owner gives it
up or the dispatcher stops (`Hears`). Nothing that anybody else does changes what waits in its
mailbox; a message that the dispatcher passes on comes in behind the others, if the pattern holds
for it and there is room, and the owner takes the oldest (`Hears.step`).
-/

namespace Powerline

/-- The message that a packet brings to subscribers, a readable one that answers no message. -/
def Packet.news? (packet : Packet) : Option Message :=
  if packet.opcode.isHost || !packet.opcode.carriesMessage then none
  else packet.message.toOption.filter fun message => !message.isAnswer

/-- The control makes or ends the subscription. -/
def Control.Concerns (id : SubscriptionId) : Control → Prop
  | .subscribe other _ | .unsubscribe other => other = id
  | .request _ _ | .close => False

namespace Modem

/-- The event makes or ends the subscription. -/
def Event.Concerns (id : SubscriptionId) : Event → Prop
  | .subscribe other _ _ | .unsubscribe other | .discard other => other = id
  | _ => False

/-- The message is a relayed copy of one that the filter remembers. -/
def suppresses (modem : Modem) (now : Instant) (message : Message) : Bool :=
  modem.filter.any fun filter => (filter.observe now message).1

/-- The message that an event brings to the subscribers. -/
def dispatched? (modem : Modem) (now : Instant) : Event → Option Message
  | .arrive packet =>
      if modem.isRunning then packet.news?.filter fun message => !modem.suppresses now message
      else none
  | _ => none

/-- What waits in a mailbox when a message has come, if one has. -/
def queued (pattern : Pattern) (capacity : Nat) (waiting : List Message) :
    Option Message → List Message
  | some message =>
      if pattern.holds message && waiting.length < capacity then waiting ++ [message] else waiting
  | none => waiting

/-- What waits in the mailbox of a subscription after an event. -/
def waitingAfter (id : SubscriptionId) (pattern : Pattern) (capacity : Nat)
    (waiting : List Message) (modem : Modem) (now : Instant) : Event → List Message
  | .receive other => if other = id then waiting.tail else waiting
  | event => queued pattern capacity waiting (modem.dispatched? now event)

/-- The dispatcher knows the subscription with this pattern and no other, nobody is about to change
that, and these messages wait, for all of which the pattern holds. The mailbox is open as long as
the dispatcher works. -/
structure Hears (modem : Modem) (id : SubscriptionId) (pattern : Pattern) (capacity : Nat)
    (waiting : List Message) : Prop where
  mailbox : modem.mailbox? id = some ⟨id, capacity, waiting, modem.isRunning⟩
  known : modem.isRunning = true → ⟨id, pattern⟩ ∈ modem.subscribers
  only : ∀ subscriber ∈ modem.subscribers, subscriber.id = id → subscriber.pattern = pattern
  unconcerned : ∀ control ∈ modem.controls, ¬ control.Concerns id
  wanted : ∀ message ∈ waiting, pattern.holds message = true

variable {line : Line} {now : Instant} {modem next : Modem} {id other : SubscriptionId}
  {pattern : Pattern} {capacity : Nat} {waiting : List Message} {packet : Packet} {event : Event}
  {message : Message}

theorem mailbox?_map {change : Mailbox → Mailbox}
    (keeps : ∀ mailbox, (change mailbox).id = mailbox.id) :
    (modem.mailboxes.map change).find? (fun mailbox => mailbox.id = id)
      = (modem.mailbox? id).map change := by
  rw [List.find?_map, mailbox?]
  congr 2
  funext mailbox
  simp [keeps]

theorem mailbox?_updateMailbox {change : Mailbox → Mailbox}
    (keeps : ∀ mailbox, (change mailbox).id = mailbox.id) :
    (modem.updateMailbox other change).mailbox? id
      = (modem.mailbox? id).map fun mailbox =>
          if mailbox.id = other then change mailbox else mailbox := by
  apply mailbox?_map
  intro mailbox
  split
  · exact keeps mailbox
  · rfl

theorem mem_of_mem_queued {arriving : Option Message}
    (mem : message ∈ queued pattern capacity waiting arriving) :
    message ∈ waiting ∨ pattern.holds message = true := by
  cases arriving with
  | none => exact Or.inl mem
  | some arrived =>
      simp only [queued] at mem
      split at mem
      · next accepted =>
          rcases List.mem_append.mp mem with before | new
          · exact Or.inl before
          · rw [List.mem_singleton.mp new]
            simp only [Bool.and_eq_true] at accepted
            exact Or.inr accepted.1
      · exact Or.inl mem

namespace Hears

variable (hears : modem.Hears id pattern capacity waiting)

include hears

theorem of_same (mailboxes : next.mailboxes = modem.mailboxes)
    (subscribers : next.subscribers = modem.subscribers)
    (controls : ∀ control ∈ next.controls, control ∈ modem.controls ∨ ¬ control.Concerns id)
    (running : next.isRunning = modem.isRunning) : next.Hears id pattern capacity waiting where
  mailbox := by
    rw [mailbox?, mailboxes, running]
    exact hears.mailbox
  known := by
    rw [subscribers, running]
    exact hears.known
  only := by
    rw [subscribers]
    exact hears.only
  unconcerned := by
    intro control mem
    rcases controls control mem with before | apart
    · exact hears.unconcerned control before
    · exact apart
  wanted := hears.wanted

/-- When the dispatcher stops, the mailbox closes with what waits in it. -/
theorem halt : modem.halt.1.Hears id pattern capacity waiting where
  mailbox := by
    have closed : modem.halt.1.mailbox? id
        = (modem.mailbox? id).map fun mailbox => { mailbox with isOpen := false } := by
      apply mailbox?_map
      intro mailbox
      rfl
    rw [closed, hears.mailbox]
    rfl
  known := by simp [Modem.halt]
  only := by simp [Modem.halt]
  unconcerned := by simp [Modem.halt]
  wanted := hears.wanted

theorem transmitFirst (requests : List (Ticket × Request)) :
    (transmitFirst line now modem requests).1.Hears id pattern capacity waiting := by
  induction requests generalizing line with
  | nil => exact hears.of_same rfl rfl (fun _ => Or.inl) rfl
  | cons first rest ih =>
      rcases first with ⟨ticket, request⟩
      cases written : line 0 with
      | some failure =>
          simp only [Modem.transmitFirst, written]
          exact ih
      | none =>
          cases ends : Instant.after? now modem.ackTimeout with
          | some deadline =>
              simp only [Modem.transmitFirst, written, ends]
              exact hears.of_same rfl rfl (fun _ => Or.inl) rfl
          | none =>
              simp only [Modem.transmitFirst, written, ends]
              apply Hears.halt
              exact hears.of_same rfl rfl (fun _ => Or.inl) rfl

theorem startNext : (startNext line now modem).1.Hears id pattern capacity waiting := by
  unfold Modem.startNext
  split
  · exact hears
  · exact hears.transmitFirst modem.queue

omit hears in
theorem proceed {handled : Modem × List Effect}
    (hears : handled.1.Hears id pattern capacity waiting) :
    (proceed line now handled).1.Hears id pattern capacity waiting :=
  hears.startNext

theorem handleEcho : (modem.handleEcho now packet).1.Hears id pattern capacity waiting := by
  unfold Modem.handleEcho
  repeat' split
  all_goals first
    | exact hears.halt
    | exact hears.of_same rfl rfl (fun _ => Or.inl) rfl

theorem handleAnswer : (modem.handleAnswer message).1.Hears id pattern capacity waiting := by
  unfold Modem.handleAnswer
  repeat' split
  all_goals exact hears.of_same rfl rfl (fun _ => Or.inl) rfl

theorem expire : (modem.expire now).1.Hears id pattern capacity waiting := by
  unfold Modem.expire
  repeat' split
  all_goals exact hears.of_same rfl rfl (fun _ => Or.inl) rfl

theorem isListening (running : modem.isRunning = true) : modem.isListening id = true := by
  have found := List.find?_some hears.mailbox
  have mem := List.mem_of_find?_eq_some hears.mailbox
  rw [Modem.isListening, List.any_eq_true]
  exact ⟨_, mem, by simp [running]⟩

/-- A message that is delivered comes in behind the others. -/
theorem deliver (running : modem.isRunning = true) (message : Message) :
    (modem.deliver message).Hears id pattern capacity
      (queued pattern capacity waiting (some message)) where
  mailbox := by
    have wanted : (modem.subscribers.any fun subscriber =>
        subscriber.id = id && subscriber.pattern.holds message) = pattern.holds message := by
      cases holds : pattern.holds message with
      | true =>
          rw [List.any_eq_true]
          exact ⟨_, hears.known running, by simp [holds]⟩
      | false =>
          rw [List.any_eq_false]
          intro subscriber mem
          by_cases same : subscriber.id = id
          · simp [hears.only subscriber mem same, holds]
          · simp [same]
    simp only [mailbox?, Modem.deliver]
    rw [mailbox?_map, hears.mailbox]
    · simp only [Option.map_some, running, wanted, Bool.true_and, Mailbox.post, Mailbox.hasRoom,
        queued]
      cases holds : pattern.holds message with
      | true =>
          by_cases room : waiting.length < capacity
          · simp [room]
          · simp [room]
      | false => simp
    · intro mailbox
      split
      · unfold Mailbox.post
        split <;> rfl
      · rfl
  known := by
    intro _
    simp [Modem.deliver, hears.known running, hears.isListening running]
  only := by
    intro subscriber mem
    exact hears.only subscriber (List.mem_filter.mp mem).1
  unconcerned := hears.unconcerned
  wanted := by
    intro other mem
    rcases mem_of_mem_queued mem with before | holds
    · exact hears.wanted other before
    · exact holds

theorem dispatch (running : modem.isRunning = true) (now : Instant) (message : Message) :
    (modem.dispatch now message).Hears id pattern capacity
      (queued pattern capacity waiting
        (if modem.suppresses now message then none else some message)) := by
  unfold Modem.dispatch suppresses
  cases modem.filter with
  | none =>
      exact hears.deliver running message
  | some filter =>
      simp only [Option.any_some]
      split
      · next observed =>
          simp only [observed, ↓reduceIte]
          exact hears.of_same rfl rfl (fun _ => Or.inl) rfl
      · next observed =>
          simp only [observed, Bool.false_eq_true, ↓reduceIte]
          apply Hears.deliver
          · exact hears.of_same rfl rfl (fun _ => Or.inl) rfl
          · exact running

theorem handlePacket (running : modem.isRunning = true) :
    (modem.handlePacket now packet).1.Hears id pattern capacity
      (queued pattern capacity waiting (modem.dispatched? now (.arrive packet))) := by
  simp only [Modem.handlePacket, dispatched?, running, ↓reduceIte, Packet.news?]
  cases host : packet.opcode.isHost with
  | true => exact hears.handleEcho
  | false =>
      cases carries : packet.opcode.carriesMessage with
      | false => exact hears
      | true =>
          cases read : packet.message with
          | error error => exact hears
          | ok message =>
              cases answers : message.isAnswer with
              | true =>
                  simp only [Bool.false_eq_true, ↓reduceIte, Bool.not_true, Bool.or_self,
                    Except.toOption, Option.filter_some, answers, Option.filter_none, queued]
                  exact hears.handleAnswer
              | false =>
                  have dispatched := hears.dispatch running now message
                  cases copy : modem.suppresses now message <;>
                    simpa [copy, answers, Except.toOption, Option.filter_some] using dispatched

theorem leave {control : Control} (apart : ¬ control.Concerns id) :
    (modem.leave control).Hears id pattern capacity waiting := by
  refine hears.of_same rfl rfl ?_ rfl
  intro other mem
  rcases List.mem_append.mp mem with before | new
  · exact Or.inl before
  · rw [List.mem_singleton.mp new]
    exact Or.inr apart

theorem submit (request : Request) :
    (modem.submit request).1.Hears id pattern capacity waiting := by
  have numbered : Modem.Hears { modem with nextTicket := modem.nextTicket + 1 } id pattern capacity
      waiting := hears.of_same rfl rfl (fun _ => Or.inl) rfl
  unfold Modem.submit
  dsimp only
  split
  · exact numbered.leave (by simp [Control.Concerns])
  · exact numbered

theorem subscribe (apart : other ≠ id) (wanted : Pattern) (room : Nat) :
    (modem.subscribe other wanted room).Hears id pattern capacity waiting := by
  have added : Modem.Hears { modem with mailboxes := modem.mailboxes ++
      [{ id := other, capacity := max room 1, isOpen := modem.isRunning }] } id pattern capacity
      waiting := by
    refine ⟨?_, hears.known, hears.only, hears.unconcerned, hears.wanted⟩
    have found := hears.mailbox
    unfold mailbox? at found ⊢
    rw [List.find?_append, found]
    rfl
  unfold Modem.subscribe
  dsimp only
  split
  · exact added.leave apart
  · exact added

theorem updateMailbox {change : Mailbox → Mailbox} (apart : other ≠ id)
    (keeps : ∀ mailbox, (change mailbox).id = mailbox.id) :
    (modem.updateMailbox other change).Hears id pattern capacity waiting := by
  refine ⟨?_, hears.known, hears.only, hears.unconcerned, hears.wanted⟩
  rw [mailbox?_updateMailbox keeps, hears.mailbox]
  simp [Ne.symm apart, Modem.updateMailbox]

theorem unsubscribe (apart : other ≠ id) :
    (modem.unsubscribe other).Hears id pattern capacity waiting := by
  unfold Modem.unsubscribe
  split
  · have given : ¬ (Control.unsubscribe other).Concerns id := apart
    exact (hears.updateMailbox apart (by simp)).leave given
  · exact hears

theorem discard (apart : other ≠ id) :
    (modem.discard other).Hears id pattern capacity waiting := by
  have unsubscribed := hears.unsubscribe apart
  refine ⟨?_, unsubscribed.known, unsubscribed.only, unsubscribed.unconcerned, unsubscribed.wanted⟩
  have found := unsubscribed.mailbox
  unfold mailbox? at found ⊢
  rw [Modem.discard, List.find?_filter, ← found]
  congr 1
  funext mailbox
  by_cases same : mailbox.id = id
  · simp [same, Ne.symm apart]
  · simp [same]

theorem receive_self : (modem.receive id).1.Hears id pattern capacity waiting.tail := by
  unfold Modem.receive
  split
  · next found =>
      rw [hears.mailbox, Option.some.injEq, Mailbox.mk.injEq] at found
      rcases found with ⟨-, -, same, -⟩
      refine ⟨?_, hears.known, hears.only, hears.unconcerned, ?_⟩
      · dsimp only
        rw [mailbox?_updateMailbox (by simp), hears.mailbox]
        simp [same, Modem.updateMailbox]
      · intro message mem
        exact hears.wanted message (List.mem_of_mem_tail mem)
  · next empty =>
      cases waiting with
      | nil => exact hears
      | cons message rest => exact absurd hears.mailbox (empty _ _ _ _ _)

theorem receive_of_ne (apart : other ≠ id) :
    (modem.receive other).1.Hears id pattern capacity waiting := by
  unfold Modem.receive
  split
  · exact hears.updateMailbox apart (by simp)
  · exact hears

theorem handleControl {control : Control} (apart : ¬ control.Concerns id) :
    (handleControl line now modem control).1.Hears id pattern capacity waiting := by
  cases control with
  | request ticket request =>
      apply Hears.proceed
      exact hears.of_same rfl rfl (fun _ => Or.inl) rfl
  | subscribe other wanted =>
      apply Hears.proceed
      refine ⟨hears.mailbox, ?_, ?_, hears.unconcerned, hears.wanted⟩
      · intro running
        exact List.mem_append_left _ (hears.known running)
      · intro subscriber mem same
        rcases List.mem_append.mp mem with before | new
        · exact hears.only subscriber before same
        · rw [List.mem_singleton.mp new] at same
          exact absurd same apart
  | unsubscribe other =>
      apply Hears.proceed
      refine ⟨hears.mailbox, ?_, ?_, hears.unconcerned, hears.wanted⟩
      · intro running
        rw [List.mem_filter]
        exact ⟨hears.known running, by simpa using Ne.symm apart⟩
      · intro subscriber mem
        exact hears.only subscriber (List.mem_filter.mp mem).1
  | close => exact hears.halt

/-- Whatever happens, the subscription is heard on, unless the event makes or ends it. -/
theorem step (line : Line) (now : Instant) (apart : ¬ event.Concerns id) :
    (step line now modem event).1.Hears id pattern capacity
      (waitingAfter id pattern capacity waiting modem now event) := by
  cases event with
  | submit request => exact hears.submit request
  | subscribe other wanted room => exact hears.subscribe apart wanted room
  | unsubscribe other => exact hears.unsubscribe apart
  | discard other => exact hears.discard apart
  | receive other =>
      simp only [waitingAfter, Modem.step]
      split
      · next same =>
          subst same
          exact hears.receive_self
      · next other => exact hears.receive_of_ne other
  | close =>
      simp only [Modem.step]
      split
      · exact hears.leave (by simp [Control.Concerns])
      · exact hears
  | take =>
      simp only [Modem.step]
      split
      · exact hears
      · next control rest taken =>
          have unconcerned := hears.unconcerned
          rw [taken, List.forall_mem_cons] at unconcerned
          apply Hears.handleControl _ unconcerned.1
          exact ⟨hears.mailbox, hears.known, hears.only, unconcerned.2, hears.wanted⟩
  | arrive packet =>
      cases running : modem.isRunning with
      | true =>
          simp only [Modem.step, running, ↓reduceIte]
          exact (hears.handlePacket running).proceed
      | false =>
          simp only [Modem.step, running, Bool.false_eq_true, ↓reduceIte, waitingAfter, dispatched?,
            queued]
          exact hears
  | lineEnd =>
      simp only [Modem.step]
      split
      · exact hears.halt
      · exact hears
  | tick =>
      simp only [Modem.step]
      split
      · exact hears.expire.proceed
      · exact hears
  | abandon =>
      simp only [Modem.step]
      split
      · exact hears.halt
      · exact hears

end Hears

end Modem

end Powerline
