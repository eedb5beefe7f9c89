import Powerline.Bench.Carry
import Powerline.Proofs.Modem.Mail

/-!
# The course of a subscription

A subscription is asked for, then the dispatcher takes it from the channel, and in the end its owner
gives it up or the dispatcher stops (`Stands`). What its owner receives are the messages that the
dispatcher passed on in between and that it wanted while there was room (`admitted`), in their order
and nothing else (`received_are_admitted`).
-/

namespace Powerline

/-- A packet brings a message to the subscribers if it carries a readable one that answers no
message. -/
theorem Packet.news?_eq_some_iff {packet : Packet} {message : Message} :
    packet.news? = some message ↔
      (packet.opcode = .standardReceived ∨ packet.opcode = .extendedReceived) ∧
        packet.message = .ok message ∧ message.isAnswer = false := by
  have audible : (packet.opcode.isHost || !packet.opcode.carriesMessage) = false ↔
      packet.opcode = .standardReceived ∨ packet.opcode = .extendedReceived := by
    constructor
    · intro silent
      simp only [Bool.or_eq_false_iff, Bool.not_eq_false', Opcode.carriesMessage, Bool.or_eq_true,
        decide_eq_true_eq] at silent
      rcases silent with ⟨notHost, (standard | extended) | sent⟩
      · exact Or.inl standard
      · exact Or.inr extended
      · rw [sent] at notHost
        contradiction
    · rintro (same | same) <;> rw [same] <;> decide
  unfold news?
  split
  · next silent =>
      have other : ¬ (packet.opcode = .standardReceived ∨ packet.opcode = .extendedReceived) := by
        rw [← audible, silent]
        simp
      simp [other]
  · next heard =>
      have known := audible.mp (Bool.eq_false_iff.mpr heard)
      rw [Option.filter_eq_some_iff]
      cases packet.message with
      | ok found => simp [Except.toOption, known]
      | error error => simp [Except.toOption]

/-- A connection hears what the pattern holds for if it comes from its device. -/
theorem Connection.holds_heard (connection : Connection) (pattern : Pattern) (message : Message) :
    (connection.heard pattern).holds message
      = (decide (message.source = connection.address) && pattern.holds message) := by
  change (Pattern.all [.source connection.address, pattern]).holds message = _
  simp [Pattern.holds, Pattern.allHold]

namespace Modem

/-- How far a subscription has come. -/
inductive Standing where
  | asked
  /-- The dispatcher has taken it from the channel. -/
  | registered
  /-- Its owner has given it up. -/
  | givenUp
  deriving DecidableEq

/-- The dispatcher takes the subscription from the channel. -/
def registers (id : SubscriptionId) (modem : Modem) : Event → Bool
  | .take =>
      match modem.controls with
      | .subscribe other _ :: _ => other = id
      | _ => false
  | _ => false

/-- The owner gives the subscription up. -/
def Event.givesUp (id : SubscriptionId) : Event → Bool
  | .unsubscribe other | .discard other => other = id
  | _ => false

/-- How far a subscription has come after an event. -/
def Standing.after (standing : Standing) (id : SubscriptionId) (modem : Modem) (event : Event) :
    Standing :=
  if event.givesUp id then .givenUp
  else if standing = .asked && modem.registers id event then .registered
  else standing

/-- The message that an event brings into the mailbox of a subscription: one that the dispatcher
passes on while the subscription is registered, that it wants, and that there is room for. -/
def admitted? (id : SubscriptionId) (pattern : Pattern) (room : Nat) (standing : Standing)
    (modem : Modem) (now : Instant) (event : Event) : Option Message :=
  (modem.dispatched? now event).filter fun message =>
    standing = .registered && pattern.holds message && (modem.waitingFor id).length < room

/-- The messages that a run brings into the mailbox of a subscription, in their order. -/
def admitted (id : SubscriptionId) (pattern : Pattern) (room : Nat) (standing : Standing)
    (modem : Modem) : List Moment → List Message
  | [] => []
  | moment :: rest =>
      (modem.admitted? id pattern room standing moment.now moment.event).toList
        ++ (step moment.line moment.now modem moment.event).1.admitted id pattern room
          (standing.after id modem moment.event) rest

/-- How far a subscription has come after a run. -/
def Standing.behind (standing : Standing) (id : SubscriptionId) (modem : Modem) :
    List Moment → Standing
  | [] => standing
  | moment :: rest =>
      (standing.after id modem moment.event).behind id
        (step moment.line moment.now modem moment.event).1 rest

/-- The subscription was asked for and waits in the channel; nothing can be heard yet. -/
structure Mail.Asked (mail : Mail) (id : SubscriptionId) (pattern : Pattern) (room : Nat) :
    Prop where
  running : mail.isRunning = true
  mailbox : mail.mailbox? id = some ⟨id, room, [], true⟩
  unknown : ∀ subscriber ∈ mail.subscribers, subscriber.id ≠ id
  asked : ∃ before after, mail.controls = before ++ .subscribe id pattern :: after ∧
    ∀ control ∈ before ++ after, ¬ control.Concerns id

/-- Nothing has been heard of the subscription. -/
structure Mail.Lacks (mail : Mail) (id : SubscriptionId) : Prop where
  mailbox : mail.mailbox? id = none
  unknown : ∀ subscriber ∈ mail.subscribers, subscriber.id ≠ id
  unconcerned : ∀ control ∈ mail.controls, ¬ control.Concerns id

/-- No more messages come, as the owner has given the subscription up or the dispatcher has
stopped. -/
def Deaf (standing : Standing) (modem : Modem) : Prop :=
  standing = .givenUp ∨ modem.isRunning = false

/-- How far a subscription has come, and what waits for it. -/
inductive Stands (id : SubscriptionId) (pattern : Pattern) (room : Nat) :
    Standing → List Message → Modem → Prop where
  | asked {modem : Modem} (asked : modem.mail.Asked id pattern room) :
      Stands id pattern room .asked [] modem
  | heard {modem : Modem} {waiting : List Message} (hears : modem.Hears id pattern room waiting) :
      Stands id pattern room .registered waiting modem
  | ended {modem : Modem} {standing : Standing} {waiting : List Message}
      (mailbox : modem.mailbox? id = some ⟨id, room, waiting, false⟩) (deaf : Deaf standing modem) :
      Stands id pattern room standing waiting modem
  | gone {modem : Modem} (mailbox : modem.mailbox? id = none) :
      Stands id pattern room .givenUp [] modem

variable {line : Line} {now : Instant} {modem next : Modem} {id : SubscriptionId}
  {pattern : Pattern} {room capacity : Nat} {waiting : List Message} {event : Event} {mail : Mail}
  {moments : List Moment} {standing : Standing} {message : Message}

/-- The dispatcher passes a message on if it has arrived in a packet that carries messages from
devices, answers no message and is no relayed copy. -/
theorem dispatched?_eq_some_iff :
    modem.dispatched? now event = some message ↔
      modem.isRunning = true ∧ modem.suppresses now message = false ∧
        ∃ packet, event = .arrive packet ∧
          (packet.opcode = .standardReceived ∨ packet.opcode = .extendedReceived) ∧
            packet.message = .ok message ∧ message.isAnswer = false := by
  cases event with
  | arrive packet =>
      cases running : modem.isRunning with
      | true =>
          simp only [dispatched?, running, ↓reduceIte, Option.filter_eq_some_iff,
            Packet.news?_eq_some_iff, Bool.not_eq_true', Event.arrive.injEq, exists_eq_left',
            true_and]
          exact and_comm
      | false => simp [dispatched?, running]
  | submit | subscribe | unsubscribe | discard | receive | close | take | lineEnd | tick
  | abandon => simp [dispatched?]

theorem admitted?_eq_some_iff :
    modem.admitted? id pattern room standing now event = some message ↔
      standing = .registered ∧ modem.dispatched? now event = some message ∧
        pattern.holds message = true ∧ (modem.waitingFor id).length < room := by
  simp only [admitted?, Option.filter_eq_some_iff, Bool.and_eq_true, decide_eq_true_eq]
  tauto

/-! ### Steps -/

theorem Event.ne_subscribe (apart : ¬ event.Concerns id) :
    ∀ pattern capacity, event ≠ .subscribe id pattern capacity := by
  rintro pattern capacity rfl
  exact apart rfl

theorem unknown_mailAfter (unknown : ∀ subscriber ∈ modem.subscribers, subscriber.id ≠ id)
    (waits : modem.registers id event = false) :
    ∀ subscriber ∈ (modem.mailAfter now event).subscribers, subscriber.id ≠ id := by
  rintro subscriber mem rfl
  rcases mem_subscribers_mailAfter mem with before | ⟨rfl, rest, taken⟩
  · exact unknown subscriber before rfl
  · simp [registers, taken] at waits

theorem registers_of_unconcerned (unconcerned : ∀ control ∈ modem.controls, ¬ control.Concerns id) :
    modem.registers id event = false := by
  unfold registers
  split
  · split
    · next other wanted rest taken =>
        rw [taken, List.forall_mem_cons] at unconcerned
        exact decide_eq_false unconcerned.1
    · rfl
  · rfl

namespace Mail.Lacks

theorem mailAfter (lacks : modem.mail.Lacks id) (now : Instant) (apart : ¬ event.Concerns id) :
    (modem.mailAfter now event).Lacks id where
  mailbox := by
    rw [mailbox?_mailAfter now modem (Event.ne_subscribe apart)]
    change (modem.mail.mailbox? id).bind _ = none
    rw [lacks.mailbox]
    rfl
  unknown := by
    apply unknown_mailAfter lacks.unknown
    exact registers_of_unconcerned lacks.unconcerned
  unconcerned := by
    intro control mem
    rcases Classical.em (event = .take) with rfl | other
    · rw [controls_mailAfter_take] at mem
      exact lacks.unconcerned control (List.mem_of_mem_tail mem)
    · rw [controls_mailAfter now modem other, List.mem_append, Option.mem_toList] at mem
      rcases mem with before | left
      · exact lacks.unconcerned control before
      · intro concerns
        exact apart (concerns_of_leaves? left concerns)

theorem close (lacks : mail.Lacks id) : mail.close.Lacks id where
  mailbox := by
    rw [mailbox?_close, lacks.mailbox]
    rfl
  unknown := by simp [Mail.close]
  unconcerned := by simp [Mail.close]

theorem step (lacks : modem.mail.Lacks id) (line : Line) (now : Instant)
    (apart : ¬ event.Concerns id) : (step line now modem event).1.mail.Lacks id := by
  have next := lacks.mailAfter now apart
  rcases mail_step line now modem event with same | closed
  · rw [same]
    exact next
  · rw [closed]
    exact next.close

theorem run (lacks : modem.mail.Lacks id)
    (apart : ∀ moment ∈ moments, ¬ moment.event.Concerns id) :
    (modem.run moments).1.mail.Lacks id := by
  induction moments generalizing modem with
  | nil => exact lacks
  | cons moment rest ih =>
      rw [List.forall_mem_cons] at apart
      exact ih (lacks.step moment.line moment.now apart.1) apart.2

/-- A new subscription is asked for, unless the dispatcher has stopped. -/
theorem subscribe (lacks : modem.mail.Lacks id) (pattern : Pattern) (capacity : Nat) :
    Stands id pattern (max capacity 1) .asked [] (modem.subscribe id pattern capacity) := by
  have missing : modem.mailboxes.find? (fun mailbox => mailbox.id = id) = none := lacks.mailbox
  cases running : modem.isRunning with
  | true =>
      simp only [Modem.subscribe, running, ↓reduceIte]
      apply Stands.asked
      refine ⟨rfl, ?_, lacks.unknown, modem.controls, [], rfl, ?_⟩
      · simp [mail, leave, mailbox?, List.find?_append, missing]
      · rw [List.append_nil]
        exact lacks.unconcerned
  | false =>
      simp only [Modem.subscribe, running, Bool.false_eq_true, ↓reduceIte]
      refine Stands.ended ?_ (Or.inr rfl)
      simp [Modem.mailbox?, List.find?_append, missing]

end Mail.Lacks

theorem boxAfter_of_unknown (now : Instant)
    (unknown : ∀ subscriber ∈ modem.subscribers, subscriber.id ≠ id)
    (apart : ¬ event.Concerns id) :
    modem.boxAfter id now event ⟨id, room, [], true⟩ = some ⟨id, room, [], true⟩ := by
  cases event with
  | unsubscribe other | discard other =>
      have others : other ≠ id := apart
      simp [boxAfter, others]
  | receive other => simp [boxAfter]
  | arrive packet =>
      cases brings : modem.dispatched? now (.arrive packet) with
      | none => simp only [boxAfter, brings]
      | some message =>
          have unheard : (modem.subscribers.any fun subscriber =>
              subscriber.id = id && subscriber.pattern.holds message) = false := by
            rw [List.any_eq_false]
            intro subscriber mem
            simp [unknown subscriber mem]
          simp [boxAfter, brings, unheard]
  | submit | subscribe | close | take | lineEnd | tick | abandon => rfl

namespace Mail.Asked

theorem mailAfter (asked : modem.mail.Asked id pattern room) (now : Instant)
    (apart : ¬ event.Concerns id) (waits : modem.registers id event = false) :
    (modem.mailAfter now event).Asked id pattern room := by
  rcases asked with ⟨running, mailbox, unknown, before, after, controls, unconcerned⟩
  change modem.controls = _ at controls
  have mailboxAfter : (modem.mailAfter now event).mailbox? id = some ⟨id, room, [], true⟩ := by
    rw [mailbox?_mailAfter now modem (Event.ne_subscribe apart)]
    change (modem.mail.mailbox? id).bind _ = _
    rw [mailbox]
    exact boxAfter_of_unknown now unknown apart
  refine ⟨(isRunning_mailAfter now modem event).trans running, mailboxAfter,
    unknown_mailAfter unknown waits, ?_⟩
  · rcases Classical.em (event = .take) with rfl | other
    · rw [controls_mailAfter_take, controls]
      cases before with
      | nil => simp [registers, controls] at waits
      | cons control rest =>
          rw [List.cons_append, List.forall_mem_cons] at unconcerned
          exact ⟨rest, after, rfl, unconcerned.2⟩
    · refine ⟨before, after ++ (modem.leaves? event).toList, ?_, ?_⟩
      · rw [controls_mailAfter now modem other, controls, List.append_assoc, List.cons_append]
      · intro control mem
        rw [← List.append_assoc, List.mem_append, Option.mem_toList] at mem
        rcases mem with early | left
        · exact unconcerned control early
        · intro concerns
          exact apart (concerns_of_leaves? left concerns)

/-- The dispatcher takes a subscription from the channel and hears it from then on. -/
theorem register (asked : modem.mail.Asked id pattern room) (line : Line) (now : Instant)
    (taken : modem.registers id event = true) :
    (Modem.step line now modem event).1.Hears id pattern room [] := by
  rcases asked with ⟨running, mailbox, unknown, before, after, controls, unconcerned⟩
  change modem.controls = _ at controls
  cases event with
  | take =>
      cases before with
      | nil =>
          simp only [Modem.step, controls, List.nil_append, handleControl]
          apply Hears.proceed
          refine ⟨?_, ?_, ?_, unconcerned, by simp⟩
          · change modem.mail.mailbox? id = _
            rw [mailbox]
            rw [show modem.isRunning = true from running]
          · intro _
            simp
          · intro subscriber mem same
            rcases List.mem_append.mp mem with early | new
            · exact absurd same (unknown subscriber early)
            · rw [List.mem_singleton.mp new]
      | cons control rest =>
          -- The first control has nothing to do with the subscription.
          have other := unconcerned control List.mem_cons_self
          cases control with
          | subscribe owner wanted =>
              have same : owner = id := by simpa [registers, controls] using taken
              exact absurd same other
          | request | unsubscribe | close => simp [registers, controls] at taken
  | submit | subscribe | unsubscribe | discard | receive | close | arrive | lineEnd | tick
  | abandon => contradiction

end Mail.Asked

theorem waitingFor_of_mailbox? {mailbox : Mailbox} (found : modem.mailbox? id = some mailbox) :
    modem.waitingFor id = mailbox.waiting := by
  rw [waitingFor, found]
  rfl

/-- A closed mailbox changes only when its owner takes something out of it. -/
theorem mailbox?_step_of_closed (mailbox : modem.mailbox? id = some ⟨id, room, waiting, false⟩)
    (line : Line) (now : Instant) (fresh : ∀ pattern room, event ≠ .subscribe id pattern room)
    (kept : event ≠ .discard id) :
    ∃ rest, waiting = (modem.taken? id event).toList ++ rest ∧
      (step line now modem event).1.mailbox? id = some ⟨id, room, rest, false⟩ := by
  have changed : ∃ rest, waiting = (modem.taken? id event).toList ++ rest ∧
      modem.boxAfter id now event ⟨id, room, waiting, false⟩ = some ⟨id, room, rest, false⟩ := by
    cases event with
    | receive other =>
        rw [taken?, waitingFor_of_mailbox? mailbox]
        rcases Classical.em (other = id) with rfl | apart
        · refine ⟨waiting.tail, ?_, by simp [boxAfter]⟩
          cases waiting <;> simp
        · exact ⟨waiting, by simp [apart], by simp [boxAfter, apart]⟩
    | discard other =>
        have apart : other ≠ id := by
          rintro rfl
          exact kept rfl
        exact ⟨waiting, rfl, by simp [boxAfter, apart]⟩
    | unsubscribe other => exact ⟨waiting, rfl, by simp [boxAfter]⟩
    | arrive packet =>
        refine ⟨waiting, rfl, ?_⟩
        cases brings : modem.dispatched? now (.arrive packet) <;> simp [boxAfter, brings]
    | submit | subscribe | close | take | lineEnd | tick | abandon => exact ⟨waiting, rfl, rfl⟩
  rcases changed with ⟨rest, split, box⟩
  have after : (modem.mailAfter now event).mailbox? id = some ⟨id, room, rest, false⟩ := by
    rw [mailbox?_mailAfter now modem fresh, mailbox]
    exact box
  refine ⟨rest, split, ?_⟩
  change (Modem.step line now modem event).1.mail.mailbox? id = _
  rcases mail_step line now modem event with same | closed
  · rw [same, after]
  · rw [closed, mailbox?_close, after]
    rfl

/-- No mailbox comes from anything but a subscription. -/
theorem mailbox?_step_of_none (mailbox : modem.mailbox? id = none) (line : Line) (now : Instant)
    (fresh : ∀ pattern room, event ≠ .subscribe id pattern room) :
    (step line now modem event).1.mailbox? id = none := by
  have after : (modem.mailAfter now event).mailbox? id = none := by
    rw [mailbox?_mailAfter now modem fresh, mailbox]
    rfl
  change (Modem.step line now modem event).1.mail.mailbox? id = none
  rcases mail_step line now modem event with same | closed
  · rw [same, after]
  · rw [closed, mailbox?_close, after]
    rfl

theorem isRunning_step_of_stopped (stopped : modem.isRunning = false) (line : Line) (now : Instant)
    (event : Event) : (step line now modem event).1.isRunning = false := by
  change (step line now modem event).1.mail.isRunning = false
  rcases mail_step line now modem event with same | closed
  · rw [same, isRunning_mailAfter, stopped]
  · rw [closed]
    rfl

theorem admitted?_of_ne (other : standing ≠ .registered) :
    modem.admitted? id pattern room standing now event = none := by
  simp [admitted?, other]

theorem admitted?_of_deaf (deaf : Deaf standing modem) :
    modem.admitted? id pattern room standing now event = none := by
  rcases deaf with rfl | stopped
  · exact admitted?_of_ne (by simp)
  · cases event <;> simp [admitted?, dispatched?, stopped]

@[simp]
theorem Standing.after_givenUp (id : SubscriptionId) (modem : Modem) (event : Event) :
    Standing.givenUp.after id modem event = .givenUp := by
  unfold after
  split <;> rfl

/-- Whoever hears nothing any more never does again. -/
theorem Deaf.step (deaf : Deaf standing modem) (id : SubscriptionId) (line : Line) (now : Instant)
    (event : Event) : Deaf (standing.after id modem event) (Modem.step line now modem event).1 := by
  rcases deaf with rfl | stopped
  · exact Or.inl (Standing.after_givenUp id modem event)
  · exact Or.inr (isRunning_step_of_stopped stopped line now event)

theorem Deaf.run (deaf : Deaf standing modem) (id : SubscriptionId) (moments : List Moment) :
    Deaf (standing.behind id modem moments) (modem.run moments).1 := by
  induction moments generalizing modem standing with
  | nil => exact deaf
  | cons moment rest ih => exact ih (deaf.step id moment.line moment.now moment.event)

theorem Standing.after_of_kept (standing : Standing) (kept : event.givesUp id = false) :
    standing.after id modem event
      = if standing = .asked && modem.registers id event then .registered else standing := by
  rw [after, kept]
  rfl

namespace Stands

theorem waitingFor_eq (stands : Stands id pattern room standing waiting modem) :
    modem.waitingFor id = waiting := by
  cases stands with
  | asked asked => exact waitingFor_of_mailbox? asked.mailbox
  | heard hears => exact hears.waitingFor_eq
  | ended mailbox => exact waitingFor_of_mailbox? mailbox
  | gone mailbox => rw [waitingFor, mailbox]; rfl

theorem mailbox?_eq (stands : Stands id pattern room standing waiting modem) :
    (∃ isOpen, modem.mailbox? id = some ⟨id, room, waiting, isOpen⟩) ∨
      standing = .givenUp ∧ waiting = [] ∧ modem.mailbox? id = none := by
  cases stands with
  | asked asked => exact Or.inl ⟨true, asked.mailbox⟩
  | heard hears => exact Or.inl ⟨_, hears.mailbox⟩
  | ended mailbox => exact Or.inl ⟨false, mailbox⟩
  | gone mailbox => exact Or.inr ⟨rfl, rfl, mailbox⟩

/-- An owner that unsubscribes keeps what waits for it. -/
theorem unsubscribe (stands : Stands id pattern room standing waiting modem) :
    Stands id pattern room .givenUp waiting (modem.unsubscribe id) := by
  have closed := mailbox?_unsubscribe modem id id
  rcases stands.mailbox?_eq with ⟨isOpen, mailbox⟩ | ⟨_, rfl, gone⟩
  · rw [mailbox] at closed
    refine .ended ?_ (Or.inl rfl)
    simpa using closed
  · rw [gone] at closed
    exact .gone closed

/-- What an event of others does for a subscription that waits in the channel. -/
theorem step_of_asked (asked : modem.mail.Asked id pattern room) (line : Line) (now : Instant)
    (apart : ¬ event.Concerns id) (kept : event.givesUp id = false) :
    Stands id pattern room (Standing.asked.after id modem event) []
      (Modem.step line now modem event).1 := by
  rw [Standing.after_of_kept _ kept]
  cases taken : modem.registers id event with
  | true => exact .heard (asked.register line now taken)
  | false =>
      have next := asked.mailAfter now apart taken
      rcases mail_step line now modem event with same | closed
      · refine .asked ?_
        rw [same]
        exact next
      · refine .ended ?_ (Or.inr ?_)
        · change (Modem.step line now modem event).1.mail.mailbox? id = _
          rw [closed, mailbox?_close, next.mailbox]
          rfl
        · change (Modem.step line now modem event).1.mail.isRunning = false
          rw [closed]
          rfl

/-- What an event does for a subscription that is heard. -/
theorem step_of_heard (hears : modem.Hears id pattern room waiting) (line : Line) (now : Instant)
    (apart : ¬ event.Concerns id) :
    ∃ more, (Modem.step line now modem event).1.Hears id pattern room more ∧
      waiting ++ (modem.admitted? id pattern room .registered now event).toList
        = (modem.taken? id event).toList ++ more := by
  rcases hears.step_taken line now apart with ⟨rest, split, next⟩
  refine ⟨_, next, ?_⟩
  cases brings : modem.dispatched? now event with
  | none => simp [admitted?, brings, queued, split]
  | some message =>
      rcases (dispatched?_eq_some_iff.mp brings).2.2 with ⟨packet, rfl, _⟩
      have same : waiting = rest := split
      subst same
      simp only [admitted?, brings, queued, hears.waitingFor_eq, decide_true, Bool.true_and,
        Option.filter_some, taken?, Option.toList_none, List.nil_append]
      split <;> simp

/-- What an event does for a subscription. Only an owner that throws its mailbox away loses
what waits in it. -/
theorem step (stands : Stands id pattern room standing waiting modem) (line : Line) (now : Instant)
    (fresh : ∀ pattern room, event ≠ .subscribe id pattern room) :
    ∃ more lost,
      Stands id pattern room (standing.after id modem event) more
        (Modem.step line now modem event).1 ∧
      waiting ++ (modem.admitted? id pattern room standing now event).toList
        = (modem.taken? id event).toList ++ more ++ lost ∧
      (event ≠ .discard id → lost = []) := by
  rcases Classical.em (event = .unsubscribe id) with rfl | notUnsubscribed
  · have givenUp : standing.after id modem (.unsubscribe id) = .givenUp := by
      simp [Standing.after, Event.givesUp]
    refine ⟨waiting, [], ?_, by simp [admitted?, dispatched?, taken?], fun _ => rfl⟩
    rw [givenUp]
    exact stands.unsubscribe
  rcases Classical.em (event = .discard id) with rfl | notDiscarded
  · have givenUp : standing.after id modem (.discard id) = .givenUp := by
      simp [Standing.after, Event.givesUp]
    refine ⟨[], waiting, ?_, by simp [admitted?, dispatched?, taken?], fun kept => absurd rfl kept⟩
    rw [givenUp]
    refine .gone ?_
    change (modem.discard id).mailbox? id = none
    rw [mailbox?_discard, if_pos rfl]
  -- What is left has nothing to do with the course of the subscription.
  have apart : ¬ event.Concerns id := by
    cases event with
    | subscribe other wanted capacity =>
        rintro rfl
        exact fresh wanted capacity rfl
    | unsubscribe other =>
        rintro rfl
        exact notUnsubscribed rfl
    | discard other =>
        rintro rfl
        exact notDiscarded rfl
    | submit | receive | close | take | arrive | lineEnd | tick | abandon => exact not_false
  have kept : event.givesUp id = false := by
    cases event with
    | unsubscribe | discard => exact decide_eq_false apart
    | submit | subscribe | receive | close | take | arrive | lineEnd | tick | abandon => rfl
  cases stands with
  | asked asked =>
      have nothing : modem.taken? id event = none := by
        have empty := waitingFor_of_mailbox? asked.mailbox
        cases event <;> simp [taken?, empty]
      refine ⟨[], [], step_of_asked asked line now apart kept, ?_, fun _ => rfl⟩
      rw [admitted?_of_ne (by simp), nothing]
      rfl
  | heard hears =>
      rcases step_of_heard hears line now apart with ⟨more, next, balance⟩
      refine ⟨more, [], ?_, by rw [balance, List.append_nil], fun _ => rfl⟩
      rw [Standing.after_of_kept _ kept]
      exact .heard next
  | ended mailbox deaf =>
      rcases mailbox?_step_of_closed mailbox line now fresh notDiscarded with ⟨rest, split, next⟩
      refine ⟨rest, [], .ended next (deaf.step id line now event), ?_, fun _ => rfl⟩
      rw [admitted?_of_deaf deaf, split]
      simp
  | gone mailbox =>
      have nothing : modem.taken? id event = none := by
        cases event <;> simp [taken?, waitingFor, mailbox]
      refine ⟨[], [], ?_, ?_, fun _ => rfl⟩
      · rw [Standing.after_givenUp]
        exact .gone (mailbox?_step_of_none mailbox line now fresh)
      · rw [admitted?_of_ne (by simp), nothing]
        rfl

end Stands

/-- What is found in a mailbox to which no more messages come: the oldest one that waits, or the
end. -/
def leftIn : List Message → Except Error Message
  | message :: _ => .ok message
  | [] => .error .closed

/-- Whoever hears nothing any more finds what waits for it, and then the end. -/
theorem Stands.poll_of_deaf {bench : Bench} (stands : Stands id pattern room standing waiting modem)
    (deaf : Deaf standing modem) (same : bench.modem = modem) :
    bench.poll id = some (leftIn waiting) := by
  have closed : modem.mailbox? id = none ∧ waiting = [] ∨
      modem.mailbox? id = some ⟨id, room, waiting, false⟩ := by
    cases stands with
    | asked asked =>
        rcases deaf with givenUp | stopped
        · contradiction
        · rw [show modem.isRunning = true from asked.running] at stopped
          contradiction
    | heard hears =>
        right
        rcases deaf with givenUp | stopped
        · contradiction
        · rw [hears.mailbox, stopped]
    | ended mailbox => exact Or.inr mailbox
    | gone mailbox => exact Or.inl ⟨mailbox, rfl⟩
  subst same
  rcases closed with ⟨gone, rfl⟩ | mailbox
  · simp only [Bench.poll, gone, leftIn]
  · simp only [Bench.poll, mailbox, Bool.false_eq_true, ↓reduceIte]
    cases waiting <;> rfl

theorem deaf_of_givesUp (gives : ∃ moment ∈ moments, moment.event.givesUp id = true) :
    Deaf (standing.behind id modem moments) (modem.run moments).1 := by
  induction moments generalizing modem standing with
  | nil => simp at gives
  | cons moment rest ih =>
      cases now : moment.event.givesUp id with
      | true =>
          have givenUp : standing.after id modem moment.event = .givenUp := if_pos now
          exact Deaf.run (Or.inl givenUp) id rest
      | false =>
          apply ih
          simpa [now] using gives

theorem behind_append (modem : Modem) (standing : Standing) (past rest : List Moment) :
    standing.behind id modem (past ++ rest)
      = (standing.behind id modem past).behind id (modem.run past).1 rest := by
  induction past generalizing modem standing with
  | nil => rfl
  | cons moment past ih => exact ih _ _

theorem admitted_append (modem : Modem) (standing : Standing) (past rest : List Moment) :
    modem.admitted id pattern room standing (past ++ rest)
      = modem.admitted id pattern room standing past
        ++ (modem.run past).1.admitted id pattern room (standing.behind id modem past) rest := by
  induction past generalizing modem standing with
  | nil => rfl
  | cons moment past ih =>
      simp only [List.cons_append, admitted, ih, List.append_assoc]
      rfl

/-- Nothing is admitted once the owner has given the subscription up or the dispatcher has
stopped. -/
theorem admitted_of_deaf (deaf : Deaf standing modem) :
    modem.admitted id pattern room standing moments = [] := by
  induction moments generalizing modem standing with
  | nil => rfl
  | cons moment rest ih =>
      rw [admitted, ih (deaf.step id moment.line moment.now moment.event), admitted?_of_deaf deaf]
      rfl

/-- What a run does for a subscription: its owner receives what waited and what is admitted, in this
order, and the rest of that waits on, unless the owner throws it away. -/
theorem Stands.run (stands : Stands id pattern room standing waiting modem)
    (fresh : ∀ moment ∈ moments, ∀ pattern room, moment.event ≠ .subscribe id pattern room) :
    ∃ more lost,
      Stands id pattern room (standing.behind id modem moments) more (modem.run moments).1 ∧
      waiting ++ modem.admitted id pattern room standing moments
        = received id (modem.run moments).2 ++ more ++ lost ∧
      ((∀ moment ∈ moments, moment.event ≠ .discard id) → lost = []) := by
  induction moments generalizing modem standing waiting with
  | nil => exact ⟨waiting, [], stands, by simp [admitted, Modem.run], fun _ => rfl⟩
  | cons moment rest ih =>
      rw [List.forall_mem_cons] at fresh
      rcases stands.step moment.line moment.now fresh.1 with ⟨middle, lost, next, balance, kept⟩
      rcases ih next fresh.2 with ⟨more, later, final, laterBalance, laterKept⟩
      -- Whoever has thrown the mailbox away is not admitted anything afterwards.
      have apart : lost ++ (Modem.step moment.line moment.now modem moment.event).1.admitted id
          pattern room (standing.after id modem moment.event) rest
            = (Modem.step moment.line moment.now modem moment.event).1.admitted id pattern room
          (standing.after id modem moment.event) rest ++ lost := by
        rcases Classical.em (moment.event = .discard id) with discarded | other
        · have givenUp : standing.after id modem moment.event = .givenUp := by
            simp [Standing.after, Event.givesUp, discarded]
          rw [admitted_of_deaf (Or.inl givenUp), List.append_nil, List.nil_append]
        · rw [kept other, List.append_nil, List.nil_append]
      refine ⟨more, later ++ lost, final, ?_, ?_⟩
      · simp only [Modem.run, admitted, received_append, received_step]
        rw [← List.append_assoc, balance, List.append_assoc, apart, ← List.append_assoc,
          List.append_assoc _ middle, laterBalance]
        simp only [List.append_assoc]
      · intro undiscarded
        rw [List.forall_mem_cons] at undiscarded
        rw [laterKept undiscarded.2, kept undiscarded.1, List.append_nil]

/-- When nothing more comes for a subscription, its owner receives what waits, and then the end,
unless it throws the mailbox away. -/
theorem Stands.run_of_deaf (stands : Stands id pattern room standing waiting modem)
    (deaf : Deaf standing modem)
    (fresh : ∀ moment ∈ moments, ∀ pattern room, moment.event ≠ .subscribe id pattern room) :
    (∃ lost, modem.waitingFor id
        = received id (modem.run moments).2 ++ (modem.run moments).1.waitingFor id ++ lost ∧
      ((∀ moment ∈ moments, moment.event ≠ .discard id) → lost = [])) ∧
      ∀ bench : Bench, bench.modem = (modem.run moments).1 →
        bench.poll id = some (leftIn ((modem.run moments).1.waitingFor id)) := by
  rcases stands.run fresh with ⟨left, lost, leaves, balance, kept⟩
  have silent : modem.admitted id pattern room standing moments = [] := admitted_of_deaf deaf
  rw [silent, List.append_nil, ← stands.waitingFor_eq, ← leaves.waitingFor_eq] at balance
  refine ⟨⟨lost, balance, kept⟩, ?_⟩
  intro bench same
  rw [leaves.waitingFor_eq]
  exact leaves.poll_of_deaf (deaf.run id moments) same

/-- What is admitted comes from the messages that the dispatcher passes on, in their order. -/
theorem admitted_sublist (modem : Modem) (standing : Standing) (moments : List Moment) :
    (modem.admitted id pattern room standing moments).Sublist
      ((modem.reports some moments).map Prod.snd) := by
  induction moments generalizing modem standing with
  | nil => exact List.Sublist.refl []
  | cons moment rest ih =>
      rw [map_snd_reports_cons, admitted]
      apply List.Sublist.append _ (ih _ _)
      cases brings : modem.dispatched? moment.now moment.event with
      | none => simp [admitted?, brings]
      | some message =>
          rw [admitted?, brings, Option.filter_some]
          split <;> simp

theorem holds_of_mem_admitted (mem : message ∈ modem.admitted id pattern room standing moments) :
    pattern.holds message = true := by
  induction moments generalizing modem standing with
  | nil => contradiction
  | cons moment rest ih =>
      rcases List.mem_append.mp mem with now | later
      · rw [Option.mem_toList] at now
        exact (admitted?_eq_some_iff.mp now).2.2.1
      · exact ih later

/-- Nobody has heard anything of a subscription that is new. -/
theorem lacks_new (ackTimeout : Duration) (filter : Option RelayFilter) (id : SubscriptionId) :
    (Modem.mail { ackTimeout, filter }).Lacks id where
  mailbox := rfl
  unknown := by simp [Modem.mail]
  unconcerned := by simp [Modem.mail]

/-- In every run of a new modem, what a subscription has received and what waits for it are together
the messages admitted to it, in their order; only an owner that throws its mailbox away loses what
waits there. All of them are messages that the pattern holds for, and on a connection they come from
its device. Once the owner has given the subscription up, no matter how often, or the dispatcher has
stopped, nothing more is admitted: what waits is still received, and then the end. -/
theorem received_are_admitted (ackTimeout : Duration) (filter : Option RelayFilter)
    (before after : List Moment) (asking : Moment) (id : SubscriptionId) (pattern : Pattern)
    (capacity : Nat) (asks : asking.event = .subscribe id pattern capacity)
    (isNew : ∀ moment ∈ before, ¬ moment.event.Concerns id)
    (once : ∀ moment ∈ after, ∀ pattern capacity, moment.event ≠ .subscribe id pattern capacity) :
    let start := (run { ackTimeout, filter } (before ++ [asking])).1
    let final := (start.run after).1
    let received := received id (start.run after).2
    let admitted := start.admitted id pattern (max capacity 1) .asked after
    let undiscarded := ∀ moment ∈ after, moment.event ≠ .discard id
    (∃ lost, admitted = received ++ final.waitingFor id ++ lost ∧ (undiscarded → lost = [])) ∧
      admitted.Sublist ((start.reports some after).map Prod.snd) ∧
      (∀ message ∈ received, pattern.holds message = true) ∧
      (∀ (connection : Connection) wanted, pattern = connection.heard wanted →
        ∀ message ∈ received, message.source = connection.address ∧ wanted.holds message = true) ∧
      ∀ past rest, past ++ rest = after →
        let middle := (start.run past).1
        (∃ moment ∈ past, moment.event.givesUp id = true) ∨ middle.isRunning = false →
          start.admitted id pattern (max capacity 1) .asked past = admitted ∧
          (∃ lost, middle.waitingFor id
              = Modem.received id (middle.run rest).2 ++ final.waitingFor id ++ lost ∧
            (undiscarded → lost = [])) ∧
          ∀ bench : Bench, bench.modem = final →
            bench.poll id = some (leftIn (final.waitingFor id)) := by
  intro start final received admitted undiscarded
  have stands : Stands id pattern (max capacity 1) .asked [] start := by
    have lacks := (lacks_new ackTimeout filter id).run isNew
    simp only [start, run_append_singleton, asks]
    exact lacks.subscribe pattern capacity
  rcases stands.run once with ⟨more, lost, ended, balance, kept⟩
  rw [List.nil_append, ← ended.waitingFor_eq] at balance
  have wanted : ∀ message ∈ received, pattern.holds message = true := by
    intro message mem
    refine holds_of_mem_admitted (?_ : message ∈ admitted)
    change admitted = _ at balance
    rw [balance, List.append_assoc]
    exact List.mem_append_left _ mem
  refine ⟨⟨lost, balance, kept⟩, admitted_sublist start .asked after, wanted, ?_, ?_⟩
  · rintro connection heard rfl message mem
    simpa [Connection.holds_heard] using wanted message mem
  · rintro past rest whole middle ends
    have pastFresh : ∀ moment ∈ past, ∀ pattern room,
        moment.event ≠ .subscribe id pattern room := by
      intro moment mem
      exact once moment (whole ▸ List.mem_append_left rest mem)
    have restFresh : ∀ moment ∈ rest, ∀ pattern room,
        moment.event ≠ .subscribe id pattern room := by
      intro moment mem
      exact once moment (whole ▸ List.mem_append_right past mem)
    have deaf : Deaf (Standing.asked.behind id start past) middle := by
      rcases ends with gives | stopped
      · exact deaf_of_givesUp gives
      · exact Or.inr stopped
    have same : final = (middle.run rest).1 := by
      simp only [final, ← whole, run_append, middle]
    rcases stands.run pastFresh with ⟨waiting, _, reached, _, _⟩
    rcases reached.run_of_deaf deaf restFresh with ⟨⟨thrown, left, kept⟩, polled⟩
    rw [← same] at left polled
    refine ⟨?_, ⟨thrown, left, ?_⟩, polled⟩
    · have silent : middle.admitted id pattern (max capacity 1)
          (Standing.asked.behind id start past) rest = [] := admitted_of_deaf deaf
      simp only [admitted, ← whole, admitted_append]
      rw [silent, List.append_nil]
    · intro undiscarded
      apply kept
      intro moment mem
      exact undiscarded moment (whole ▸ List.mem_append_right past mem)

/-- A message of the device at 01.02.03 about its level, as it arrives. -/
def levelReport (level : UInt8) : Packet :=
  ⟨.standardReceived, [1, 2, 3, 4, 5, 6, 0x0f, 0x11, level], none⟩

/-- Four messages come for a subscription with room for one. The second finds no room, and the
fourth comes when the subscription is over. -/
theorem received_are_admitted_full :
    let device : Connection := ⟨{}, ⟨1, 2, 3⟩, .i2⟩
    let asking : Moment := ⟨0, .sound, .subscribe 0 (device.heard (.cmd1 0x11)) 0⟩
    let after : List Moment := [.take, .arrive (levelReport 1), .arrive (levelReport 2), .receive 0,
      .arrive (levelReport 3), .unsubscribe 0, .unsubscribe 0, .arrive (levelReport 4),
      .receive 0].map (⟨0, .sound, ·⟩)
    let start := (run { ackTimeout := 1 } [asking]).1
    (received 0 (start.run after).2).map (·.command.cmd2) = [1, 3] ∧
      start.admitted 0 (device.heard (.cmd1 0x11)) 1 .asked after
        = received 0 (start.run after).2 := by
  intro device asking after start
  have once : ∀ moment ∈ after, ∀ pattern capacity,
      moment.event ≠ .subscribe 0 pattern capacity := by
    simp [after]
  have undiscarded : ∀ moment ∈ after, moment.event ≠ .discard 0 := by
    simp [after]
  have taken : (received 0 (start.run after).2).map (·.command.cmd2) = [1, 3] ∧
      (start.run after).1.waitingFor 0 = [] := by
    decide +kernel
  rcases (received_are_admitted 1 none [] after asking 0 (device.heard (.cmd1 0x11)) 0 rfl
    (by simp) once).1 with ⟨lost, balance, kept⟩
  rw [kept undiscarded, List.append_nil] at balance
  have whole : start.admitted 0 (device.heard (.cmd1 0x11)) 1 .asked after
      = received 0 (start.run after).2 ++ (start.run after).1.waitingFor 0 := balance
  refine ⟨taken.1, ?_⟩
  rw [whole, taken.2, List.append_nil]

end Modem

end Powerline
