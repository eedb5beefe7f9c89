import Powerline.Bench.Carry

/-!
# Carrying a dialogue out

A world meets the requests of a dialogue one after another. How it meets a request may depend on
everything that was asked and met before, so every course of events is that of some world. What
was asked and how it was met are the exchanges of the dialogue.
-/

namespace Powerline

/-- A request of a dialogue and how it was met. -/
inductive Exchange where
  | clock (now : Instant)
  | command (packet : Packet) (echo : Except Error Packet)
  | send (message : Message) (answer : Except Error Message)
  | subscribe (pattern : Pattern) (capacity : Nat) (id : SubscriptionId)
  | discard (id : SubscriptionId)
  | receive (id : SubscriptionId) (timeout : Option Duration) (mail : Except Error Message)
  /-- A reading of a link table took these messages in and ended so. -/
  | readTable (id : SubscriptionId) (arrivals : List Message) (result : Except Error Unit)

/-- How requests are met after a series of exchanges. -/
structure World where
  now : List Exchange → Instant
  echo : List Exchange → Packet → Except Error Packet
  answer : List Exchange → Message → Except Error Message
  subscription : List Exchange → SubscriptionId
  mail : List Exchange → SubscriptionId → Option Duration → Except Error Message
  /-- The messages that come for a reading of a link table. -/
  arrivals : List Exchange → SubscriptionId → List Message
  /-- Why no more come. -/
  silence : List Exchange → SubscriptionId → Error

/-- The world has met a request like this. -/
def World.Meets (world : World) : Exchange → Prop
  | .clock now => ∃ past, now = world.now past
  | .command packet echo => ∃ past, echo = world.echo past packet
  | .send message answer => ∃ past, answer = world.answer past message
  | .subscribe _ _ id => ∃ past, id = world.subscription past
  | .discard _ => True
  | .receive id timeout mail => ∃ past, mail = world.mail past id timeout
  | .readTable id _ result =>
      ∀ error, result = .error error → ∃ past, error = world.silence past id

/-- How a dialogue came to its end. -/
structure Outcome (σ α : Type) where
  result : Except Error α
  memory : σ
  exchanges : List Exchange

namespace Outcome

variable {σ α β : Type}

/-- The outcome with more exchanges before it. -/
def behind (exchanges : List Exchange) (outcome : Outcome σ α) : Outcome σ α :=
  { outcome with exchanges := exchanges ++ outcome.exchanges }

/-- Goes on from the outcome unless it is an error. -/
def andThen (outcome : Outcome σ α) (next : α → σ → List Exchange → Outcome σ β) : Outcome σ β :=
  match outcome.result with
  | .ok value => (next value outcome.memory outcome.exchanges).behind outcome.exchanges
  | .error error => ⟨.error error, outcome.memory, outcome.exchanges⟩

@[simp]
theorem behind_nil (outcome : Outcome σ α) : outcome.behind [] = outcome := rfl

@[simp]
theorem result_behind (exchanges : List Exchange) (outcome : Outcome σ α) :
    (outcome.behind exchanges).result = outcome.result := rfl

@[simp]
theorem memory_behind (exchanges : List Exchange) (outcome : Outcome σ α) :
    (outcome.behind exchanges).memory = outcome.memory := rfl

@[simp]
theorem exchanges_behind (exchanges : List Exchange) (outcome : Outcome σ α) :
    (outcome.behind exchanges).exchanges = exchanges ++ outcome.exchanges := rfl

@[simp]
theorem andThen_ok (value : α) (memory : σ) (exchanges : List Exchange)
    (next : α → σ → List Exchange → Outcome σ β) :
    andThen ⟨.ok value, memory, exchanges⟩ next
      = (next value memory exchanges).behind exchanges := rfl

@[simp]
theorem andThen_error (error : Error) (memory : σ) (exchanges : List Exchange)
    (next : α → σ → List Exchange → Outcome σ β) :
    andThen ⟨.error error, memory, exchanges⟩ next = ⟨.error error, memory, exchanges⟩ := rfl

theorem andThen_of_ok {outcome : Outcome σ α} {value : α} (succeeded : outcome.result = .ok value)
    (next : α → σ → List Exchange → Outcome σ β) :
    outcome.andThen next
      = (next value outcome.memory outcome.exchanges).behind outcome.exchanges := by
  simp only [andThen, succeeded]

theorem andThen_of_error {outcome : Outcome σ α} {error : Error}
    (failed : outcome.result = .error error) (next : α → σ → List Exchange → Outcome σ β) :
    outcome.andThen next = ⟨.error error, outcome.memory, outcome.exchanges⟩ := by
  simp only [andThen, failed]

theorem andThen_behind (outcome : Outcome σ α) (exchanges : List Exchange)
    (next : α → σ → List Exchange → Outcome σ β) :
    (outcome.behind exchanges).andThen next
      = (outcome.andThen fun value memory later => next value memory (exchanges ++ later)).behind
          exchanges := by
  rcases outcome with ⟨result, memory, later⟩
  cases result with
  | ok value => simp only [behind, andThen, List.append_assoc]
  | error error => rfl

end Outcome

namespace Dialogue

variable {σ α β : Type}

/-- Carries a dialogue out in a world, after some exchanges. -/
def carryOut (world : World) (past : List Exchange) : Dialogue σ α → σ → Outcome σ α
  | done result, memory => ⟨result, memory, []⟩
  | inspect next, memory => (next memory).carryOut world past memory
  | store memory next, _ => next.carryOut world past memory
  | clock next, memory =>
      let now := world.now past
      ((next now).carryOut world (past ++ [.clock now]) memory).behind [.clock now]
  | command packet next, memory =>
      let echo := world.echo past packet
      let exchange := Exchange.command packet echo
      ((next echo).carryOut world (past ++ [exchange]) memory).behind [exchange]
  | send message next, memory =>
      let answer := world.answer past message
      let exchange := Exchange.send message answer
      ((next answer).carryOut world (past ++ [exchange]) memory).behind [exchange]
  | subscribe pattern capacity next, memory =>
      let id := world.subscription past
      let exchange := Exchange.subscribe pattern capacity id
      ((next id).carryOut world (past ++ [exchange]) memory).behind [exchange]
  | discard id next, memory =>
      (next.carryOut world (past ++ [.discard id]) memory).behind [.discard id]
  | receive id timeout next, memory =>
      let mail := world.mail past id timeout
      let exchange := Exchange.receive id timeout mail
      ((next mail).carryOut world (past ++ [exchange]) memory).behind [exchange]
  | readTable id _ reading next, memory =>
      let (read, complete, count) := Bench.absorb reading (world.arrivals past id)
      let result := if complete then .ok () else .error (world.silence past id)
      let exchange := Exchange.readTable id ((world.arrivals past id).take count) result
      ((next result read).carryOut world (past ++ [exchange]) memory).behind [exchange]

/-- All exchanges are the world's. -/
theorem meets_of_mem_carryOut {world : World} {past : List Exchange} {dialogue : Dialogue σ α}
    {memory : σ} {exchange : Exchange}
    (mem : exchange ∈ (dialogue.carryOut world past memory).exchanges) : world.Meets exchange := by
  induction dialogue generalizing past memory with
  | done result => simp [carryOut] at mem
  | inspect next ih => exact ih memory mem
  | store stored next ih => exact ih mem
  | clock next ih | command packet next ih | send message next ih
  | subscribe pattern capacity next ih | receive id timeout next ih =>
      rcases List.mem_cons.mp mem with rfl | later
      · exact ⟨past, rfl⟩
      · exact ih _ later
  | discard id next ih =>
      rcases List.mem_cons.mp mem with rfl | later
      · trivial
      · exact ih later
  | readTable id timeout reading next ih =>
      rcases List.mem_cons.mp mem with rfl | later
      · intro error failed
        refine ⟨past, ?_⟩
        split at failed
        · contradiction
        · exact (Except.error.inj failed).symm
      · exact ih _ _ later

section CarryOut

variable (world : World) (past : List Exchange) (memory : σ)

/-- The second dialogue starts where the first one ended, unless that was an error. -/
@[simp]
theorem carryOut_bind (first : Dialogue σ α) (second : α → Dialogue σ β) :
    (first >>= second).carryOut world past memory
      = (first.carryOut world past memory).andThen fun value middle exchanges =>
          (second value).carryOut world (past ++ exchanges) middle := by
  change (first.bind second).carryOut world past memory = _
  induction first generalizing past memory with
  | done result => cases result <;> simp [bind, carryOut]
  | inspect next ih => simp only [bind, carryOut, ih]
  | store stored next ih => simp only [bind, carryOut, ih]
  | clock next ih | command packet next ih | send message next ih
  | subscribe pattern capacity next ih | discard id next ih | receive id timeout next ih
  | readTable id timeout reading next ih =>
      simp only [bind, carryOut, ih, Outcome.andThen_behind, List.append_assoc]

@[simp]
theorem carryOut_pure (value : α) :
    (pure value : Dialogue σ α).carryOut world past memory = ⟨.ok value, memory, []⟩ := rfl

@[simp]
theorem carryOut_ofExcept (result : Except Error α) :
    (ofExcept result).carryOut world past memory = ⟨result, memory, []⟩ := rfl

@[simp]
theorem carryOut_memory :
    Dialogue.memory.carryOut world past memory = ⟨.ok memory, memory, []⟩ := rfl

@[simp]
theorem carryOut_setMemory (stored : σ) :
    (setMemory stored).carryOut world past memory = ⟨.ok (), stored, []⟩ := rfl

@[simp]
theorem carryOut_now :
    now.carryOut world past memory
      = ⟨.ok (world.now past), memory, [.clock (world.now past)]⟩ := rfl

@[simp]
theorem carryOut_sendMessage (message : Message) :
    (sendMessage message).carryOut world past memory
      = ⟨world.answer past message, memory, [.send message (world.answer past message)]⟩ := rfl

theorem carryOut_attempt (body : Dialogue σ α) :
    body.attempt.carryOut world past memory
      = ⟨.ok (body.carryOut world past memory).result, (body.carryOut world past memory).memory,
          (body.carryOut world past memory).exchanges⟩ := by
  induction body generalizing past memory with
  | done result => rfl
  | inspect next ih => simp only [attempt, carryOut, ih]
  | store stored next ih => simp only [attempt, carryOut, ih]
  | clock next ih | command packet next ih | send message next ih
  | subscribe pattern capacity next ih | discard id next ih | receive id timeout next ih
  | readTable id timeout reading next ih => simp only [attempt, carryOut, ih, Outcome.behind]

/-- The subscription is given up last, and the result is that of the body. -/
theorem carryOut_withSubscription (pattern : Pattern) (capacity : Nat)
    (body : SubscriptionId → Dialogue σ α) :
    (withSubscription pattern capacity body).carryOut world past memory
      = let id := world.subscription past
        let subscribed := Exchange.subscribe pattern capacity id
        let inner := (body id).carryOut world (past ++ [subscribed]) memory
        ⟨inner.result, inner.memory, subscribed :: inner.exchanges ++ [.discard id]⟩ := by
  simp only [withSubscription, carryOut, carryOut_bind, carryOut_attempt, Outcome.andThen_ok,
    Outcome.behind, List.cons_append, List.nil_append]

@[simp]
theorem carryOut_collectTable (id : SubscriptionId) (timeout : Duration) :
    (collectTable id timeout).carryOut world past memory
      = let (read, complete, count) := Bench.absorb {} (world.arrivals past id)
        let result := if complete then .ok () else .error (world.silence past id)
        ⟨.ok (result, read), memory,
          [.readTable id ((world.arrivals past id).take count) result]⟩ := rfl

end CarryOut

theorem bind_assoc {γ : Type} (first : Dialogue σ α) (second : α → Dialogue σ β)
    (third : β → Dialogue σ γ) :
    first >>= second >>= third = first >>= fun value => second value >>= third := by
  change (first.bind second).bind third = first.bind fun value => (second value).bind third
  induction first with
  | done result => cases result <;> rfl
  | store stored next ih | discard id next ih => simp only [bind, ih]
  | inspect next ih | clock next ih | command packet next ih | send message next ih
  | subscribe pattern capacity next ih | receive id timeout next ih
  | readTable id timeout reading next ih => simp only [bind, ih]

@[simp]
theorem bind_pure_unit (dialogue : Dialogue σ Unit) :
    (dialogue >>= fun _ => pure ()) = dialogue := by
  change (dialogue.bind fun _ => done (.ok ())) = dialogue
  induction dialogue with
  | done result => cases result <;> rfl
  | store stored next ih | discard id next ih => simp only [bind, ih]
  | inspect next ih | clock next ih | command packet next ih | send message next ih
  | subscribe pattern capacity next ih | receive id timeout next ih
  | readTable id timeout reading next ih => simp only [bind, ih]

end Dialogue

namespace Connection

variable {σ : Type}

/-- What the answer to a message amounts to: a refusal is an error as well. -/
def verdict (connection : Connection) (answer : Except Error Message) : Except Error Message :=
  answer >>= connection.checkAnswer

theorem verdict_of_isNak {connection : Connection} {message : Message}
    (refuses : message.isNak = true) :
    connection.verdict (.ok message)
      = .error (connection.engine.nakError message.command.cmd2) := if_pos refuses

theorem verdict_of_not_isNak {connection : Connection} {message : Message}
    (accepts : message.isNak = false) :
    connection.verdict (.ok message) = .ok message := if_neg (by simp [accepts])

@[simp]
theorem carryOut_send (connection : Connection) (world : World) (past : List Exchange)
    (memory : σ) (command : Command) (payload : Bytes) :
    (connection.send command payload).carryOut world past memory
      = let message := connection.addressed (connection.direct command payload)
        let answer := world.answer past message
        ⟨connection.verdict answer, memory, [.send message answer]⟩ := by
  simp only [send, write, Dialogue.carryOut_bind, Dialogue.carryOut_sendMessage, verdict]
  cases world.answer past (connection.addressed (connection.direct command payload)) with
  | ok answer =>
      rw [Outcome.andThen_ok, Dialogue.carryOut_ofExcept]
      rfl
  | error error => rfl

end Connection

end Powerline
