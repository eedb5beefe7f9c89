import Powerline.Proofs.Dialogue
import Powerline.Retry

/-!
# Repeated attempts

An action is repeated while its outcome is a failure that may mend and attempts are left (`Tries`).
For a message to a device the outcomes are what the answers amount to, one after the other
(`carryOut_retry_send`).
-/

namespace Powerline

/-- Another attempt is worth it after a timeout, after a refusal by the modem, and if the device was
not ready yet. -/
theorem Error.isRetryable_iff {error : Error} :
    error.isRetryable = true ↔
      error = .ackTimeout ∨ error = .readTimeout ∨ (∃ byte, error = .modemNak byte) ∨
        error = .nak .preNak := by
  constructor
  · intro retryable
    cases error with
    | ackTimeout | readTimeout | modemNak => simp
    | nak reason =>
        cases reason with
        | preNak => simp
        | _ => contradiction
    | _ => contradiction
  · rintro (rfl | rfl | ⟨byte, rfl⟩ | rfl)
    · rfl
    · rfl
    · rfl
    · rfl

variable {σ α : Type}

/-- The outcome is a failure that another attempt may mend. -/
def mayMend : Except Error α → Bool
  | .error error => error.isRetryable
  | .ok _ => false

/-- As long as two attempts are left, the outcome of the first one decides whether there is another
one. -/
theorem retry_again {m : Type → Type} [Monad m] (action : m (Except Error α)) (attempts : Nat) :
    retry action (attempts + 2) = action >>= fun outcome =>
      if mayMend outcome then retry action (attempts + 1) else pure outcome := by
  rw [retry]
  congr 1
  funext outcome
  cases outcome <;> rfl

/-- The outcomes of all attempts at an action: those before the last one may mend, and if the last
one may mend as well, no attempt was left. There is always one attempt. -/
structure Tries (attempts : Nat) (earlier : List (Except Error α)) (last : Except Error α) :
    Prop where
  within : earlier.length < max attempts 1
  mendable : ∀ outcome ∈ earlier, mayMend outcome = true
  spent : mayMend last = true → earlier.length + 1 = max attempts 1

namespace Tries

variable {attempts : Nat} {earlier : List (Except Error α)} {outcome last : Except Error α}

theorem once (few : attempts ≤ 1) : Tries attempts [] last where
  within := by
    rw [List.length_nil]
    omega
  mendable := by simp
  spent := by
    rw [List.length_nil]
    omega

theorem final (settled : mayMend last = false) : Tries attempts [] last where
  within := by
    rw [List.length_nil]
    omega
  mendable := by simp
  spent := by simp [settled]

theorem again (mends : mayMend outcome = true) (tries : Tries (attempts + 1) earlier last) :
    Tries (attempts + 2) (outcome :: earlier) last where
  within := by
    have within := tries.within
    rw [List.length_cons]
    omega
  mendable := List.forall_mem_cons.mpr ⟨mends, tries.mendable⟩
  spent := by
    intro lastMends
    have spent := tries.spent lastMends
    rw [List.length_cons]
    omega

end Tries

/-- What a world answers to a message that is sent over and over, one answer after the other. -/
def World.Answers (world : World) (message : Message) :
    List Exchange → List (Except Error Message) → Prop
  | _, [] => True
  | past, answer :: rest =>
      answer = world.answer past message ∧
        world.Answers message (past ++ [.send message answer]) rest

theorem World.Answers.exists_past {world : World} {message : Message} {past : List Exchange}
    {answers : List (Except Error Message)} (given : world.Answers message past answers)
    {answer : Except Error Message} (mem : answer ∈ answers) :
    ∃ past, answer = world.answer past message := by
  induction answers generalizing past with
  | nil => simp at mem
  | cons first rest ih =>
      rcases List.mem_cons.mp mem with rfl | later
      · exact ⟨past, given.1⟩
      · exact ih given.2 later

namespace Connection

variable (connection : Connection) (world : World) (memory : σ) (command : Command)
  (payload : Bytes)

/-- A command that is repeated is sent once for each attempt, and nothing else happens. -/
theorem carryOut_retry_send (attempts : Nat) (past : List Exchange) :
    let message := connection.addressed (connection.direct command payload)
    ∃ earlier last,
      (retry (connection.send command payload).attempt attempts).carryOut world past memory
        = ⟨.ok (connection.verdict last), memory, (earlier ++ [last]).map (.send message)⟩ ∧
      world.Answers message past (earlier ++ [last]) ∧
      Tries attempts (earlier.map connection.verdict) (connection.verdict last) := by
  intro message
  have sent (past : List Exchange) :
      (connection.send command payload).attempt.carryOut world past memory
        = ⟨.ok (connection.verdict (world.answer past message)), memory,
            [.send message (world.answer past message)]⟩ := by
    rw [Dialogue.carryOut_attempt, carryOut_send]
  -- No attempts are one attempt; with more than one the first answer decides.
  induction attempts generalizing past with
  | zero => exact ⟨[], _, sent past, ⟨rfl, trivial⟩, .once (Nat.zero_le 1)⟩
  | succ attempts ih =>
      cases attempts with
      | zero => exact ⟨[], _, sent past, ⟨rfl, trivial⟩, .once (Nat.le_refl 1)⟩
      | succ attempts =>
          rw [retry_again, Dialogue.carryOut_bind, sent, Outcome.andThen_ok]
          cases mends : mayMend (connection.verdict (world.answer past message)) with
          | true =>
              rcases ih (past ++ [.send message (world.answer past message)]) with
                ⟨earlier, last, rest, answers, tries⟩
              refine ⟨world.answer past message :: earlier, last, ?_, ⟨rfl, answers⟩,
                .again mends tries⟩
              simp only [↓reduceIte, rest]
              rfl
          | false => exact ⟨[], _, rfl, ⟨rfl, trivial⟩, .final mends⟩

end Connection

end Powerline
