import Powerline.Proofs.Modem.Subscriptions

/-!
# How patterns combine

Conjunction, disjunction and negation mean what they say, and they keep the order of evaluation: the
right side of a conjunction is looked at only if the left one holds, that of a disjunction only if
it fails. This is so although a conjunction on the left takes the right side into its own list. It
is shown for evaluations in which the tests of the caller's own have effects (`run_and`, `run_or`);
verdict and tests of a pattern come from the evaluation that notes the tests (`run_note`).
-/

namespace Powerline

section Lazy

variable {m : Type → Type} [Monad m] [LawfulMonad m]

theorem andM_assoc (first second third : m Bool) :
    ((first <&&> second) <&&> third) = (first <&&> second <&&> third) := by
  simp only [andM, bind_assoc]
  congr 1
  funext found
  cases found <;> simp [toBool]

theorem orM_assoc (first second third : m Bool) :
    ((first <||> second) <||> third) = (first <||> second <||> third) := by
  simp only [orM, bind_assoc]
  congr 1
  funext found
  cases found <;> simp [toBool]

theorem true_andM (action : m Bool) : (pure true <&&> action) = action := by
  simp [andM, toBool]

theorem andM_true (action : m Bool) : (action <&&> pure true) = action := by
  conv_rhs => rw [← bind_pure action]
  simp only [andM]
  congr 1
  funext found
  cases found <;> rfl

theorem false_orM (action : m Bool) : (pure false <||> action) = action := by
  simp [orM, toBool]

theorem orM_false (action : m Bool) : (action <||> pure false) = action := by
  conv_rhs => rw [← bind_pure action]
  simp only [orM]
  congr 1
  funext found
  cases found <;> rfl

end Lazy

namespace Pattern

section Run

variable {m : Type → Type} [Monad m]

mutual

/-- Evaluates a pattern. A test of the caller's own is an action, which may have effects. -/
def run (perform : Nat → (Message → Bool) → m Bool) (message : Message) : Pattern → m Bool
  | not inner => notM (inner.run perform message)
  | all patterns => runAll perform message patterns
  | any patterns => runAny perform message patterns
  | test label check => perform label check
  | plain => pure (plain.holds message)

/-- Evaluates the patterns of a list while they hold. -/
def runAll (perform : Nat → (Message → Bool) → m Bool) (message : Message) :
    List Pattern → m Bool
  | [] => pure true
  | pattern :: rest => pattern.run perform message <&&> runAll perform message rest

/-- Evaluates the patterns of a list while they fail. -/
def runAny (perform : Nat → (Message → Bool) → m Bool) (message : Message) :
    List Pattern → m Bool
  | [] => pure false
  | pattern :: rest => pattern.run perform message <||> runAny perform message rest

end

variable [LawfulMonad m] (perform : Nat → (Message → Bool) → m Bool) (message : Message)

theorem runAll_append (patterns more : List Pattern) :
    runAll perform message (patterns ++ more)
      = (runAll perform message patterns <&&> runAll perform message more) := by
  induction patterns with
  | nil => simp only [List.nil_append, runAll, true_andM]
  | cons pattern rest ih => simp only [List.cons_append, runAll, ih, andM_assoc]

theorem runAny_append (patterns more : List Pattern) :
    runAny perform message (patterns ++ more)
      = (runAny perform message patterns <||> runAny perform message more) := by
  induction patterns with
  | nil => simp only [List.nil_append, runAny, false_orM]
  | cons pattern rest ih => simp only [List.cons_append, runAny, ih, orM_assoc]

/-- The right side of a conjunction is evaluated if the left one holds. -/
theorem run_and (left right : Pattern) :
    (left &&& right).run perform message
      = (left.run perform message <&&> right.run perform message) := by
  change (left.conj right).run perform message = _
  unfold conj
  split
  · simp only [run, runAll_append, runAll, andM_true]
  · simp only [run, runAll, andM_true]

/-- The right side of a disjunction is evaluated if the left one fails. -/
theorem run_or (left right : Pattern) :
    (left ||| right).run perform message
      = (left.run perform message <||> right.run perform message) := by
  change (left.disj right).run perform message = _
  unfold disj
  split
  · simp only [run, runAny_append, runAny, orM_false]
  · simp only [run, runAny, orM_false]

end Run

section Note

variable (message : Message)

/-- Makes a test and notes it behind those made before. -/
def note (label : Nat) (check : Message → Bool) : StateM (List Nat) Bool := do
  modify fun made => made ++ [label]
  return check message

theorem andM_apply (first second : StateM (List Nat) Bool) (made : List Nat) :
    (first <&&> second) made
      = if (first made).1 then second (first made).2 else first made := by
  change (match toBool (first made).1 with
    | true => second
    | false => pure (first made).1) (first made).2 = _
  rcases first made with ⟨found, later⟩
  cases found <;> rfl

theorem orM_apply (first second : StateM (List Nat) Bool) (made : List Nat) :
    (first <||> second) made
      = if (first made).1 then first made else second (first made).2 := by
  change (match toBool (first made).1 with
    | true => pure (first made).1
    | false => second) (first made).2 = _
  rcases first made with ⟨found, later⟩
  cases found <;> rfl

mutual

/-- An evaluation that notes the tests gives the verdict and the tests that it reaches. -/
theorem run_note (pattern : Pattern) (made : List Nat) :
    pattern.run (note message) message made
      = (pattern.holds message, made ++ pattern.consulted message) := by
  cases pattern with
  | not inner =>
      change (!(inner.run (note message) message made).1, (inner.run (note message) message made).2)
        = _
      rw [run_note inner made]
      rfl
  | all patterns => exact runAll_note patterns made
  | any patterns => exact runAny_note patterns made
  | test label check => rfl
  | command | cmd1 | source | destination | answer | allLink | extended | relayOf =>
      simp only [consulted, List.append_nil]
      rfl

theorem runAll_note (patterns : List Pattern) (made : List Nat) :
    runAll (note message) message patterns made
      = (allHold message patterns, made ++ consultedByAll message patterns) := by
  cases patterns with
  | nil => simp only [consultedByAll, List.append_nil]; rfl
  | cons pattern rest =>
      simp only [runAll, andM_apply, run_note pattern made, runAll_note rest, allHold,
        consultedByAll]
      cases pattern.holds message <;> simp

theorem runAny_note (patterns : List Pattern) (made : List Nat) :
    runAny (note message) message patterns made
      = (anyHolds message patterns, made ++ consultedByAny message patterns) := by
  cases patterns with
  | nil => simp only [consultedByAny, List.append_nil]; rfl
  | cons pattern rest =>
      simp only [runAny, orM_apply, run_note pattern made, runAny_note rest, anyHolds,
        consultedByAny]
      cases pattern.holds message <;> simp

end

variable (left right : Pattern)

theorem verdict_and :
    (left &&& right).holds message = (left.holds message && right.holds message) ∧
      (left &&& right).consulted message = left.consulted message
        ++ if left.holds message then right.consulted message else [] := by
  have walk := congrFun (run_and (note message) message left right) []
  rw [andM_apply, run_note, run_note, run_note] at walk
  cases found : left.holds message with
  | true =>
      simp only [found, ↓reduceIte, List.nil_append] at walk
      simpa using Prod.mk.inj walk
  | false =>
      simp only [found, Bool.false_eq_true, ↓reduceIte, List.nil_append] at walk
      simpa using Prod.mk.inj walk

theorem verdict_or :
    (left ||| right).holds message = (left.holds message || right.holds message) ∧
      (left ||| right).consulted message = left.consulted message
        ++ if left.holds message then [] else right.consulted message := by
  have walk := congrFun (run_or (note message) message left right) []
  rw [orM_apply, run_note, run_note, run_note] at walk
  cases found : left.holds message with
  | true =>
      simp only [found, ↓reduceIte, List.nil_append] at walk
      simpa using Prod.mk.inj walk
  | false =>
      simp only [found, Bool.false_eq_true, ↓reduceIte, List.nil_append] at walk
      simpa using Prod.mk.inj walk

/-- A conjunction holds if both sides do, a disjunction if one does, and a negation if its pattern
does not. The tests that are made are those of the left side and then, if that has not decided the
verdict, those of the right side. They are the tests of one evaluation from left to right. So a
subscription on a connection gets just those of the messages passed on that come from the device and
are wanted, as far as there is room, and tests of its own see nothing from other devices. -/
theorem operators_evaluate_left_first :
    ((left &&& right).holds message = true ↔
      left.holds message = true ∧ right.holds message = true) ∧
    ((left ||| right).holds message = true ↔
      left.holds message = true ∨ right.holds message = true) ∧
    ((~~~left).holds message = true ↔ ¬ left.holds message = true) ∧
    (left &&& right).consulted message = left.consulted message
      ++ (if left.holds message then right.consulted message else []) ∧
    (left ||| right).consulted message = left.consulted message
      ++ (if left.holds message then [] else right.consulted message) ∧
    (~~~left).consulted message = left.consulted message ∧
    (∀ made, left.run (note message) message made
      = (left.holds message, made ++ left.consulted message)) ∧
    ∀ connection : Connection,
      (connection.heard left).consulted message
        = (if message.source = connection.address then left.consulted message else []) ∧
      ∀ (modem : Modem) (id : SubscriptionId) (room : Nat) (now : Instant) (event : Modem.Event),
        modem.admitted? id (connection.heard left) room .registered now event = some message ↔
          modem.dispatched? now event = some message ∧ message.source = connection.address ∧
            left.holds message = true ∧ (modem.waitingFor id).length < room := by
  rcases verdict_and message left right with ⟨both, bothTests⟩
  rcases verdict_or message left right with ⟨either, eitherTests⟩
  refine ⟨?_, ?_, ?_, bothTests, eitherTests, rfl, run_note message left, ?_⟩
  · rw [both, Bool.and_eq_true]
  · rw [either, Bool.or_eq_true]
  · change (!left.holds message) = true ↔ _
    rw [Bool.not_eq_true', Bool.not_eq_true]
  · intro connection
    refine ⟨?_, ?_⟩
    · change (Pattern.source connection.address &&& left).consulted message = _
      rw [(verdict_and message (.source connection.address) left).2]
      simp [holds, consulted]
    · intro modem id room now event
      rw [Modem.admitted?_eq_some_iff, connection.holds_heard, Bool.and_eq_true, decide_eq_true_eq]
      tauto

end Note

end Pattern

end Powerline
