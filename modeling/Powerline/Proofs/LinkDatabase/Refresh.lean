import Powerline.Proofs.LinkDatabase.Service

/-!
# Refreshing the copy

A fresh copy is left alone. A stale one is read anew: the request may fail, the reading may break
off, or it is complete, and only then the copy gets a new age.
-/

namespace Powerline.LinkDatabase

/-- The ways in which a refresh can go. -/
inductive Refreshed (database : LinkDatabase) (copy : LinkCopy) : Outcome LinkCopy Unit → Prop where
  | fresh {now : Instant} (fresh : copy.isStale database.maxAge now = false) :
      Refreshed database copy ⟨.ok (), copy, [.clock now]⟩
  | refused {now : Instant} {id : SubscriptionId} {answer : Except Error Message} {error : Error}
      (stale : copy.isStale database.maxAge now = true)
      (failure : database.connection.verdict answer = .error error) :
      Refreshed database copy
        ⟨.error error, copy,
          [.clock now, .subscribe (database.connection.heard responses) responseCapacity id,
            .send (database.message .readAll) answer, .discard id]⟩
  | broken {now : Instant} {id : SubscriptionId} {answer : Except Error Message} {ack : Message}
      {arrivals : List Message} {read : LinkReading} {count : Nat} {error : Error}
      (stale : copy.isStale database.maxAge now = true)
      (accepted : database.connection.verdict answer = .ok ack)
      (incomplete : Bench.absorb {} arrivals = (read, false, count)) :
      Refreshed database copy
        ⟨.error error, { copy with table := .ofRecords read.records },
          [.clock now, .subscribe (database.connection.heard responses) responseCapacity id,
            .send (database.message .readAll) answer, .readTable id arrivals (.error error),
            .discard id]⟩
  | complete {now later : Instant} {id : SubscriptionId} {answer : Except Error Message}
      {ack : Message} {arrivals : List Message} {read : LinkReading} {count : Nat}
      (stale : copy.isStale database.maxAge now = true)
      (accepted : database.connection.verdict answer = .ok ack)
      (complete : Bench.absorb {} arrivals = (read, true, count)) :
      Refreshed database copy
        ⟨.ok (), ⟨.ofRecords read.records, some later⟩,
          [.clock now, .subscribe (database.connection.heard responses) responseCapacity id,
            .send (database.message .readAll) answer, .readTable id arrivals (.ok ()),
            .clock later, .discard id]⟩

variable {database : LinkDatabase} {copy : LinkCopy}

theorem carryOut_refresh (database : LinkDatabase) (copy : LinkCopy) (world : World)
    (past : List Exchange) :
    database.refresh.carryOut world past copy
      = ((if copy.isStale database.maxAge (world.now past) then database.readAll
            else pure ()).carryOut world (past ++ [.clock (world.now past)]) copy).behind
          [.clock (world.now past)] := by
  simp only [refresh, Dialogue.carryOut_bind, Dialogue.carryOut_memory, Outcome.andThen_ok,
    Dialogue.carryOut_now, Outcome.behind_nil, List.append_nil]

/-- A fresh copy costs a look at the clock. -/
theorem carryOut_refresh_of_fresh {world : World} {past : List Exchange}
    (fresh : copy.isStale database.maxAge (world.now past) = false) :
    database.refresh.carryOut world past copy = ⟨.ok (), copy, [.clock (world.now past)]⟩ := by
  rw [carryOut_refresh, fresh]
  rfl

/-- A refresh whose request is acknowledged succeeds if what comes completes the table. -/
theorem carryOut_refresh_of_complete {world : World} {past : List Exchange} {id : SubscriptionId}
    {answer : Except Error Message} {ack : Message} {read : LinkReading} {count : Nat}
    (stale : copy.isStale database.maxAge (world.now past) = true)
    (subscribed : world.subscription (past ++ [.clock (world.now past)]) = id)
    (answered : world.answer (past ++ [.clock (world.now past),
      .subscribe (database.connection.heard responses) responseCapacity id])
      (database.message .readAll) = answer)
    (accepted : database.connection.verdict answer = .ok ack)
    (complete : Bench.absorb {} (world.arrivals (past ++ [.clock (world.now past),
      .subscribe (database.connection.heard responses) responseCapacity id,
      .send (database.message .readAll) answer]) id) = (read, true, count)) :
    ∃ time exchanges, database.refresh.carryOut world past copy
      = ⟨.ok (), ⟨.ofRecords read.records, some time⟩, exchanges⟩ := by
  rw [carryOut_refresh, stale]
  simp only [↓reduceIte, readAll, Dialogue.carryOut_withSubscription, Dialogue.carryOut_bind,
    carryOut_sendRequest, List.append_assoc, List.cons_append, List.nil_append, subscribed,
    answered, accepted, Outcome.andThen_ok, Dialogue.carryOut_collectTable, complete]
  exact ⟨_, _, rfl⟩

/-- Every refresh goes in one of these ways. -/
theorem refreshed (database : LinkDatabase) (copy : LinkCopy) (world : World)
    (past : List Exchange) :
    database.Refreshed copy (database.refresh.carryOut world past copy) := by
  rw [carryOut_refresh]
  cases stale : copy.isStale database.maxAge (world.now past) with
  | false =>
      simp only [Bool.false_eq_true, ↓reduceIte, Dialogue.carryOut_pure]
      exact .fresh stale
  | true =>
      simp only [↓reduceIte, readAll, Dialogue.carryOut_withSubscription, Dialogue.carryOut_bind,
        carryOut_sendRequest]
      generalize world.answer _ (database.message .readAll) = answer
      cases verdict : database.connection.verdict answer with
      | error error =>
          simp only [Outcome.andThen_error]
          exact .refused stale verdict
      | ok ack =>
          simp only [Outcome.andThen_ok, Dialogue.carryOut_collectTable]
          generalize world.arrivals _ _ = arrivals
          cases absorbed : Bench.absorb {} arrivals with
          | mk read rest =>
              rcases rest with ⟨complete, count⟩
              have taken := LinkMemory.absorb_take absorbed
              cases complete with
              | false =>
                  simp only [Bool.false_eq_true, ↓reduceIte]
                  exact .broken stale verdict taken
              | true =>
                  simp only [↓reduceIte]
                  exact .complete stale verdict taken

end Powerline.LinkDatabase
