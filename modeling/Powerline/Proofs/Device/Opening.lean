import Powerline.Proofs.Device
import Powerline.Proofs.LinkDatabase.Failures
import Powerline.Proofs.Retry

/-!
# Opening devices

A device that the directory knows is opened without a word on the line. Another one is asked for its
engine, and asked again only if it could not be reached (`Unreached`). The last answer decides
(`Shows`): either it shows the engine, which the device gets and the directory keeps, or the device
is not opened and the directory stays as it was.
-/

namespace Powerline

theorem Engine.ofByte_eq_ok_iff {byte : UInt8} {engine : Engine} :
    ofByte byte = .ok engine ↔
      byte = 0 ∧ engine = .i1 ∨ byte = 1 ∧ engine = .i2 ∨ byte = 2 ∧ engine = .i2cs := by
  simp only [← UInt8.toNat_inj, UInt8.reduceToNat]
  unfold ofByte
  split
  · next number => simp [number, eq_comm]
  · next number => simp [number, eq_comm]
  · next number => simp [number, eq_comm]
  · next notZero notOne notTwo =>
      simp only [reduceCtorEq, false_iff]
      rintro (⟨zero, _⟩ | ⟨one, _⟩ | ⟨two, _⟩)
      · exact notZero zero
      · exact notOne one
      · exact notTwo two

theorem Engine.nakReason?_eq_notLinked_iff (engine : Engine) (code : UInt8) :
    engine.nakReason? code = some .notLinked ↔ code = 0xff := by
  rw [← UInt8.toNat_inj]
  unfold nakReason?
  split <;> simp_all

theorem Engine.nakReason?_ne_preNak (code : UInt8) :
    nakReason? .i2 code ≠ some .preNak := by
  unfold nakReason?
  split <;> simp_all

theorem Engine.nakError_eq_notLinked_iff (engine : Engine) (code : UInt8) :
    engine.nakError code = .nak .notLinked ↔ code = 0xff := by
  rw [← engine.nakReason?_eq_notLinked_iff, nakError]
  cases engine.nakReason? code <;> simp

theorem Engine.isRetryable_nakError (code : UInt8) :
    (nakError .i2 code).isRetryable = false := by
  have other := nakReason?_ne_preNak code
  rw [← Bool.not_eq_true, Error.isRetryable_iff, nakError]
  cases found : nakReason? .i2 code with
  | none => simp
  | some reason => simpa [found] using other

/-- A new entry for an address that had none makes the directory larger by one. -/
theorem Directory.size_put_of_absent {directory : Directory} {info : DeviceInfo}
    (absent : directory.get? info.address = none) :
    (directory.put info).size = directory.size + 1 := by
  have kept : directory.entries.filter (fun other => other.address ≠ info.address)
      = directory.entries := by
    rw [List.filter_eq_self]
    intro other mem
    have apart := List.find?_eq_none.mp absent other mem
    simpa using apart
  simp only [size, put, kept, List.length_cons]

namespace Device

/-- No answer came from the device: the wait was too long, or the modem refused. -/
def Unreached (answer : Except Error Message) : Prop :=
  answer = .error .ackTimeout ∨ ∃ byte, answer = .error (.modemNak byte)

/-- An answer to an engine query shows the engine: an ack by its parameter, and a refusal for want
of a link because only one engine refuses for that. -/
inductive Shows : Except Error Message → Engine → Prop where
  | i1 {ack : Message} (accepts : ack.isNak = false) (parameter : ack.command.cmd2 = 0) :
      Shows (.ok ack) .i1
  | i2 {ack : Message} (accepts : ack.isNak = false) (parameter : ack.command.cmd2 = 1) :
      Shows (.ok ack) .i2
  | i2cs {ack : Message} (accepts : ack.isNak = false) (parameter : ack.command.cmd2 = 2) :
      Shows (.ok ack) .i2cs
  | unlinked {nak : Message} (refuses : nak.isNak = true) (code : nak.command.cmd2 = 0xff) :
      Shows (.ok nak) .i2cs

/-- The message that asks the device at an address for its engine. -/
def engineQuery (config : Config) (address : Address) : Message :=
  .standard .zero address (.direct false config.maxHops) .getEngine

variable {config : Config} {address : Address} {world : World} {past : List Exchange}
  {directory : Directory} {connection : Connection} {answer : Except Error Message}
  {engine : Engine}

theorem addressed_getEngine (config : Config) (address : Address) :
    let connection : Connection := { config, address, engine := .i2 }
    connection.addressed (connection.direct .getEngine []) = engineQuery config address := rfl

theorem engineOf_error (error : Error) :
    engineOf (.error error) = if error = .nak .notLinked then .ok .i2cs else .error error := by
  split
  · next unlinked => rw [unlinked]; rfl
  · next other =>
      unfold engineOf
      split <;> simp_all

section Modem

variable (fails : ∀ error, answer = .error error →
  Modem.concludes (.error error) ∨ error = .closed)

include fails

/-- A device that is asked as one without checksums cannot ask for another attempt. -/
theorem mayMend_verdict_iff (asked : connection.engine = .i2) :
    mayMend (connection.verdict answer) = true ↔ Unreached answer := by
  cases answer with
  | error error =>
      -- Of the errors that another attempt may mend a modem brings only two.
      have notRead : error ≠ .readTimeout := by
        rintro rfl
        rcases fails _ rfl with concluded | closed
        · contradiction
        · contradiction
      have notNak (reason : NakReason) : error ≠ .nak reason := by
        rintro rfl
        rcases fails _ rfl with concluded | closed
        · contradiction
        · contradiction
      change error.isRetryable = true ↔ _
      simp [Error.isRetryable_iff, Unreached, notRead, notNak]
  | ok message =>
      cases refuses : message.isNak with
      | true =>
          rw [Connection.verdict_of_isNak refuses, asked]
          simp [mayMend, Engine.isRetryable_nakError, Unreached]
      | false =>
          rw [Connection.verdict_of_not_isNak refuses]
          simp [mayMend, Unreached]

theorem engineOf_verdict_iff :
    engineOf (connection.verdict answer) = .ok engine ↔ Shows answer engine := by
  cases answer with
  | error error =>
      have other : error ≠ .nak .notLinked := by
        rintro rfl
        rcases fails _ rfl with concluded | closed
        · contradiction
        · contradiction
      change engineOf (.error error) = _ ↔ _
      rw [engineOf_error, if_neg other]
      constructor
      · simp
      · rintro ⟨⟩
  | ok message =>
      cases refuses : message.isNak with
      | true =>
          simp only [Connection.verdict_of_isNak refuses, engineOf_error,
            Engine.nakError_eq_notLinked_iff]
          constructor
          · intro known
            split at known
            · next code =>
                rw [← Except.ok.inj known]
                exact .unlinked refuses code
            · contradiction
          · intro shown
            cases shown with
            | i1 accepts | i2 accepts | i2cs accepts =>
                rw [refuses] at accepts
                contradiction
            | unlinked _ code => rw [if_pos code]
      | false =>
          rw [Connection.verdict_of_not_isNak refuses]
          change Engine.ofByte message.command.cmd2 = .ok engine ↔ _
          rw [Engine.ofByte_eq_ok_iff]
          constructor
          · rintro (⟨parameter, rfl⟩ | ⟨parameter, rfl⟩ | ⟨parameter, rfl⟩)
            · exact .i1 refuses parameter
            · exact .i2 refuses parameter
            · exact .i2cs refuses parameter
          · intro shown
            cases shown with
            | i1 _ parameter | i2 _ parameter | i2cs _ parameter => simp [parameter]
            | unlinked other =>
                rw [refuses] at other
                contradiction

end Modem

/-! ### The course of an opening -/

theorem carryOut_engine (connection : Connection) (world : World) (past : List Exchange) {σ : Type}
    (memory : σ) :
    let query := connection.addressed (connection.direct .getEngine [])
    ∃ earlier last,
      (Device.engine connection).carryOut world past memory
        = ⟨engineOf (connection.verdict last), memory, (earlier ++ [last]).map (.send query)⟩ ∧
      world.Answers query past (earlier ++ [last]) ∧
      Tries engineAttempts (earlier.map connection.verdict) (connection.verdict last) := by
  rcases connection.carryOut_retry_send world memory .getEngine [] engineAttempts past with
    ⟨earlier, last, run, answers, tries⟩
  refine ⟨earlier, last, ?_, answers, tries⟩
  rw [Device.engine, Dialogue.carryOut_bind, run, Outcome.andThen_ok, Dialogue.carryOut_ofExcept]
  simp [Outcome.behind]

theorem carryOut_openWith_of_known {info : DeviceInfo}
    (known : directory.get? address = some info) :
    (openWith config address).carryOut world past directory
      = ⟨.ok (.ofConnection { config, address, engine := info.engine }), directory, []⟩ := by
  simp only [openWith, Dialogue.carryOut_bind, Dialogue.carryOut_memory, Outcome.andThen_ok,
    Outcome.behind_nil, known, Dialogue.carryOut_pure]

theorem carryOut_openWith_of_unknown (unknown : directory.get? address = none) :
    (openWith config address).carryOut world past directory
      = ((Device.engine { config, address, engine := .i2 }).carryOut world past directory).andThen
          fun engine memory _ =>
            ⟨.ok (.ofConnection { config, address, engine }),
              memory.put { address, engine }, []⟩ := by
  simp only [openWith, Dialogue.carryOut_bind, Dialogue.carryOut_memory, Outcome.andThen_ok,
    Outcome.behind_nil, unknown, Dialogue.carryOut_pure, Dialogue.carryOut_setMemory,
    List.append_nil]
  rfl

/-- What opening a device that is not known comes to, with the answers that are given to its
queries, the last one apart. -/
structure Asks (config : Config) (address : Address) (world : World) (past : List Exchange)
    (directory : Directory) (run : Outcome Directory Device) (earlier : List (Except Error Message))
    (last : Except Error Message) : Prop where
  exchanges : run.exchanges = (earlier ++ [last]).map (.send (engineQuery config address))
  packets : run.packets
    = List.replicate (earlier.length + 1) (Request.message (engineQuery config address)).toPacket
  answers : world.Answers (engineQuery config address) past (earlier ++ [last])
  within : earlier.length < 3
  /-- There is another query only if the device was not reached. -/
  unreached : ∀ answer ∈ earlier, Unreached answer
  spent : Unreached last → earlier.length = 2
  /-- The device is opened exactly if the last answer shows its engine. -/
  opens : ∀ device, run.result = .ok device ↔
    ∃ engine, Shows last engine ∧ device = .ofConnection { config, address, engine }
  records : ∀ engine, Shows last engine →
    run.memory.get? address = some ⟨address, engine, none, none⟩ ∧
      (∀ other ≠ address, run.memory.get? other = directory.get? other) ∧
      run.memory.size = directory.size + 1
  keeps : (∀ engine, ¬ Shows last engine) → run.memory = directory

theorem packets_sends (message : Message) (answers : List (Except Error Message)) :
    (answers.map (Exchange.send message)).filterMap Exchange.packet?
      = List.replicate answers.length (Request.message message).toPacket := by
  rw [List.filterMap_map, ← List.map_const, ← List.filterMap_eq_map]
  rfl

/-- The queries are asked, and then the last answer decides. -/
theorem carryOut_openWith_of_asked (config : Config) (world : World) (past : List Exchange)
    (unknown : directory.get? address = none) :
    let connection : Connection := { config, address, engine := .i2 }
    let query := engineQuery config address
    ∃ earlier last,
      world.Answers query past (earlier ++ [last]) ∧
      Tries engineAttempts (earlier.map connection.verdict) (connection.verdict last) ∧
      (openWith config address).carryOut world past directory
        = match engineOf (connection.verdict last) with
          | .ok engine => ⟨.ok (.ofConnection { config, address, engine }),
              directory.put { address, engine }, (earlier ++ [last]).map (.send query)⟩
          | .error error => ⟨.error error, directory, (earlier ++ [last]).map (.send query)⟩ := by
  intro connection query
  rcases carryOut_engine connection world past directory with ⟨earlier, last, run, answers, tries⟩
  refine ⟨earlier, last, answers, tries, ?_⟩
  rw [carryOut_openWith_of_unknown unknown, run]
  cases engineOf (connection.verdict last) with
  | ok engine => simp [Outcome.behind, connection, query, addressed_getEngine]
  | error error => rfl

theorem exists_asks (config : Config) (modem : world.IsModem) (past : List Exchange)
    (unknown : directory.get? address = none) :
    ∃ earlier last, Asks config address world past directory
      ((openWith config address).carryOut world past directory) earlier last := by
  let connection : Connection := { config, address, engine := .i2 }
  rcases carryOut_openWith_of_asked config world past unknown with
    ⟨earlier, last, answers, tries, run⟩
  have fails (answer : Except Error Message) (mem : answer ∈ earlier ++ [last]) :
      ∀ error, answer = .error error → Modem.concludes (.error error) ∨ error = .closed := by
    rcases answers.exists_past mem with ⟨before, rfl⟩
    exact modem.answer before _
  have lastFails := fails last (by simp)
  have attempts : max engineAttempts 1 = 3 := rfl
  have within : earlier.length < 3 := by simpa [attempts] using tries.within
  have unreached : ∀ answer ∈ earlier, Unreached answer := by
    intro answer mem
    exact (mayMend_verdict_iff (fails answer (List.mem_append_left _ mem)) rfl).mp
      (tries.mendable _ (List.mem_map_of_mem mem))
  have spent : Unreached last → earlier.length = 2 := by
    intro failed
    have spent := tries.spent ((mayMend_verdict_iff lastFails rfl).mpr failed)
    rw [List.length_map, attempts] at spent
    omega
  have packets : ((earlier ++ [last]).map (Exchange.send (engineQuery config address))).filterMap
      Exchange.packet? = List.replicate (earlier.length + 1)
        (Request.message (engineQuery config address)).toPacket := by
    rw [packets_sends, List.length_append, List.length_singleton]
  have shown (engine : Engine) :
      engineOf (connection.verdict last) = .ok engine ↔ Shows last engine :=
    engineOf_verdict_iff lastFails
  -- The attempts are over, and what they come to is what the last answer shows.
  refine ⟨earlier, last, ?_⟩
  rw [run]
  cases decided : engineOf (connection.verdict last) with
  | error error =>
      have silent (engine : Engine) : ¬ Shows last engine := by simp [← shown, decided]
      exact {
        exchanges := rfl
        packets, answers, within, unreached, spent
        opens := by simp [silent]
        records := fun engine shows => absurd shows (silent engine)
        keeps := fun _ => rfl }
  | ok engine =>
      have only (other : Engine) : Shows last other ↔ other = engine := by
        rw [← shown, decided, Except.ok.injEq, eq_comm]
      exact {
        exchanges := rfl
        packets, answers, within, unreached, spent
        opens := by simp [only, eq_comm]
        records := by
          intro other shows
          rw [(only other).mp shows]
          exact ⟨directory.get?_put ⟨address, engine, none, none⟩,
            fun _ apart => directory.get?_put_of_ne apart, Directory.size_put_of_absent unknown⟩
        keeps := fun unshown => absurd ((only engine).mpr rfl) (unshown engine) }

namespace Asks

variable {run : Outcome Directory Device} {earlier : List (Except Error Message)}
  {last : Except Error Message} {device : Device} {error : Error}

theorem database_connection (asks : Asks config address world past directory run earlier last)
    (opens : run.result = .ok device) : device.database.connection = device.connection := by
  rcases (asks.opens device).mp opens with ⟨engine, _, rfl⟩
  rfl

theorem memory_eq_of_error (asks : Asks config address world past directory run earlier last)
    (failed : run.result = .error error) : run.memory = directory := by
  apply asks.keeps
  intro engine shows
  rw [(asks.opens _).mpr ⟨engine, shows, rfl⟩] at failed
  contradiction

end Asks

/-- Opening a device that the directory knows sends nothing, changes nothing and gives the device
the engine that is known. A device that is not known gets at most three queries, one after the
other, and another one only if it was not reached, as often as that is so. The device is opened
exactly if the last answer shows its engine, for its connection and for its link table. Then the
directory has just one entry more, with this engine and nothing else. If the device is not opened,
the directory is the same. -/
theorem open_asks_and_records (config : Config) (address : Address) {world : World}
    (modem : world.IsModem) (past : List Exchange) (directory : Directory) :
    let run := (openWith config address).carryOut world past directory
    (∀ info, directory.get? address = some info →
      run.result = .ok (.ofConnection { config, address, engine := info.engine }) ∧
      run.memory = directory ∧ run.exchanges = [] ∧ run.packets = []) ∧
    (directory.get? address = none →
      ∃ earlier last, Asks config address world past directory run earlier last) ∧
    (∀ device, run.result = .ok device → device.database.connection = device.connection) ∧
    ∀ error, run.result = .error error → run.memory = directory := by
  intro run
  cases found : directory.get? address with
  | some info =>
      have known : run = ⟨.ok (.ofConnection { config, address, engine := info.engine }), directory,
        []⟩ := carryOut_openWith_of_known found
      rw [known]
      refine ⟨?_, by simp, ?_, by simp⟩
      · rintro _ ⟨⟩
        exact ⟨rfl, rfl, rfl, rfl⟩
      · rintro _ ⟨⟩
        rfl
  | none =>
      rcases exists_asks config modem past found with ⟨earlier, last, asks⟩
      exact ⟨by simp, fun _ => ⟨earlier, last, asks⟩, fun _ => asks.database_connection,
        fun _ => asks.memory_eq_of_error⟩

/-- A device that answers to no first query, and then refuses for want of a link. -/
def sampleLate : World :=
  { sampleRefusal with
    answer := fun past message =>
      match past with
      | [] => .error .ackTimeout
      | _ => sampleRefusal.answer past message }

theorem isModem_sampleLate : sampleLate.IsModem where
  answer := by
    rintro past message error failed
    cases past with
    | nil =>
        rw [← Except.error.inj failed]
        exact Or.inl rfl
    | cons => contradiction
  silence _ _ := Or.inl rfl

/-- The second answer shows the engine, which is known from then on. -/
theorem open_asks_and_records_late :
    let address : Address := ⟨0x1a, 0x2b, 0x3c⟩
    let device := ofConnection ⟨{}, address, .i2cs⟩
    let run := (openWith {} address).carryOut sampleLate [] {}
    let again := (openWith {} address).carryOut sampleLate run.exchanges run.memory
    run.result = .ok device ∧ run.packets.length = 2 ∧
      run.memory.get? address = some ⟨address, .i2cs, none, none⟩ ∧
      again.result = .ok device ∧ again.packets = [] ∧ again.memory = run.memory := by
  have opens : ((openWith {} ⟨0x1a, 0x2b, 0x3c⟩).carryOut sampleLate [] {}).result
      = .ok (ofConnection ⟨{}, ⟨0x1a, 0x2b, 0x3c⟩, .i2cs⟩) := rfl
  have twice : ((openWith {} ⟨0x1a, 0x2b, 0x3c⟩).carryOut sampleLate [] {}).packets.length = 2 :=
    rfl
  intro address device run again
  rcases open_asks_and_records {} address isModem_sampleLate [] {} with ⟨_, unknown, _⟩
  rcases unknown rfl with ⟨earlier, last, asks⟩
  rcases (asks.opens device).mp opens with ⟨engine, shows, same⟩
  have checked : engine = .i2cs := congrArg (fun device => device.connection.engine) same.symm
  rw [checked] at shows
  have entry : run.memory.get? address = some ⟨address, .i2cs, none, none⟩ :=
    (asks.records .i2cs shows).1
  rcases open_asks_and_records {} address isModem_sampleLate run.exchanges run.memory with
    ⟨known, _⟩
  rcases known _ entry with ⟨openedAgain, unchanged, _, nothing⟩
  exact ⟨opens, twice, entry, openedAgain, nothing, unchanged⟩

end Device

end Powerline
