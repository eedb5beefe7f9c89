import Powerline.Message

/-!
# Messages as octets

Reading takes as many octets as the flags prescribe and keeps all of them: writing what was read
gives the same octets again, and reading fails exactly if there are too few. Writing a message and
reading it back gives the message as its flags describe it (`Message.normalized`), which is the
message itself exactly if command and payload agree with the flags.
-/

namespace Powerline.Message

/-- Command and payload agree with the flags: an extended message has a command of extended
messages and a full payload, and a standard one has a command of standard messages and none. -/
def IsConsistent (message : Message) : Prop :=
  if message.isExtended then
    message.command.family = 1 ∧ message.payload.length = payloadLength
  else message.command.family = 0 ∧ message.payload = []

instance (message : Message) : Decidable message.IsConsistent := by
  unfold IsConsistent
  infer_instance

/-- The message with the command and the payload that its flags describe. -/
def normalized (message : Message) : Message :=
  { message with
    command :=
      if message.isExtended then .extended message.command.cmd1 message.command.cmd2
      else .standard message.command.cmd1 message.command.cmd2
    payload := if message.isExtended then fitPayload payloadLength message.payload else [] }

/-- The seventh octet, which has the flags, marks an extended message. -/
def MarksExtended (bytes : Bytes) : Prop :=
  ∃ flags, bytes[6]? = some flags ∧ flags &&& 0x10 ≠ 0

/-- A buffer that holds at least the octets of a standard message. -/
theorem exists_header {bytes : Bytes} (long : standardLength ≤ bytes.length) :
    ∃ s1 s2 s3 d1 d2 d3 flags cmd1 cmd2 rest,
      bytes = s1 :: s2 :: s3 :: d1 :: d2 :: d3 :: flags :: cmd1 :: cmd2 :: rest := by
  match bytes, long with
  | s1 :: s2 :: s3 :: d1 :: d2 :: d3 :: flags :: cmd1 :: cmd2 :: rest, _ =>
      exact ⟨s1, s2, s3, d1, d2, d3, flags, cmd1, cmd2, rest, rfl⟩
  | [], long | [_], long | [_, _], long | [_, _, _], long | [_, _, _, _], long
  | [_, _, _, _, _], long | [_, _, _, _, _, _], long | [_, _, _, _, _, _, _], long
  | [_, _, _, _, _, _, _, _], long => simp [standardLength] at long

theorem ofBytes_of_short {bytes : Bytes} (short : bytes.length < standardLength) :
    ofBytes bytes = .error (.bufferTooShort standardLength bytes.length) := by
  unfold ofBytes
  split
  · simp only [List.length_cons, standardLength] at short
    omega
  · rfl

section Header

variable {s1 s2 s3 d1 d2 d3 flags cmd1 cmd2 : UInt8} {rest : Bytes}

theorem marksExtended_header :
    MarksExtended (s1 :: s2 :: s3 :: d1 :: d2 :: d3 :: flags :: cmd1 :: cmd2 :: rest)
      ↔ (Flags.mk flags).isExtended = true := by
  simp [MarksExtended, Flags.isExtended]

theorem ofBytes_standard (standard : (Flags.mk flags).isExtended = false) :
    ofBytes (s1 :: s2 :: s3 :: d1 :: d2 :: d3 :: flags :: cmd1 :: cmd2 :: rest)
      = .ok ⟨⟨s1, s2, s3⟩, ⟨d1, d2, d3⟩, ⟨flags⟩, .standard cmd1 cmd2, []⟩ := by
  simp only [ofBytes, standard, Bool.false_eq_true, ↓reduceIte]

theorem ofBytes_extended (extended : (Flags.mk flags).isExtended = true)
    (full : payloadLength ≤ rest.length) :
    ofBytes (s1 :: s2 :: s3 :: d1 :: d2 :: d3 :: flags :: cmd1 :: cmd2 :: rest)
      = .ok ⟨⟨s1, s2, s3⟩, ⟨d1, d2, d3⟩, ⟨flags⟩, .extended cmd1 cmd2,
          rest.take payloadLength⟩ := by
  have enough : ¬ rest.length < payloadLength := Nat.not_lt.mpr full
  simp only [ofBytes, extended, enough, ↓reduceIte]

theorem length_header (s1 s2 s3 d1 d2 d3 flags cmd1 cmd2 : UInt8) (rest : Bytes) :
    (s1 :: s2 :: s3 :: d1 :: d2 :: d3 :: flags :: cmd1 :: cmd2 :: rest).length
      = standardLength + rest.length := by
  simp only [List.length_cons, standardLength]
  omega

theorem ofBytes_cut (extended : (Flags.mk flags).isExtended = true)
    (cut : rest.length < payloadLength) :
    ofBytes (s1 :: s2 :: s3 :: d1 :: d2 :: d3 :: flags :: cmd1 :: cmd2 :: rest)
      = .error (.bufferTooShort extendedLength (standardLength + rest.length)) := by
  simp only [ofBytes, extended, cut, ↓reduceIte, length_header]

end Header

/-- Reading fails exactly if octets are missing: of the header, or of the payload behind a header
that is marked as extended. -/
theorem ofBytes_eq_error_iff (bytes : Bytes) (error : Error) :
    ofBytes bytes = .error error ↔
      bytes.length < standardLength ∧ error = .bufferTooShort standardLength bytes.length ∨
      standardLength ≤ bytes.length ∧ MarksExtended bytes ∧ bytes.length < extendedLength ∧
        error = .bufferTooShort extendedLength bytes.length := by
  rcases Nat.lt_or_ge bytes.length standardLength with short | long
  · rw [ofBytes_of_short short]
    simp [short, Nat.not_le.mpr short, eq_comm]
  · simp only [Nat.not_lt.mpr long, long, false_and, false_or, true_and]
    rcases exists_header long with ⟨s1, s2, s3, d1, d2, d3, flags, cmd1, cmd2, rest, rfl⟩
    have lengths : extendedLength = standardLength + payloadLength := rfl
    rw [marksExtended_header, length_header, lengths]
    cases marked : (Flags.mk flags).isExtended with
    | false =>
        rw [ofBytes_standard marked]
        simp
    | true =>
        rcases Nat.lt_or_ge rest.length payloadLength with cut | full
        · rw [ofBytes_cut marked cut, lengths]
          simp [cut, eq_comm]
        · rw [ofBytes_extended marked full]
          simp [Nat.not_lt.mpr full]

/-- A message that was read is written as the octets that it was read from. -/
theorem toBytes_of_ofBytes {bytes : Bytes} {message : Message}
    (read : ofBytes bytes = .ok message) :
    message.toBytes = bytes.take message.wireLength ∧
      (message.isExtended = true ↔ MarksExtended bytes) := by
  rcases Nat.lt_or_ge bytes.length standardLength with short | long
  · rw [ofBytes_of_short short] at read
    contradiction
  · rcases exists_header long with ⟨s1, s2, s3, d1, d2, d3, flags, cmd1, cmd2, rest, rfl⟩
    rw [marksExtended_header]
    cases marked : (Flags.mk flags).isExtended with
    | false =>
        rw [ofBytes_standard marked, Except.ok.injEq] at read
        subst read
        simp [toBytes, bodyBytes, wireLength, isExtended, marked, Address.toBytes,
          Command.standard, standardLength]
    | true =>
        rcases Nat.lt_or_ge rest.length payloadLength with cut | full
        · rw [ofBytes_cut marked cut] at read
          contradiction
        · rw [ofBytes_extended marked full, Except.ok.injEq] at read
          subst read
          have payload : fitPayload payloadLength (rest.take payloadLength)
              = rest.take payloadLength :=
            fitPayload_of_length_eq (List.length_take_of_le full)
          simp only [toBytes, bodyBytes, wireLength, isExtended, marked, ↓reduceIte, payload,
            Address.toBytes, Command.extended, List.cons_append, List.nil_append,
            and_true]
          rfl

/-- What was written is read back as the flags describe it, whatever follows it. -/
theorem ofBytes_toBytes_append (message : Message) (rest : Bytes) :
    ofBytes (message.toBytes ++ rest) = .ok message.normalized := by
  rcases message with ⟨⟨s1, s2, s3⟩, ⟨d1, d2, d3⟩, flags, command, payload⟩
  cases marked : flags.isExtended with
  | false =>
      simp only [toBytes, bodyBytes, normalized, isExtended, marked, Address.toBytes,
        Bool.false_eq_true, ↓reduceIte, List.cons_append, List.nil_append]
      exact ofBytes_standard marked
  | true =>
      simp only [toBytes, bodyBytes, normalized, isExtended, marked, Address.toBytes,
        ↓reduceIte, List.cons_append, List.nil_append]
      rw [ofBytes_extended marked (by simp)]
      simp

theorem normalized_eq_iff (message : Message) :
    message.normalized = message ↔ message.IsConsistent := by
  rcases message with ⟨source, destination, flags, ⟨family, cmd1, cmd2⟩, payload⟩
  cases marked : flags.isExtended with
  | false => simp [normalized, IsConsistent, isExtended, marked, Command.standard, eq_comm]
  | true =>
      have full : fitPayload payloadLength payload = payload ↔ payload.length = payloadLength := by
        constructor
        · intro same
          rw [← same, length_fitPayload]
        · exact fitPayload_of_length_eq
      simp only [normalized, IsConsistent, isExtended, marked, ↓reduceIte, Command.extended,
        mk.injEq, Command.mk.injEq, true_and, and_true, full]
      rw [eq_comm]

/-- Reading fails exactly if there are fewer octets than a standard message has, or fewer than an
extended one has and the seventh is marked so; the error has the octets that are needed and those
that are there. Otherwise writing what was read gives the octets of one message at the start of the
buffer. What was written is read back with command and payload as the flags describe them, whatever
follows, and that is the message itself exactly if it is consistent. -/
theorem codec_exact :
    (∀ bytes error, ofBytes bytes = .error error ↔
      bytes.length < standardLength ∧ error = .bufferTooShort standardLength bytes.length ∨
      standardLength ≤ bytes.length ∧ MarksExtended bytes ∧ bytes.length < extendedLength ∧
        error = .bufferTooShort extendedLength bytes.length) ∧
    (∀ bytes message, ofBytes bytes = .ok message →
      (MarksExtended bytes → message.toBytes = bytes.take extendedLength) ∧
      (¬ MarksExtended bytes → message.toBytes = bytes.take standardLength)) ∧
    ∀ (message : Message) (rest : Bytes),
      ofBytes (message.toBytes ++ rest) = .ok message.normalized ∧
        (message.normalized = message ↔ message.IsConsistent) := by
  refine ⟨ofBytes_eq_error_iff, ?_, ?_⟩
  · intro bytes message read
    rcases toBytes_of_ofBytes read with ⟨written, marked⟩
    constructor
    · intro extended
      rw [written, wireLength, if_pos (marked.mpr extended)]
    · intro standard
      rw [written, wireLength, if_neg fun extended => standard (marked.mp extended)]
  · intro message rest
    exact ⟨ofBytes_toBytes_append message rest, normalized_eq_iff message⟩

end Powerline.Message
