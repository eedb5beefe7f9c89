import Powerline.Proofs.Frame.Chunks

/-!
# How a stream splits into packets

Decoding accounts for every octet of a stream, once and in order: it is noise, or a sync byte in
front of a byte that names no packet, or part of a packet, or it waits for more. Whatever the
stream holds, this splitting exists and is the only one (`decode_eq_iff_splits`), and what waits is
shorter than the longest packet. A stream that was made of packets, with noise around them, splits
into just these packets, whatever their bodies hold.
-/

namespace Powerline

namespace Packet

/-- An outgoing message whose flags, the fourth octet of the body, say extended. -/
def sendsExtended (packet : Packet) : Bool :=
  packet.opcode = .sendMessage
    && packet.payload[3]?.any fun flags => (Flags.mk flags).isExtended

/-- The length of the body that the command byte prescribes; none if it names no packet. -/
def prescribedLength? (packet : Packet) : Option Nat :=
  packet.opcode.bodyLength?.map (· + if packet.sendsExtended then payloadLength else 0)

/-- The packet has the body that its command byte prescribes, and an ack byte exactly if it is one
of the host's. -/
structure IsWellFormed (packet : Packet) : Prop where
  length : packet.prescribedLength? = some packet.payload.length
  ack : packet.ack.isSome = packet.opcode.isHost

instance (packet : Packet) : Decidable packet.IsWellFormed :=
  decidable_of_iff
    (packet.prescribedLength? = some packet.payload.length
      ∧ packet.ack.isSome = packet.opcode.isHost)
    ⟨fun ⟨length, ack⟩ => ⟨length, ack⟩, fun ⟨length, ack⟩ => ⟨length, ack⟩⟩

variable {packet : Packet} {fixedLength : Nat}

theorem extraLength_of_ne {opcode : Opcode} (other : opcode ≠ .sendMessage) (body : Bytes) :
    opcode.extraLength body = 0 := by
  unfold Opcode.extraLength
  split
  · simp [other]
  · rfl

theorem extraLength_take (known : packet.opcode.bodyLength? = some fixedLength) :
    packet.opcode.extraLength (packet.payload.take fixedLength)
      = if packet.sendsExtended then payloadLength else 0 := by
  by_cases sends : packet.opcode = .sendMessage
  · have six : fixedLength = 6 := by
      rw [sends] at known
      exact (Option.some.inj known).symm
    rw [six, sendsExtended, sends]
    match packet.payload with
    | [] | [_] | [_, _] | [_, _, _] => rfl
    | _ :: _ :: _ :: flags :: _ =>
        simp [Opcode.extraLength, Opcode.sendMessage]
  · rw [extraLength_of_ne sends]
    simp [sendsExtended, sends]

/-- A packet is well-formed exactly if it is whole for the length that its command byte has. -/
theorem isWellFormed_iff : packet.IsWellFormed ↔ ∃ fixedLength,
    packet.opcode.bodyLength? = some fixedLength ∧ Frame.IsWhole fixedLength packet := by
  constructor
  · rintro ⟨length, ack⟩
    rcases Option.map_eq_some_iff.mp length with ⟨fixedLength, known, total⟩
    refine ⟨fixedLength, known, ?_, ack⟩
    rw [extraLength_take known]
    exact total.symm
  · rintro ⟨fixedLength, known, length, ack⟩
    refine ⟨?_, ack⟩
    rw [extraLength_take known] at length
    rw [prescribedLength?, known, length]
    rfl

end Packet

namespace Frame

variable {stream left noise : Bytes} {byte : UInt8} {packet : Packet} {fixedLength : Nat}
  {items : List (Except Error Packet)}

/-- What waits for more octets: it begins with a sync byte, if there is anything, and neither names
an unknown packet nor holds a complete one. -/
structure IsUnfinished (left : Bytes) : Prop where
  inSync : left = [] ∨ left.head? = some syncByte
  known : ∀ byte rest, left = syncByte :: byte :: rest → (Opcode.mk byte).bodyLength? ≠ none
  incomplete : ∀ packet rest, packet.IsWellFormed → left ≠ encode packet ++ rest

/-- From left to right, a stream is made up of noise, of sync bytes in front of bytes that name no
packet, of packets, and of what waits for more octets. The packets and the bytes that name none are
the items that it holds. -/
inductive Splits : Bytes → List (Except Error Packet) → Bytes → Prop where
  | rest {left : Bytes} (unfinished : IsUnfinished left) : Splits left [] left
  | noise {byte : UInt8} {stream left : Bytes} {items : List (Except Error Packet)}
      (unsynced : byte ≠ syncByte) (later : Splits stream items left) :
      Splits (byte :: stream) items left
  /-- Only the sync byte is given up. -/
  | unknown {byte : UInt8} {stream left : Bytes} {items : List (Except Error Packet)}
      (nameless : (Opcode.mk byte).bodyLength? = none)
      (later : Splits (byte :: stream) items left) :
      Splits (syncByte :: byte :: stream) (.error (.unknownCommand byte) :: items) left
  | packet {packet : Packet} {stream left : Bytes} {items : List (Except Error Packet)}
      (wellFormed : packet.IsWellFormed) (later : Splits stream items left) :
      Splits (encode packet ++ stream) (.ok packet :: items) left

/-! ### What a buffer starts with -/

theorem seekSync_of_inSync (inSync : stream.head? = some syncByte) : seekSync stream = stream := by
  cases stream with
  | nil => rfl
  | cons byte rest =>
      rcases Option.some.inj inSync with rfl
      simp [seekSync]

theorem scan_of_nameless (nameless : (Opcode.mk byte).bodyLength? = none) (rest : Bytes) :
    scan (syncByte :: byte :: rest) = .found (.error (.unknownCommand byte)) (byte :: rest) := by
  have sought : seekSync (syncByte :: byte :: rest) = syncByte :: byte :: rest :=
    seekSync_of_inSync rfl
  simp only [scan, sought, nameless]

theorem scan_encode (wellFormed : packet.IsWellFormed) (rest : Bytes) :
    scan (encode packet ++ rest) = .found (.ok packet) rest := by
  rcases Packet.isWellFormed_iff.mp wellFormed with ⟨fixedLength, known, whole⟩
  have complete := body?_of_whole whole rest
  have frame : encode packet ++ rest
      = syncByte :: packet.opcode.byte :: (packet.payload ++ (packet.ack.toList ++ rest)) := by
    simp [encode]
  rw [frame, scan, seekSync_of_inSync rfl]
  simp only [known, complete]

theorem encode_of_body? (known : (Opcode.mk byte).bodyLength? = some fixedLength) {rest : Bytes}
    (complete : body? ⟨byte⟩ fixedLength rest = some (packet, left)) :
    packet.IsWellFormed ∧ syncByte :: byte :: rest = encode packet ++ left := by
  rcases whole_of_body? complete with ⟨opcode, whole, rfl⟩
  refine ⟨Packet.isWellFormed_iff.mpr ⟨fixedLength, ?_, whole⟩, ?_⟩
  · rw [opcode]
    exact known
  · simp [encode, opcode]

theorem scan_of_isUnfinished (unfinished : IsUnfinished left) : scan left = .incomplete left := by
  have sought : seekSync left = left := by
    rcases unfinished.inSync with rfl | inSync
    · rfl
    · exact seekSync_of_inSync inSync
  rw [scan, sought]
  split
  · next sync byte rest =>
      have synced : sync = syncByte := by simpa using unfinished.inSync
      subst synced
      split
      · next nameless => exact absurd nameless (unfinished.known byte rest rfl)
      · next fixedLength known =>
          split
          · rfl
          · next packet later complete =>
              rcases encode_of_body? known complete with ⟨wellFormed, frame⟩
              exact absurd frame (unfinished.incomplete packet later wellFormed)
  · rfl

/-! ### What waits is shorter than the longest packet -/

theorem bodyLength?_le {opcode : Opcode} (known : opcode.bodyLength? = some fixedLength) :
    fixedLength ≤ 23 ∧ (opcode.isHost = true → fixedLength ≤ 9) := by
  -- The host's packets stand behind the modem's own in the table of lengths.
  suffices bound : fixedLength ≤ 23 ∧ (0x60 ≤ opcode.byte.toNat → fixedLength ≤ 9) by
    refine ⟨bound.1, ?_⟩
    intro host
    simp only [Opcode.isHost, Bool.and_eq_true, decide_eq_true_eq] at host
    exact bound.2 (UInt8.le_iff_toNat_le.mp host.1)
  unfold Opcode.bodyLength? at known
  split at known <;> simp only [Option.some.injEq, reduceCtorEq] at known <;> omega

/-- The octets behind the command byte, with what an extended message adds and the ack byte. -/
theorem frameLength_le {opcode : Opcode} (known : opcode.bodyLength? = some fixedLength)
    (body : Bytes) :
    fixedLength + opcode.extraLength body + opcode.isHost.toNat ≤ 23 := by
  rcases bodyLength?_le known with ⟨short, shortHost⟩
  by_cases sends : opcode = .sendMessage
  · subst sends
    have six : fixedLength = 6 := (Option.some.inj known).symm
    have extra : Opcode.sendMessage.extraLength body ≤ 14 := by
      unfold Opcode.extraLength
      split
      · split
        · exact Nat.le_refl _
        · exact Nat.zero_le _
      · exact Nat.zero_le _
    have host : Opcode.sendMessage.isHost.toNat = 1 := rfl
    omega
  · rw [Packet.extraLength_of_ne sends]
    cases host : opcode.isHost with
    | true =>
        have shorter := shortHost host
        simp only [Bool.toNat_true]
        omega
    | false =>
        simp only [Bool.toNat_false]
        omega

theorem exists_body?_of_long {opcode : Opcode} {rest : Bytes}
    (known : opcode.bodyLength? = some fixedLength) (long : 23 ≤ rest.length) :
    ∃ packet left, body? opcode fixedLength rest = some (packet, left) := by
  have bound := frameLength_le known (rest.take fixedLength)
  unfold body?
  rw [if_neg (by omega)]
  dsimp only
  cases host : opcode.isHost with
  | true =>
      simp only [host, Bool.toNat_true] at bound
      simp only [↓reduceIte]
      split
      · exact ⟨_, _, rfl⟩
      · next dropped =>
          rw [List.drop_eq_nil_iff] at dropped
          omega
  | false =>
      simp only [Bool.false_eq_true, ↓reduceIte]
      rw [if_neg (by omega)]
      exact ⟨_, _, rfl⟩

theorem length_lt_of_isUnfinished (unfinished : IsUnfinished left) : left.length < 25 := by
  apply Classical.byContradiction
  intro long
  match left, unfinished, long with
  | [], _, long => simp at long
  | [_], _, long => simp at long
  | sync :: byte :: rest, unfinished, long =>
      have synced : sync = syncByte := by simpa using unfinished.inSync
      subst synced
      simp only [List.length_cons, Nat.not_lt] at long
      cases named : (Opcode.mk byte).bodyLength? with
      | none => exact unfinished.known byte rest rfl named
      | some fixedLength =>
          rcases exists_body?_of_long named (by omega : 23 ≤ rest.length) with
            ⟨packet, later, complete⟩
          rcases encode_of_body? named complete with ⟨wellFormed, frame⟩
          exact unfinished.incomplete packet later wellFormed frame

/-! ### The splitting -/

namespace Splits

theorem skip (quiet : syncByte ∉ noise) (later : Splits stream items left) :
    Splits (noise ++ stream) items left := by
  induction noise with
  | nil => exact later
  | cons byte rest ih =>
      rw [List.mem_cons, not_or] at quiet
      exact .noise (Ne.symm quiet.1) (ih quiet.2)

/-- Decoding finds what the stream splits into. -/
theorem decode_eq (splits : Splits stream items left) : decode stream = (items, left) := by
  induction splits with
  | rest unfinished => exact decode_of_incomplete (scan_of_isUnfinished unfinished)
  | @noise byte stream left items unsynced _ ih =>
      have same : seekSync (byte :: stream) = seekSync stream := by
        simp [seekSync, unsynced]
      rw [decode_congr (scan_congr same), ih]
  | unknown nameless _ ih => rw [decode_of_found (scan_of_nameless nameless _), ih]
  | packet wellFormed _ ih => rw [decode_of_found (scan_encode wellFormed _), ih]

theorem isUnfinished (splits : Splits stream items left) : IsUnfinished left := by
  induction splits with
  | rest unfinished => exact unfinished
  | noise _ _ ih | unknown _ _ ih | packet _ _ ih => exact ih

end Splits

/-- A stream in sync either waits for more octets or begins with a piece of its own. -/
theorem starts_of_inSync (stream : Bytes) (inSync : stream = [] ∨ stream.head? = some syncByte) :
    IsUnfinished stream
      ∨ (∃ byte rest, stream = syncByte :: byte :: rest ∧ (Opcode.mk byte).bodyLength? = none)
      ∨ ∃ packet rest, packet.IsWellFormed ∧ stream = encode packet ++ rest := by
  by_cases nameless : ∃ byte rest,
      stream = syncByte :: byte :: rest ∧ (Opcode.mk byte).bodyLength? = none
  · exact Or.inr (Or.inl nameless)
  · by_cases complete : ∃ packet rest, packet.IsWellFormed ∧ stream = encode packet ++ rest
    · exact Or.inr (Or.inr complete)
    · left
      refine ⟨inSync, ?_, ?_⟩
      · intro byte rest start unnamed
        exact nameless ⟨byte, rest, start, unnamed⟩
      · intro packet rest wellFormed start
        exact complete ⟨packet, rest, wellFormed, start⟩

theorem exists_splits (stream : Bytes) : ∃ items left, Splits stream items left := by
  match stream with
  | [] =>
      have unfinished : IsUnfinished [] := ⟨Or.inl rfl, by simp, by simp [encode]⟩
      exact ⟨[], [], .rest unfinished⟩
  | byte :: rest =>
      by_cases synced : byte = syncByte
      · subst synced
        rcases starts_of_inSync (syncByte :: rest) (Or.inr rfl) with
          unfinished | ⟨byte, later, start, nameless⟩ | ⟨packet, later, wellFormed, start⟩
        · exact ⟨[], _, .rest unfinished⟩
        · rcases exists_splits (byte :: later) with ⟨items, left, splits⟩
          rw [start]
          exact ⟨_, left, .unknown nameless splits⟩
        · rcases exists_splits later with ⟨items, left, splits⟩
          rw [start]
          exact ⟨_, left, .packet wellFormed splits⟩
      · rcases exists_splits rest with ⟨items, left, splits⟩
        exact ⟨items, left, .noise synced splits⟩
termination_by stream.length
decreasing_by
  · have lengths := congrArg List.length start
    simp only [List.length_cons] at lengths ⊢
    omega
  · have lengths := congrArg List.length start
    simp only [encode, List.cons_append, List.length_cons, List.length_append] at lengths ⊢
    omega
  · simp

theorem decode_eq_iff_splits : decode stream = (items, left) ↔ Splits stream items left := by
  constructor
  · intro decoded
    rcases exists_splits stream with ⟨found, waiting, splits⟩
    rw [splits.decode_eq, Prod.mk.injEq] at decoded
    rcases decoded with ⟨rfl, rfl⟩
    exact splits
  · exact Splits.decode_eq

/-- Looks at a buffer again and again until it asks for more, but not more than so often. -/
def decodeWithin (looks : Nat) (buffer : Bytes) :
    Option (List (Except Error Packet) × Bytes) :=
  match looks with
  | 0 => none
  | looks + 1 =>
      match scan buffer with
      | .incomplete left => some ([], left)
      | .found item left => (decodeWithin looks left).map fun (items, rest) => (item :: items, rest)

theorem decodeWithin_of_lt {looks : Nat} (enough : stream.length < looks) :
    decodeWithin looks stream = some (decode stream) := by
  induction looks generalizing stream with
  | zero => contradiction
  | succ looks ih =>
      rw [decodeWithin]
      cases looked : scan stream with
      | incomplete left => rw [decode_of_incomplete looked]
      | found item left =>
          have shorter := length_lt_of_scan looked
          have found := ih (show left.length < looks by omega)
          simp only [found, decode_of_found looked, Option.map_some]

/-- Looking at a stream comes to its end after at most as many packets and unknown bytes as there
are octets. What it finds is the one way in which the stream splits, left to right and without a
gap, into noise, single sync bytes in front of bytes that name no packet, and the frames of
well-formed packets. What is left waits for more: it is empty, or it begins with a sync byte and is
shorter than 25 octets. -/
theorem decode_accounts (stream : Bytes) :
    decodeWithin (stream.length + 1) stream = some (decode stream) ∧
      (∀ items left, decode stream = (items, left) ↔ Splits stream items left) ∧
      ((decode stream).2 = [] ∨ (decode stream).2.head? = some syncByte) ∧
      (decode stream).2.length < 25 := by
  have splits : Splits stream (decode stream).1 (decode stream).2 := decode_eq_iff_splits.mp rfl
  have unfinished := splits.isUnfinished
  refine ⟨decodeWithin_of_lt (Nat.lt_succ_self _), ?_, unfinished.inSync, ?_⟩
  · intro items left
    exact decode_eq_iff_splits
  · exact length_lt_of_isUnfinished unfinished

/-! ### Streams made of packets -/

/-- Packets on the line, each behind the noise that comes with it, and noise behind them all. -/
def ofFrames (frames : List (Bytes × Packet)) (tail : Bytes) : Bytes :=
  frames.flatMap (fun (noise, packet) => noise ++ encode packet) ++ tail

theorem splits_ofFrames {frames : List (Bytes × Packet)} {tail : Bytes}
    (wellFormed : ∀ frame ∈ frames, frame.2.IsWellFormed)
    (quiet : ∀ frame ∈ frames, syncByte ∉ frame.1) (quietTail : syncByte ∉ tail) :
    Splits (ofFrames frames tail) (frames.map fun frame => .ok frame.2) [] := by
  induction frames with
  | nil =>
      have unfinished : IsUnfinished [] := ⟨Or.inl rfl, by simp, by simp [encode]⟩
      have silent : Splits (tail ++ []) [] [] := .skip quietTail (.rest unfinished)
      rwa [List.append_nil] at silent
  | cons frame rest ih =>
      rcases frame with ⟨noise, packet⟩
      rw [List.forall_mem_cons] at wellFormed quiet
      have later := ih wellFormed.2 quiet.2
      have start : ofFrames ((noise, packet) :: rest) tail
          = noise ++ (encode packet ++ ofFrames rest tail) := by
        simp only [ofFrames, List.flatMap_cons, List.append_assoc]
      rw [start]
      exact .skip quiet.1 (.packet wellFormed.1 later)

/-- Well-formed packets come through a noisy line: however the stream is cut into chunks, decoding
them brings the packets in their order and nothing else, and leaves nothing over. -/
theorem decodeChunks_ofFrames (frames : List (Bytes × Packet)) (tail : Bytes)
    (wellFormed : ∀ frame ∈ frames, frame.2.IsWellFormed)
    (quiet : ∀ frame ∈ frames, syncByte ∉ frame.1) (quietTail : syncByte ∉ tail)
    (chunks : List Bytes) (cut : chunks.flatten = ofFrames frames tail) :
    (decodeChunks [] chunks).flatMap Prod.fst = frames.map (fun frame => .ok frame.2) ∧
      leftAfter [] chunks = [] := by
  have empty : decode [] = ([], []) := decode_of_incomplete rfl
  have whole := decode_append_flatten empty chunks
  rw [List.nil_append, cut, (splits_ofFrames wellFormed quiet quietTail).decode_eq] at whole
  rw [Prod.mk.injEq] at whole
  exact ⟨whole.1.symm, whole.2.symm⟩

/-- The echo of an extended message whose payload holds sync, ack and nak bytes and the start of a
frame, and an answer behind it, cut inside the noise, the body and in front of the ack byte. -/
theorem decodeChunks_ofFrames_echo :
    let echo : Packet := ⟨.sendMessage,
      [0x1a, 0x02, 0x50, 0x1f, 0x02, 0x62, 0x02, 0x06, 0x15, 0x02, 0x55, 0, 0, 0, 0, 0, 0, 0, 0, 2],
      some 0x06⟩
    let answer : Packet :=
      ⟨.standardReceived, [0x1a, 0x02, 0x50, 0x44, 0x85, 0x11, 0x2f, 2, 2], none⟩
    let frames : List (Bytes × Packet) := [([0x15, 0x62], echo), ([], answer)]
    let stream := ofFrames frames [0x06, 0x50]
    let chunks := [stream.take 1, (stream.drop 1).take 9, (stream.drop 10).take 14,
      (stream.drop 24).take 2, stream.drop 26]
    (echo.IsWellFormed ∧ answer.IsWellFormed) ∧ chunks.flatten = stream ∧
      (decodeChunks [] chunks).flatMap Prod.fst = [.ok echo, .ok answer] ∧
      leftAfter [] chunks = [] := by
  intro echo answer frames stream chunks
  have wellFormed : ∀ frame ∈ frames, frame.2.IsWellFormed := by decide
  have cut : chunks.flatten = stream := by decide
  refine ⟨by decide, cut, ?_⟩
  exact decodeChunks_ofFrames frames [0x06, 0x50] wellFormed (by decide) (by decide) chunks cut

end Frame

end Powerline
