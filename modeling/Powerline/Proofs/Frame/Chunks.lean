import Powerline.Frame.Reader

/-!
# Cutting a stream into chunks

A stream arrives in chunks that know nothing of packets: a cut may fall into noise, between a sync
byte and its command byte, into a body or before an ack byte. What the buffer holds after a chunk
is all that decoding needs to remember of the stream (`decode_append`), so neither the packets and
errors found nor the octets left over depend on the cuts, and a reader brings the same sequence
before its stream fails.
-/

namespace Powerline.Frame

variable {buffer left more : Bytes} {item : Except Error Packet}

/-! ### Looking at a buffer that grows -/

theorem seekSync_append (buffer more : Bytes) :
    seekSync (buffer ++ more)
      = if seekSync buffer = [] then seekSync more else seekSync buffer ++ more := by
  unfold seekSync
  rw [List.dropWhile_append]
  simp only [List.isEmpty_iff]

/-- The octets before a sync byte can be thrown away before more come. -/
theorem seekSync_seekSync_append (buffer more : Bytes) :
    seekSync (seekSync buffer ++ more) = seekSync (buffer ++ more) := by
  have idempotent : seekSync (seekSync buffer) = seekSync buffer := by
    induction buffer with
    | nil => rfl
    | cons byte rest ih =>
        by_cases isSync : byte = syncByte
        · simp [seekSync, isSync]
        · simpa [seekSync, isSync] using ih
  rw [seekSync_append, seekSync_append, idempotent]

/-- A packet has the fixed part of its body, as many more octets as that calls for, and an ack byte
if the host sends such packets. -/
structure IsWhole (fixedLength : Nat) (packet : Packet) : Prop where
  length : packet.payload.length
    = fixedLength + packet.opcode.extraLength (packet.payload.take fixedLength)
  ack : packet.ack.isSome = packet.opcode.isHost

/-- What is read is a whole packet, and it stands at the start. -/
theorem whole_of_body? {opcode : Opcode} {fixedLength : Nat} {rest : Bytes} {packet : Packet}
    (complete : body? opcode fixedLength rest = some (packet, left)) :
    packet.opcode = opcode ∧ IsWhole fixedLength packet ∧
      rest = packet.payload ++ (packet.ack.toList ++ left) := by
  unfold body? at complete
  split at complete
  · contradiction
  · next long =>
      dsimp only at complete
      generalize extent : fixedLength + opcode.extraLength (rest.take fixedLength) = bodyLength
        at complete
      have fixed : (rest.take bodyLength).take fixedLength = rest.take fixedLength := by
        rw [List.take_take, Nat.min_eq_left (by omega)]
      split at complete
      · next host =>
          split at complete
          · next ack left' dropped =>
              have inside : bodyLength < rest.length := by
                have lengths := congrArg List.length dropped
                rw [List.length_drop, List.length_cons] at lengths
                omega
              simp only [Option.some.injEq, Prod.mk.injEq] at complete
              rcases complete with ⟨rfl, rfl⟩
              refine ⟨rfl, ⟨?_, host.symm⟩, ?_⟩
              · rw [fixed, extent, List.length_take, Nat.min_eq_left (by omega)]
              · rw [Option.toList_some, List.singleton_append, ← dropped, List.take_append_drop]
          · contradiction
      · next modem =>
          split at complete
          · contradiction
          · next inside =>
              simp only [Option.some.injEq, Prod.mk.injEq] at complete
              rcases complete with ⟨rfl, rfl⟩
              refine ⟨rfl, ⟨?_, ?_⟩, ?_⟩
              · rw [fixed, extent, List.length_take, Nat.min_eq_left (by omega)]
              · simpa using modem
              · rw [Option.toList_none, List.nil_append, List.take_append_drop]

/-- A whole packet is read whatever stands behind it. -/
theorem body?_of_whole {fixedLength : Nat} {packet : Packet} (whole : IsWhole fixedLength packet)
    (left : Bytes) :
    body? packet.opcode fixedLength (packet.payload ++ (packet.ack.toList ++ left))
      = some (packet, left) := by
  rcases packet with ⟨opcode, body, ack⟩
  rcases whole with ⟨length, host⟩
  dsimp only at length host ⊢
  have long : ¬ (body ++ (ack.toList ++ left)).length < fixedLength := by
    rw [List.length_append]
    omega
  have fixed : (body ++ (ack.toList ++ left)).take fixedLength = body.take fixedLength :=
    List.take_append_of_le_length (by omega)
  simp only [body?, if_neg long, fixed, ← length, List.drop_left, List.take_left]
  cases ack with
  | some ack => simp [← host]
  | none => simp [← host]

theorem body?_append {opcode : Opcode} {fixedLength : Nat} {rest : Bytes} {packet : Packet}
    (complete : body? opcode fixedLength rest = some (packet, left)) (more : Bytes) :
    body? opcode fixedLength (rest ++ more) = some (packet, left ++ more) := by
  rcases whole_of_body? complete with ⟨rfl, whole, rfl⟩
  rw [List.append_assoc, List.append_assoc]
  exact body?_of_whole whole (left ++ more)

/-- Only the octets from the next sync byte on matter. -/
theorem scan_congr {other : Bytes} (same : seekSync buffer = seekSync other) :
    scan buffer = scan other := by
  unfold scan
  rw [same]

/-- What is found at the start of a buffer is found there also when more octets come. -/
theorem scan_append_of_found (hit : scan buffer = .found item left) (more : Bytes) :
    scan (buffer ++ more) = .found item (left ++ more) := by
  unfold scan at hit
  split at hit
  · next sync byte rest sought =>
      have grown : seekSync (buffer ++ more) = sync :: byte :: (rest ++ more) := by
        rw [seekSync_append, sought, if_neg (by simp)]
        rfl
      unfold scan
      rw [grown]
      split at hit
      · next unknown =>
          simp only [Scan.found.injEq] at hit
          rcases hit with ⟨rfl, rfl⟩
          simp only [unknown, List.cons_append]
      · next fixedLength known =>
          split at hit
          · contradiction
          · next packet rest' complete =>
              simp only [Scan.found.injEq] at hit
              rcases hit with ⟨rfl, rfl⟩
              simp only [known, body?_append complete more]
  · contradiction

/-- What waits for more octets are those from the next sync byte on. -/
theorem eq_seekSync_of_incomplete (miss : scan buffer = .incomplete left) :
    left = seekSync buffer := by
  unfold scan at miss
  split at miss
  · next sync byte rest sought =>
      split at miss
      · contradiction
      · split at miss
        · simp only [Scan.incomplete.injEq] at miss
          rw [← miss, sought]
        · contradiction
  · simp only [Scan.incomplete.injEq] at miss
    exact miss.symm

theorem scan_append_of_incomplete (miss : scan buffer = .incomplete left) (more : Bytes) :
    scan (left ++ more) = scan (buffer ++ more) := by
  rw [eq_seekSync_of_incomplete miss]
  exact scan_congr (seekSync_seekSync_append buffer more)

/-! ### Decoding a buffer that grows -/

theorem decode_of_incomplete (miss : scan buffer = .incomplete left) :
    decode buffer = ([], left) := by
  rw [decode]
  split
  · next other => simp_all
  · next other => simp_all

theorem decode_of_found (hit : scan buffer = .found item left) :
    decode buffer = (item :: (decode left).1, (decode left).2) := by
  rw [decode]
  split
  · next other => simp_all
  · next other =>
      rw [hit, Scan.found.injEq] at other
      rcases other with ⟨rfl, rfl⟩
      rfl

/-- Two buffers that look the same at their starts decode the same. -/
theorem decode_congr {other : Bytes} (same : scan buffer = scan other) :
    decode buffer = decode other := by
  cases looked : scan other with
  | incomplete left => rw [decode_of_incomplete looked, decode_of_incomplete (same.trans looked)]
  | found item left => rw [decode_of_found looked, decode_of_found (same.trans looked)]

/-- Decoding goes on from the octets that were left over as if all had been there at once. -/
theorem decode_append (buffer more : Bytes) :
    decode (buffer ++ more)
      = ((decode buffer).1 ++ (decode ((decode buffer).2 ++ more)).1,
          (decode ((decode buffer).2 ++ more)).2) := by
  induction buffer using decode.induct with
  | case1 buffer left miss =>
      rw [decode_of_incomplete miss, ← decode_congr (scan_append_of_incomplete miss more)]
      rfl
  | case2 buffer item left hit _ _ _ ih =>
      rw [decode_of_found (scan_append_of_found hit more), decode_of_found hit, ih]
      rfl

/-- The octets left over hold nothing complete. -/
theorem decode_left (buffer : Bytes) :
    decode (decode buffer).2 = ([], (decode buffer).2) := by
  have again := decode_append buffer []
  rw [List.append_nil, List.append_nil] at again
  rcases Prod.ext_iff.mp again with ⟨items, left⟩
  exact Prod.ext (List.self_eq_append_right.mp items) left.symm

/-- Whatever is found is a packet or an octet that names none. -/
theorem packet_or_unknown_of_mem_decode (mem : item ∈ (decode buffer).1) :
    (∃ packet, item = .ok packet) ∨ ∃ byte, item = .error (.unknownCommand byte) := by
  induction buffer using decode.induct with
  | case1 buffer left miss =>
      rw [decode_of_incomplete miss] at mem
      contradiction
  | case2 buffer found left hit _ _ _ ih =>
      rw [decode_of_found hit, List.mem_cons] at mem
      rcases mem with rfl | later
      · cases item with
        | ok packet => exact Or.inl ⟨packet, rfl⟩
        | error error =>
            rcases Reader.scan_error hit with ⟨byte, rfl⟩
            exact Or.inr ⟨byte, rfl⟩
      · exact ih later

/-! ### Chunks -/

/-- The octets left over after the last chunk. -/
def leftAfter (buffer : Bytes) (chunks : List Bytes) : Bytes :=
  ((decodeChunks buffer chunks).getLast?.map Prod.snd).getD buffer

theorem leftAfter_cons (buffer chunk : Bytes) (chunks : List Bytes) :
    leftAfter buffer (chunk :: chunks) = leftAfter (decode (buffer ++ chunk)).2 chunks := by
  simp only [leftAfter, decodeChunks, List.getLast?_cons]
  cases (decodeChunks (decode (buffer ++ chunk)).2 chunks).getLast? <;> rfl

/-- Decoding chunk by chunk, from a buffer that holds nothing complete. -/
theorem decode_append_flatten (settled : decode buffer = ([], buffer)) (chunks : List Bytes) :
    decode (buffer ++ chunks.flatten)
      = ((decodeChunks buffer chunks).flatMap Prod.fst, leftAfter buffer chunks) := by
  induction chunks generalizing buffer with
  | nil =>
      rw [List.flatten_nil, List.append_nil, settled]
      rfl
  | cons chunk rest ih =>
      have later := ih (decode_left (buffer ++ chunk))
      rw [List.flatten_cons, ← List.append_assoc, decode_append, later, leftAfter_cons]
      rfl

/-! ### Reading packets one at a time -/

namespace Reader

/-- A stream delivers these chunks; then it fails once, if it does, and then it is at its end. -/
def arrivalsOf (chunks : List Bytes) (failure : Option LineFailure) : List Arrival :=
  chunks.map .ok ++ (failure.map .error).toList

/-- How a stream ends that fails in this way or not at all. -/
def endOf (failure : Option LineFailure) : Except Error Packet :=
  .error (.line (failure.getD endOfStream))

variable {chunks : List Bytes} {failure : Option LineFailure}

theorem readFrom_of_found (hit : scan buffer = .found item left) (arrivals : List Arrival) :
    readFrom buffer arrivals = (item, ⟨left, arrivals⟩) := by
  cases arrivals with
  | nil => simp only [readFrom, hit]
  | cons arrival rest => simp only [readFrom, hit]

theorem readFrom_cons {chunk : Bytes} (miss : scan buffer = .incomplete left)
    (full : chunk ≠ []) :
    readFrom buffer (arrivalsOf (chunk :: chunks) failure)
      = readFrom (left ++ chunk) (arrivalsOf chunks failure) := by
  cases chunk with
  | nil => contradiction
  | cons byte more => simp only [arrivalsOf, List.map_cons, List.cons_append, readFrom, miss]

theorem readFrom_nil (miss : scan buffer = .incomplete left) :
    readFrom buffer (arrivalsOf [] failure) = (endOf failure, ⟨left, []⟩) := by
  cases failure with
  | none => simp only [arrivalsOf, List.map_nil, Option.map_none, Option.toList_none,
      List.append_nil, readFrom, miss, endOf, Option.getD_none]
  | some fault => simp only [arrivalsOf, List.map_nil, Option.map_some, Option.toList_some,
      List.nil_append, readFrom, miss, endOf, Option.getD_some]

/-- A chunk that comes to what waits decodes as if it had come to the whole buffer. -/
theorem decode_flatten_cons (miss : scan buffer = .incomplete left) (chunk : Bytes) :
    decode (buffer ++ (chunk :: chunks).flatten) = decode (left ++ chunk ++ chunks.flatten) := by
  rw [List.flatten_cons, List.append_assoc]
  exact (decode_congr (scan_append_of_incomplete miss (chunk ++ chunks.flatten))).symm

/-- A read of a stream that holds nothing complete fails as the stream does. -/
theorem readFrom_of_nothing (full : ∀ chunk ∈ chunks, chunk ≠ [])
    (nothing : (decode (buffer ++ chunks.flatten)).1 = []) :
    (readFrom buffer (arrivalsOf chunks failure)).1 = endOf failure := by
  induction chunks generalizing buffer with
  | nil =>
      cases looked : scan buffer with
      | incomplete left => rw [readFrom_nil looked]
      | found item left =>
          rw [List.flatten_nil, List.append_nil, decode_of_found looked] at nothing
          contradiction
  | cons chunk rest ih =>
      cases looked : scan buffer with
      | incomplete left =>
          rw [decode_flatten_cons looked] at nothing
          rw [readFrom_cons looked (full chunk List.mem_cons_self)]
          exact ih (fun other mem => full other (List.mem_cons_of_mem chunk mem)) nothing
      | found item left =>
          rw [decode_of_found (scan_append_of_found looked _)] at nothing
          contradiction

/-- A read of a stream brings the first that decoding finds, and leaves the rest. -/
theorem readFrom_of_something (failure : Option LineFailure) {items : List (Except Error Packet)}
    (full : ∀ chunk ∈ chunks, chunk ≠ [])
    (something : (decode (buffer ++ chunks.flatten)).1 = item :: items) :
    ∃ waiting coming, (∀ chunk ∈ coming, chunk ≠ [])
      ∧ readFrom buffer (arrivalsOf chunks failure) = (item, ⟨waiting, arrivalsOf coming failure⟩)
      ∧ (decode (waiting ++ coming.flatten)).1 = items := by
  induction chunks generalizing buffer with
  | nil =>
      cases looked : scan buffer with
      | incomplete left =>
          rw [List.flatten_nil, List.append_nil, decode_of_incomplete looked] at something
          contradiction
      | found found left =>
          rw [List.flatten_nil, List.append_nil, decode_of_found looked, List.cons.injEq]
            at something
          rcases something with ⟨rfl, rfl⟩
          refine ⟨left, [], full, readFrom_of_found looked _, ?_⟩
          rw [List.flatten_nil, List.append_nil]
  | cons chunk rest ih =>
      cases looked : scan buffer with
      | incomplete left =>
          rw [decode_flatten_cons looked] at something
          rw [readFrom_cons looked (full chunk List.mem_cons_self)]
          exact ih (fun other mem => full other (List.mem_cons_of_mem chunk mem)) something
      | found found left =>
          rw [decode_of_found (scan_append_of_found looked _), List.cons.injEq] at something
          rcases something with ⟨rfl, rfl⟩
          exact ⟨left, chunk :: rest, full, readFrom_of_found looked _, rfl⟩

/-- A reader brings what decoding the whole stream finds, and then the end of the stream. -/
theorem transcript_arrivalsOf (full : ∀ chunk ∈ chunks, chunk ≠ []) :
    transcript 1 ⟨buffer, arrivalsOf chunks failure⟩
      = (decode (buffer ++ chunks.flatten)).1 ++ [endOf failure] := by
  -- Each read takes the first item off what decoding finds in the rest of the stream.
  generalize decoded : (decode (buffer ++ chunks.flatten)).1 = items
  induction items generalizing buffer chunks with
  | nil =>
      have ended : (read ⟨buffer, arrivalsOf chunks failure⟩).1 = endOf failure :=
        readFrom_of_nothing full decoded
      rw [transcript, ended]
      simp [endOf, isLineError, transcript]
  | cons item items ih =>
      rcases readFrom_of_something failure full decoded with
        ⟨waiting, coming, stillFull, brought, later⟩
      have read : read ⟨buffer, arrivalsOf chunks failure⟩
          = (item, ⟨waiting, arrivalsOf coming failure⟩) := brought
      have mem : item ∈ (decode (buffer ++ chunks.flatten)).1 := by
        rw [decoded]
        exact List.mem_cons_self
      have proper : isLineError item = false := by
        rcases packet_or_unknown_of_mem_decode mem with ⟨packet, rfl⟩ | ⟨byte, rfl⟩ <;> rfl
      rw [transcript, read]
      simp only [proper, ↓reduceDIte, ih stillFull later, List.cons_append]

end Reader

/-- However a stream is cut into chunks, decoding them one by one finds the packets and unknown
command bytes that decoding the whole stream at once finds, in the same order, and leaves the same
octets over; and a reader of the stream brings just these before its stream fails or ends. -/
theorem decodeChunks_eq_decode (chunks : List Bytes) :
    (decodeChunks [] chunks).flatMap Prod.fst = (decode chunks.flatten).1 ∧
    leftAfter [] chunks = (decode chunks.flatten).2 ∧
    (∀ item ∈ (decode chunks.flatten).1,
      (∃ packet, item = .ok packet) ∨ ∃ byte, item = .error (.unknownCommand byte)) ∧
    ((∀ chunk ∈ chunks, chunk ≠ []) → ∀ failure : Option LineFailure,
      Reader.transcript 1 ⟨[], Reader.arrivalsOf chunks failure⟩
        = (decode chunks.flatten).1 ++ [Reader.endOf failure]) := by
  have empty : decode [] = ([], []) := decode_of_incomplete rfl
  have whole : decode chunks.flatten
      = ((decodeChunks [] chunks).flatMap Prod.fst, leftAfter [] chunks) :=
    decode_append_flatten empty chunks
  refine ⟨?_, ?_, ?_, ?_⟩
  · rw [whole]
  · rw [whole]
  · intro item mem
    exact packet_or_unknown_of_mem_decode mem
  · intro full failure
    exact Reader.transcript_arrivalsOf full

end Powerline.Frame
