import Powerline.Packet

/-!
# Frames

On the serial line a packet is framed by a sync byte. Reading skips whatever stands before the
next sync byte. If the byte behind it names no packet, only the sync byte is given up and the
search goes on behind it, so noise costs no packet that follows it.
-/

namespace Powerline.Frame

/-- A packet on the serial line. -/
def encode (packet : Packet) : Bytes :=
  syncByte :: packet.opcode.byte :: packet.payload ++ packet.ack.toList

/-- What the start of a buffer holds. -/
inductive Scan where
  /-- Nothing complete yet; these octets wait for more. -/
  | incomplete (left : Bytes)
  /-- A packet, or a sync byte followed by a byte that names none, with the octets behind it. -/
  | found (item : Except Error Packet) (left : Bytes)
  deriving Repr

/-- The octets from the next sync byte on. -/
def seekSync (buffer : Bytes) : Bytes :=
  buffer.dropWhile (· != syncByte)

/-- Reads a packet with the given command byte and length of the fixed body from the octets
behind the command byte, if they are all there. -/
def body? (opcode : Opcode) (fixedLength : Nat) (rest : Bytes) : Option (Packet × Bytes) :=
  if rest.length < fixedLength then none
  else
    let bodyLength := fixedLength + opcode.extraLength (rest.take fixedLength)
    if opcode.isHost then
      match rest.drop bodyLength with
      | ack :: left => some (⟨opcode, rest.take bodyLength, some ack⟩, left)
      | [] => none
    else if rest.length < bodyLength then none
    else some (⟨opcode, rest.take bodyLength, none⟩, rest.drop bodyLength)

/-- Looks at the start of a buffer. -/
def scan (buffer : Bytes) : Scan :=
  match seekSync buffer with
  | sync :: byte :: rest =>
      match (Opcode.mk byte).bodyLength? with
      | none => .found (.error (.unknownCommand byte)) (byte :: rest)
      | some fixedLength =>
          match body? ⟨byte⟩ fixedLength rest with
          | none => .incomplete (sync :: byte :: rest)
          | some (packet, left) => .found (.ok packet) left
  | short => .incomplete short

theorem length_seekSync_le (buffer : Bytes) : (seekSync buffer).length ≤ buffer.length :=
  (List.dropWhile_suffix _).length_le

theorem length_of_body? {opcode : Opcode} {fixedLength : Nat} {rest left : Bytes}
    {packet : Packet} (complete : body? opcode fixedLength rest = some (packet, left)) :
    left.length ≤ rest.length := by
  unfold body? at complete
  split at complete
  · simp at complete
  · dsimp only at complete
    split at complete
    · split at complete
      · rename_i ack rest' dropped
        simp only [Option.some.injEq, Prod.mk.injEq] at complete
        have lengths := congrArg List.length dropped
        simp only [List.length_drop, List.length_cons] at lengths
        rw [← complete.2]
        omega
      · simp at complete
    · split at complete
      · simp at complete
      · simp only [Option.some.injEq, Prod.mk.injEq] at complete
        rw [← complete.2]
        simp

/-- Whatever is found takes at least one octet from the buffer. -/
theorem length_lt_of_scan {buffer left : Bytes} {item : Except Error Packet}
    (hit : scan buffer = .found item left) : left.length < buffer.length := by
  have bound := length_seekSync_le buffer
  unfold scan at hit
  split at hit
  · rename_i sync byte rest sought
    rw [sought] at bound
    simp only [List.length_cons] at bound
    split at hit
    · simp only [Scan.found.injEq] at hit
      rw [← hit.2]
      simp only [List.length_cons]
      omega
    · split at hit
      · simp at hit
      · rename_i packet left' complete
        simp only [Scan.found.injEq] at hit
        have smaller := length_of_body? complete
        rw [← hit.2]
        omega
  · simp at hit

/-- Everything that a buffer holds, and the octets that wait for more. -/
def decode (buffer : Bytes) : List (Except Error Packet) × Bytes :=
  match _hit : scan buffer with
  | .incomplete left => ([], left)
  | .found item left =>
      let (items, rest) := decode left
      (item :: items, rest)
termination_by buffer.length
decreasing_by exact length_lt_of_scan _hit

/-- What each chunk of a stream completes, with the octets that are left after it. -/
def decodeChunks (buffer : Bytes) : List Bytes → List (List (Except Error Packet) × Bytes)
  | [] => []
  | chunk :: rest =>
      let (items, left) := decode (buffer ++ chunk)
      (items, left) :: decodeChunks left rest

end Powerline.Frame
