import Powerline.Proofs.Link.Wire

/-!
# Link requests as octets

Reading a payload has five outcomes (`Reading`): no header, no such kind, a request without a
record, a record that is cut off, and a request with its record. So it is known which payloads are
refused, and that a request that was read is written as the same octets, but for the first one and
the place of a record that was not announced, which are written as zeros. Together with the way back
from a complete request this is `payload_exact`.
-/

namespace Powerline

theorem high_join (high low : UInt8) :
    ((high.toUInt16 <<< 8 ||| low.toUInt16) >>> 8).toUInt8 = high := by
  apply UInt8.toNat_inj.mp
  have highBound := high.toNat_lt
  have lowBound := low.toNat_lt
  simp only [UInt16.toNat_toUInt8, UInt16.toNat_shiftRight, toNat_join, UInt16.reduceToNat,
    Nat.reduceMod, Nat.shiftRight_eq_div_pow]
  omega

theorem low_join (high low : UInt8) :
    (high.toUInt16 <<< 8 ||| low.toUInt16).toUInt8 = low := by
  apply UInt8.toNat_inj.mp
  have lowBound := low.toNat_lt
  simp only [UInt16.toNat_toUInt8, toNat_join]
  omega

namespace LinkRequestKind

/-- An octet names a kind, or it is greater than the last one that does. -/
theorem exists_toByte_or (byte : UInt8) : (∃ kind, byte = toByte kind) ∨ 2 < byte := by
  rcases Nat.lt_or_ge 2 byte.toNat with greater | small
  · exact .inr (UInt8.lt_iff_toNat_lt.mpr greater)
  · have named : byte = 0 ∨ byte = 1 ∨ byte = 2 := by
      simp only [← UInt8.toNat_inj, UInt8.reduceToNat]
      omega
    rcases named with rfl | rfl | rfl
    · exact .inl ⟨read, rfl⟩
    · exact .inl ⟨response, rfl⟩
    · exact .inl ⟨write, rfl⟩

theorem not_lt_toByte (kind : LinkRequestKind) : ¬ 2 < kind.toByte := by
  cases kind <;> decide

theorem ofByte_of_lt {byte : UInt8} (greater : 2 < byte) :
    ofByte byte = .error (.protocol (.unknownLinkRequest byte)) := by
  have number : 2 < byte.toNat := UInt8.lt_iff_toNat_lt.mp greater
  unfold ofByte
  split <;> first | omega | rfl

end LinkRequestKind

namespace LinkRecord

theorem ofBytes_of_short {bytes : Bytes} (short : bytes.length < recordSize) :
    ofBytes bytes = .error (.bufferTooShort recordSize bytes.length) := by
  unfold ofBytes
  split
  · simp only [List.length_cons, recordSize] at short
    omega
  · rfl

/-- A buffer that is long enough starts with the octets of a record. -/
theorem exists_ofBytes {bytes : Bytes} (full : recordSize ≤ bytes.length) :
    ∃ record, ofBytes bytes = .ok record ∧ record.toBytes = bytes.take recordSize := by
  match bytes, full with
  | flags :: group :: high :: middle :: low :: data1 :: data2 :: data3 :: rest, _ =>
      exact ⟨⟨⟨flags⟩, group, ⟨high, middle, low⟩, data1, data2, data3⟩, rfl, rfl⟩
  | [], full | [_], full | [_, _], full | [_, _, _], full | [_, _, _, _], full
  | [_, _, _, _, _], full | [_, _, _, _, _, _], full | [_, _, _, _, _, _, _], full =>
      simp [recordSize] at full

end LinkRecord

namespace LinkRequest

/-- The octets of a payload in front of the record. -/
def headerLength : Nat := 5

/-- The second octet names a kind of request that brings a record. -/
def AnnouncesRecord (bytes : Bytes) : Prop :=
  bytes[1]? = some 1 ∨ bytes[1]? = some 2

/-- What reading a payload comes to. -/
inductive Reading : Bytes → Except Error LinkRequest → Prop where
  | short {bytes : Bytes} (short : bytes.length < headerLength) :
      Reading bytes (.error (.bufferTooShort headerLength bytes.length))
  | unknown {reserved byte high low count : UInt8} {rest : Bytes} (greater : 2 < byte) :
      Reading (reserved :: byte :: high :: low :: count :: rest)
        (.error (.protocol (.unknownLinkRequest byte)))
  | plain {reserved high low count : UInt8} {rest : Bytes} :
      Reading (reserved :: LinkRequestKind.read.toByte :: high :: low :: count :: rest)
        (.ok ⟨.read, high.toUInt16 <<< 8 ||| low.toUInt16, count, none⟩)
  | cut {reserved high low count : UInt8} {rest : Bytes} {kind : LinkRequestKind}
      (brings : kind ≠ .read) (cut : rest.length < recordSize) :
      Reading (reserved :: kind.toByte :: high :: low :: count :: rest)
        (.error (.bufferTooShort recordSize rest.length))
  | whole {reserved high low count : UInt8} {rest : Bytes} {kind : LinkRequestKind}
      {record : LinkRecord} (brings : kind ≠ .read) (full : recordSize ≤ rest.length)
      (written : record.toBytes = rest.take recordSize) :
      Reading (reserved :: kind.toByte :: high :: low :: count :: rest)
        (.ok ⟨kind, high.toUInt16 <<< 8 ||| low.toUInt16, count, some record⟩)

theorem ofPayload_of_short {bytes : Bytes} (short : bytes.length < headerLength) :
    ofPayload bytes = .error (.bufferTooShort headerLength bytes.length) := by
  unfold ofPayload
  split
  · simp only [List.length_cons, headerLength] at short
    omega
  · rfl

theorem exists_header {bytes : Bytes} (long : headerLength ≤ bytes.length) :
    ∃ reserved byte high low count rest,
      bytes = reserved :: byte :: high :: low :: count :: rest := by
  match bytes, long with
  | reserved :: byte :: high :: low :: count :: rest, _ =>
      exact ⟨reserved, byte, high, low, count, rest, rfl⟩
  | [], long | [_], long | [_, _], long | [_, _, _], long | [_, _, _, _], long =>
      simp [headerLength] at long

section Header

variable {reserved byte high low count : UInt8} {rest : Bytes} {kind : LinkRequestKind}

theorem ofPayload_of_lt (greater : 2 < byte) :
    ofPayload (reserved :: byte :: high :: low :: count :: rest)
      = .error (.protocol (.unknownLinkRequest byte)) := by
  simp only [ofPayload, LinkRequestKind.ofByte_of_lt greater]
  rfl

theorem ofPayload_of_brings (brings : kind ≠ .read) :
    ofPayload (reserved :: kind.toByte :: high :: low :: count :: rest)
      = (LinkRecord.ofBytes rest).map fun record =>
          ⟨kind, high.toUInt16 <<< 8 ||| low.toUInt16, count, some record⟩ := by
  simp only [ofPayload, ofByte_toByte]
  cases kind with
  | read => contradiction
  | response | write => cases LinkRecord.ofBytes rest <;> rfl

theorem announcesRecord_iff :
    AnnouncesRecord (reserved :: kind.toByte :: high :: low :: count :: rest) ↔ kind ≠ .read := by
  cases kind <;> simp [AnnouncesRecord, LinkRequestKind.toByte]

theorem not_announcesRecord_of_lt (greater : 2 < byte) :
    ¬ AnnouncesRecord (reserved :: byte :: high :: low :: count :: rest) := by
  rintro (one | two)
  · rw [Option.some.inj one] at greater
    contradiction
  · rw [Option.some.inj two] at greater
    contradiction

theorem length_header (reserved byte high low count : UInt8) (rest : Bytes) :
    (reserved :: byte :: high :: low :: count :: rest).length = headerLength + rest.length := by
  simp only [List.length_cons, headerLength]
  omega

end Header

theorem reading (bytes : Bytes) : Reading bytes (ofPayload bytes) := by
  rcases Nat.lt_or_ge bytes.length headerLength with short | long
  · rw [ofPayload_of_short short]
    exact .short short
  · rcases exists_header long with ⟨reserved, byte, high, low, count, rest, rfl⟩
    rcases LinkRequestKind.exists_toByte_or byte with ⟨kind, rfl⟩ | greater
    · rcases Classical.em (kind = .read) with rfl | brings
      · exact .plain
      · rw [ofPayload_of_brings brings]
        rcases Nat.lt_or_ge rest.length recordSize with cut | full
        · rw [LinkRecord.ofBytes_of_short cut]
          exact .cut brings cut
        · rcases LinkRecord.exists_ofBytes full with ⟨record, found, written⟩
          rw [found]
          exact .whole brings full written
    · rw [ofPayload_of_lt greater]
      exact .unknown greater

/-- Reading fails exactly if octets of the header are missing, or the kind has no name, or octets of
an announced record are missing. -/
theorem ofPayload_eq_error_iff (bytes : Bytes) (error : Error) :
    ofPayload bytes = .error error ↔
      bytes.length < headerLength ∧ error = .bufferTooShort headerLength bytes.length ∨
      headerLength ≤ bytes.length ∧
        ((∃ byte, bytes[1]? = some byte ∧ 2 < byte ∧
            error = .protocol (.unknownLinkRequest byte)) ∨
          AnnouncesRecord bytes ∧ bytes.length < headerLength + recordSize ∧
            error = .bufferTooShort recordSize (bytes.length - headerLength)) := by
  have reading := reading bytes
  generalize ofPayload bytes = result at reading ⊢
  have headed (length : Nat) : ¬ headerLength + length < headerLength :=
    Nat.not_lt.mpr (Nat.le_add_right headerLength length)
  cases reading with
  | short short => simp [short, Nat.not_le.mpr short, eq_comm]
  | unknown greater =>
      rw [length_header]
      simp [headed, not_announcesRecord_of_lt greater, greater, eq_comm]
  | plain =>
      rw [length_header, announcesRecord_iff]
      simp [headed, LinkRequestKind.not_lt_toByte]
  | cut brings cut =>
      rw [length_header, announcesRecord_iff]
      simp [headed, LinkRequestKind.not_lt_toByte, brings, cut, eq_comm]
  | whole brings full written =>
      rw [length_header, announcesRecord_iff]
      simp [headed, LinkRequestKind.not_lt_toByte, Nat.not_lt.mpr full]

/-- A request that was read is complete and is written as the octets that it was read from, with a
zero in front, and with zeros in place of a record that was not announced. -/
theorem toPayload_of_ofPayload {bytes : Bytes} {request : LinkRequest}
    (read : ofPayload bytes = .ok request) :
    request.IsComplete ∧ bytes[1]? = some request.kind.toByte ∧
      request.toPayload = 0 :: (bytes.drop 1).take 4
        ++ if request.kind = .read then List.replicate recordSize 0
          else (bytes.drop headerLength).take recordSize := by
  have reading := reading bytes
  rw [read] at reading
  cases reading with
  | plain =>
      refine ⟨by simp [IsComplete], rfl, ?_⟩
      simp only [toPayload, high_join, low_join, ↓reduceIte]
      rfl
  | whole brings full written =>
      refine ⟨by simp [IsComplete, brings], rfl, ?_⟩
      simp only [toPayload, high_join, low_join, written, brings, ↓reduceIte]
      rfl

/-- A complete request is read back from its payload, with all its octets, whatever follows. Reading
fails exactly if there are fewer than five octets, or the second one is above 2, or it is 1 or 2 and
there are fewer than 13. Otherwise the request is complete, and its payload is 13 octets: a zero,
the second to the fifth one that were read, and the eight behind those if the kind is one that
brings a record, or eight zeros. -/
theorem payload_exact :
    (∀ (request : LinkRequest) (rest : Bytes), request.IsComplete →
      ofPayload (request.toPayload ++ rest) = .ok request) ∧
    (∀ bytes error, ofPayload bytes = .error error ↔
      bytes.length < 5 ∧ error = .bufferTooShort 5 bytes.length ∨
      5 ≤ bytes.length ∧
        ((∃ byte, bytes[1]? = some byte ∧ 2 < byte ∧
            error = .protocol (.unknownLinkRequest byte)) ∨
          (bytes[1]? = some 1 ∨ bytes[1]? = some 2) ∧ bytes.length < 13 ∧
            error = .bufferTooShort 8 (bytes.length - 5))) ∧
    ∀ bytes request, ofPayload bytes = .ok request →
      request.IsComplete ∧ request.toPayload.length = 13 ∧
      (bytes[1]? = some 1 ∨ bytes[1]? = some 2 →
        request.toPayload = 0 :: (bytes.drop 1).take 4 ++ (bytes.drop 5).take 8) ∧
      (bytes[1]? = some 0 →
        request.toPayload = 0 :: (bytes.drop 1).take 4 ++ List.replicate 8 0) := by
  refine ⟨fun request rest complete => ofPayload_append complete rest, ofPayload_eq_error_iff, ?_⟩
  intro bytes request read
  rcases toPayload_of_ofPayload read with ⟨complete, named, written⟩
  refine ⟨complete, request.length_toPayload, ?_, ?_⟩
  · intro announced
    have brings : request.kind ≠ .read := by
      intro plain
      rw [named, plain] at announced
      simp [LinkRequestKind.toByte] at announced
    rw [written, if_neg brings]
    rfl
  · intro zero
    have plain : request.kind = .read := by
      rw [named] at zero
      cases kind : request.kind with
      | read => rfl
      | response | write => simp [kind, LinkRequestKind.toByte] at zero
    rw [written, if_pos plain]
    rfl

/-- A device reports a record. Nobody needs the octets in front and behind, and the data of the
record come through. -/
theorem payload_exact_response :
    let octets : Bytes := [7, 1, 0x0f, 0xef, 0, 0xa2, 1, 1, 2, 3, 4, 5, 6, 9]
    let report : LinkRequest := ⟨.response, 0x0fef, 0, some (.responder 1 ⟨1, 2, 3⟩ 4 5 6)⟩
    report.IsComplete ∧ ofPayload (report.toPayload ++ [9]) = .ok report ∧
      ofPayload octets = .ok report ∧
      report.toPayload = [0, 1, 0x0f, 0xef, 0, 0xa2, 1, 1, 2, 3, 4, 5, 6] := by
  intro octets report
  have complete : report.IsComplete := by simp [report, IsComplete]
  have read : ofPayload octets = .ok report := rfl
  rcases payload_exact with ⟨back, _, written⟩
  exact ⟨complete, back report [9] complete, read,
    (written octets report read).2.2.1 (.inl rfl)⟩

end LinkRequest

end Powerline
