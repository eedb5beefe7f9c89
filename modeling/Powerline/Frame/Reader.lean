import Powerline.Frame

/-!
# Reading packets from a stream

A reader asks its stream for octets only when its buffer holds nothing complete. What was read
before a failure stays in the buffer. At the end of the stream every further read fails.
-/

namespace Powerline.Frame

/-- What a stream delivers at one read: octets, or a failure. No octets mean the end. -/
abbrev Arrival := Except LineFailure Bytes

/-- The failure of a read at the end of a stream. -/
def endOfStream : LineFailure := { fault := .unexpectedEnd }

/-- A buffer and what the stream will deliver. -/
structure Reader where
  buffer : Bytes
  arrivals : List Arrival
  deriving Repr

namespace Reader

/-- Reads until a buffer holds something complete or the stream fails. -/
def readFrom (buffer : Bytes) : List Arrival → Except Error Packet × Reader
  | [] =>
      match scan buffer with
      | .found item left => (item, ⟨left, []⟩)
      | .incomplete left => (.error (.line endOfStream), ⟨left, []⟩)
  | arrival :: rest =>
      match scan buffer with
      | .found item left => (item, ⟨left, arrival :: rest⟩)
      | .incomplete left =>
          match arrival with
          | .error failure => (.error (.line failure), ⟨left, rest⟩)
          | .ok [] => (.error (.line endOfStream), ⟨left, rest⟩)
          | .ok chunk => readFrom (left ++ chunk) rest

/-- The next packet, an octet that names none, or the failure of the stream. -/
def read (reader : Reader) : Except Error Packet × Reader :=
  readFrom reader.buffer reader.arrivals

/-- An outcome of a read that came from the stream and not from its octets. -/
def isLineError : Except Error Packet → Bool
  | .error (.line _) => true
  | _ => false

/-- The octets that a reader may still look at. -/
def remaining (reader : Reader) : Nat :=
  reader.buffer.length
    + (reader.arrivals.flatMap fun arrival => arrival.toOption.getD []).length

theorem length_of_scan_incomplete {buffer left : Bytes} (miss : scan buffer = .incomplete left) :
    left.length ≤ buffer.length := by
  have bound := length_seekSync_le buffer
  unfold scan at miss
  split at miss
  · rename_i sync byte rest sought
    split at miss
    · simp at miss
    · split at miss
      · simp only [Scan.incomplete.injEq] at miss
        rw [← miss, ← sought]
        exact bound
      · simp at miss
  · simp only [Scan.incomplete.injEq] at miss
    rw [← miss]
    exact bound

theorem scan_error {buffer left : Bytes} {error : Error}
    (hit : scan buffer = .found (.error error) left) : ∃ byte, error = .unknownCommand byte := by
  unfold scan at hit
  split at hit
  · split at hit
    · simp only [Scan.found.injEq, Except.error.injEq] at hit
      exact ⟨_, hit.1.symm⟩
    · split at hit <;> simp at hit
  · simp at hit

/-- A read that does not fail for the stream's sake takes octets. -/
theorem remaining_readFrom (buffer : Bytes) (arrivals : List Arrival)
    (proper : isLineError (readFrom buffer arrivals).1 = false) :
    (readFrom buffer arrivals).2.remaining < (Reader.mk buffer arrivals).remaining := by
  induction arrivals generalizing buffer with
  | nil =>
      unfold readFrom at proper ⊢
      split
      · rename_i hit
        simpa [remaining] using length_lt_of_scan hit
      · rename_i miss
        simp [miss, isLineError] at proper
  | cons arrival rest ih =>
      unfold readFrom at proper ⊢
      split
      · rename_i hit
        simpa [remaining] using length_lt_of_scan hit
      · rename_i left miss
        simp only [miss] at proper
        have kept := length_of_scan_incomplete miss
        match arrival, proper with
        | .ok (byte :: more), proper =>
            have step := ih (left ++ byte :: more) proper
            simp only [remaining, List.length_append, List.flatMap_cons,
              Except.toOption, Option.getD_some] at step ⊢
            omega
        | .ok [], proper => simp [isLineError] at proper
        | .error _, proper => simp [isLineError] at proper

/-- All outcomes of reading on, up to and including the given number of failures of the
stream. -/
def transcript (failures : Nat) (reader : Reader) : List (Except Error Packet) :=
  match failures with
  | 0 => []
  | failures + 1 =>
      if _proper : isLineError reader.read.1 = false then
        reader.read.1 :: transcript (failures + 1) reader.read.2
      else
        reader.read.1 :: transcript failures reader.read.2
termination_by (failures, reader.remaining)
decreasing_by
  · exact Prod.Lex.right _ (remaining_readFrom _ _ _proper)
  · exact Prod.Lex.left _ _ (Nat.lt_succ_self _)

end Reader

end Powerline.Frame
