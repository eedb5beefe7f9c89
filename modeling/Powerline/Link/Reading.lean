import Powerline.Link.Request

/-!
# Reading a link table

A device answers a read request with one response for each record, in the order of the slots. A
response that repeats the memory address of the one before it is a retransmission.
-/

namespace Powerline

/-- What has been read of a table so far. -/
structure LinkReading where
  records : List LinkRecord := []
  /-- The memory address of the latest response. -/
  latest : Option UInt16 := none
  deriving DecidableEq, Repr

namespace LinkReading

/-- Takes one request in; true if it shows that the table is complete. Only responses that do not
repeat the address before them count. -/
def accept (reading : LinkReading) (request : LinkRequest) : LinkReading × Bool :=
  match request.kind, request.record with
  | .response, some record =>
      if reading.latest = some request.memory then (reading, false)
      else if record.flags.isLast then ({ reading with latest := some request.memory }, true)
      else (⟨reading.records ++ [record], some request.memory⟩, false)
  | _, _ => (reading, false)

end LinkReading

end Powerline
