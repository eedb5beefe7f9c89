import Powerline.Connection
import Powerline.Link.Table

/-!
# Link databases

The host keeps a copy of a device's link table. The copy is read as a whole and is fresh until it
reaches a maximum age. Records are written to the device one at a time, and the copy changes only
when the device has acknowledged the write.
-/

namespace Powerline

/-- The copy of a device's link table. -/
structure LinkCopy where
  table : LinkTable := {}
  /-- When the copy was last known to be complete. -/
  refreshed : Option Instant := none
  deriving DecidableEq, Repr

namespace LinkCopy

/-- The copy was never complete, or has reached the maximum age. -/
def isStale (copy : LinkCopy) (maxAge : Duration) (now : Instant) : Bool :=
  match copy.refreshed with
  | some time => now - time ≥ maxAge
  | none => true

/-- The same records, stale. -/
def expire (copy : LinkCopy) : LinkCopy :=
  { copy with refreshed := none }

end LinkCopy

/-- Access to the link table of a device. -/
structure LinkDatabase where
  connection : Connection
  /-- The age at which the copy is stale. -/
  maxAge : Duration
  deriving Repr

namespace LinkDatabase

/-- The link table of the device at the end of a connection, with the configured age. -/
def ofConnection (connection : Connection) : LinkDatabase :=
  ⟨connection, connection.config.linkMaxAge⟩

/-- A dialogue that works on the copy. -/
abbrev Work := Dialogue LinkCopy

/-- The responses to a read request: extended messages about the link table that answer no
message. -/
def responses : Pattern :=
  .command .linkDatabase &&& .extended &&& ~~~.answer

/-- Room for the responses of a full table, each sent twice. -/
def responseCapacity : Nat := maxRecords * 2

/-- Changes the records of the copy. -/
def setTable (table : LinkTable) : Work Unit := do
  let copy ← .memory
  .setMemory { copy with table }

/-- The copy is complete as of now. -/
def stamp : Work Unit := do
  let now ← .now
  let copy ← .memory
  .setMemory { copy with refreshed := some now }

/-- Reads the whole table from the device. What was read replaces the copy also if the reading
breaks off; only a complete reading makes the copy fresh. -/
def readAll (database : LinkDatabase) : Work Unit :=
  .withSubscription (database.connection.heard responses) responseCapacity fun id => do
    let _ ← database.connection.send .linkDatabase LinkRequest.readAll.toPayload
    let (result, reading) ← .collectTable id database.connection.config.readTimeout
    setTable (.ofRecords reading.records)
    .ofExcept result
    stamp

/-- Reads the table if the copy is stale. -/
def refresh (database : LinkDatabase) : Work Unit := do
  let copy ← .memory
  let now ← .now
  if copy.isStale database.maxAge now then database.readAll

/-- The records, read before if the copy is stale. -/
def links (database : LinkDatabase) : Work (List LinkRecord) := do
  database.refresh
  return (← .memory).table.records

/-- Writes a record to a slot of the device, and to the copy when the device has acknowledged
it. -/
def writeLink (database : LinkDatabase) (slot : Nat) (record : LinkRecord) : Work Unit := do
  .ofExcept ((← .memory).table.checkSlot slot)
  let _ ← database.connection.send .linkDatabase (LinkRequest.write slot record).toPayload
  setTable (← .ofExcept ((← .memory).table.write slot record))

/-- Ends the table behind its last record if it has more records than before. -/
def closeGrown (database : LinkDatabase) (before : Nat) : Work Unit := do
  let size := (← .memory).table.size
  if size > before then database.writeLink size .terminator

/-- Writes records to successive slots. -/
def writeFrom (database : LinkDatabase) (slot : Nat) : List LinkRecord → Work Unit
  | [] => pure ()
  | record :: rest => do
      database.writeLink slot record.notLast
      database.writeFrom (slot + 1) rest

/-- Replaces the whole table, which makes the copy fresh. -/
def writeLinks (database : LinkDatabase) (records : List LinkRecord) : Work Unit := do
  database.writeFrom 0 records
  database.writeLink records.length .terminator
  stamp

/-- Writes records to free slots from a given slot on, and behind the table when none is left. -/
def addFrom (database : LinkDatabase) (start : Nat) : List LinkRecord → Work Unit
  | [] => pure ()
  | record :: rest => do
      let table := (← .memory).table
      let slot := (table.nextAvailable? start).getD table.size
      database.writeLink slot record.notLast
      database.addFrom (slot + 1) rest

/-- Adds records, to free slots first. A table that grew is ended anew, so that what an earlier and
longer table left behind it does not come back. -/
def addLinks (database : LinkDatabase) (records : List LinkRecord) : Work Unit := do
  database.refresh
  let before := (← .memory).table.size
  database.addFrom 0 records
  database.closeGrown before

/-- Gives the records whose link is in the table already the wanted flags, where they differ. What
it brings are the records of other links. -/
def adjustFlags (database : LinkDatabase) : List LinkRecord → Work (List LinkRecord)
  | [] => pure []
  | record :: rest => do
      let wanted := record.notLast
      let table := (← .memory).table
      match table.position? wanted.id with
      | none => return wanted :: (← database.adjustFlags rest)
      | some slot =>
          match table.records[slot]? with
          | none => database.adjustFlags rest
          | some existing =>
              if existing.flags ≠ wanted.flags then
                database.writeLink slot { existing with flags := wanted.flags }
              database.adjustFlags rest

/-- Writes the records whose link is not in the table to the first free slot, or behind the
table. -/
def insertMissing (database : LinkDatabase) : List LinkRecord → Work Unit
  | [] => pure ()
  | record :: rest => do
      let table := (← .memory).table
      if (table.position? record.id).isNone then
        database.writeLink ((table.nextAvailable? 0).getD table.size) record
      database.insertMissing rest

/-- Makes sure that the table has each of the records with its flags. The data of records that are
there already stays. -/
def updateLinks (database : LinkDatabase) (records : List LinkRecord) : Work Unit := do
  database.refresh
  let missing ← database.adjustFlags records
  let before := (← .memory).table.size
  database.insertMissing missing
  database.closeGrown before

/-- Releases the first record of each link. -/
def releaseEach (database : LinkDatabase) : List LinkRecord → Work Unit
  | [] => pure ()
  | record :: rest => do
      let table := (← .memory).table
      match table.position? record.id with
      | none => database.releaseEach rest
      | some slot =>
          match table.records[slot]? with
          | none => database.releaseEach rest
          | some existing =>
              database.writeLink slot existing.tombstone
              database.releaseEach rest

/-- Deletes records. Their slots stay in the table and are free. -/
def removeLinks (database : LinkDatabase) (records : List LinkRecord) : Work Unit := do
  database.refresh
  database.releaseEach records

end LinkDatabase

end Powerline
