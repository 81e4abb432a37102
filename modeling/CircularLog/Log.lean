import CircularLog.Journal
import CircularLog.Pending
import CircularLog.Position
import CircularLog.Ring
import CircularLog.Settings
import CircularLog.Snapshot

namespace CircularLog

structure Log where
  settings : Settings
  ring : Ring Record
  pending : Pending
  -- The sessions whose bytes the record under way is made of.
  contributors : List SessionId := []
  -- Advances whenever records held are released.
  generation : UInt64 := 0
  tally : Tally := {}
  nextSession : UInt64 := 1
  -- The newest event first.
  journal : List Event := []
  deriving DecidableEq, Repr

namespace Log

def create (settings : Settings) : Except Fault Log := do
  settings.check
  let ring ← Ring.create settings.capacity
  return { settings, ring, pending := ⟨settings.terminator, []⟩,
           journal := [.initialized settings.capacity] }

def held (log : Log) : List Record :=
  log.ring.toList

def heldBytes (log : Log) : Nat :=
  totalSize log.held

def note (log : Log) (event : Event) : Log :=
  { log with journal := event :: log.journal }

def countInterrupt (log : Log) : Log :=
  { log with tally := log.tally.countInterrupt }

def admitSession (log : Log) : Log × SessionId :=
  let session : SessionId := ⟨log.nextSession⟩
  ({ log with nextSession := log.nextSession + 1 }.note (.opened session), session)

def countEviction (log : Log) (evicted : Record) : Log :=
  { log with
    generation := log.generation + 1
    tally := log.tally.countEviction }.note (.evicted evicted.size)

def commit (session : SessionId) (log : Log) (record : Record) : Log :=
  let (ring, evicted) := log.ring.push record
  let pushed := { log with ring }
  let after := match evicted with
    | some oldest => pushed.countEviction oldest
    | none => pushed
  { after with tally := after.tally.countCommit }.note (.committed session record.size ring.size)

-- A chunk of at least one byte. Bytes behind its last terminator come from this write alone, so
-- the session that made it is then their only contributor.
def write (log : Log) (session : SessionId) (chunk : Bytes) : Log :=
  let (pending, appended) := log.pending.append chunk
  let after := match appended with
    | .incomplete =>
      { log with
        pending, contributors := log.contributors.insert session }.note
          (.buffered session chunk.length)
    | .completed records =>
      records.foldl (commit session)
        { log with pending, contributors := if pending.isEmpty then [] else [session] }
  { after with tally := after.tally.countWrite chunk.length }

-- Up to `limit` bytes from a cursor on, none of them behind the end of its record, and the cursor
-- behind them. A reader that names the generation it was positioned at is refused in any other.
def read (log : Log) (cursor : UInt64) (limit : Nat) (since : Option UInt64) :
    Log × Except Fault (Bytes × UInt64) :=
  match since.filter (· != log.generation) with
  | some positioned => (log, .error (.staleCursor positioned log.generation))
  | none =>
    match Position.locate? log.held cursor.toNat with
    | none => (log.note (.readAtEnd cursor), .ok ([], cursor))
    | some location =>
      let data := location.remaining.take limit
      ({ log with tally := log.tally.countRead data.length }.note
        (.read cursor data.length), .ok (data, cursor + UInt64.ofNat data.length))

def locate (log : Log) (index offset : Nat) : Except Fault (UInt64 × UInt64) :=
  (Position.cursorOf log.held index offset).map fun cursor =>
    (UInt64.ofNat cursor, log.generation)

def snapshot (log : Log) : Snapshot :=
  ⟨log.ring.capacity, log.ring.size, log.heldBytes, log.pending.size, log.tally⟩

def discard (log : Log) (session : SessionId) : Log × Nat :=
  if log.contributors.contains session then
    let (pending, lost) := log.pending.discard
    ({ log with pending, contributors := [], tally := log.tally.countDiscard }.note
      (.discarded session lost), lost)
  else (log, 0)

def teardown (log : Log) : Log × Nat :=
  let (ring, released) := log.ring.clear
  ({ log with
    ring
    pending := log.pending.discard.1
    contributors := []
    generation := if released = 0 then log.generation else log.generation + 1 }.note
      (.tornDown released), released)

end Log

end CircularLog
