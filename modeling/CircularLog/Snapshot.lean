import CircularLog.Tally
import CircularLog.Text.Json

namespace CircularLog

-- Sizes are exact numbers; only the counters are words.
structure Snapshot where
  capacity : Nat := 0
  heldRecords : Nat := 0
  heldBytes : Nat := 0
  pendingBytes : Nat := 0
  tally : Tally := {}
  deriving DecidableEq, Repr

def Snapshot.fields (snapshot : Snapshot) : List (String × Nat) :=
  [("capacity", snapshot.capacity), ("held_entries", snapshot.heldRecords),
    ("held_bytes", snapshot.heldBytes), ("pending_bytes", snapshot.pendingBytes),
    ("writes", snapshot.tally.writes.toNat), ("bytes_written", snapshot.tally.bytesWritten.toNat),
    ("reads", snapshot.tally.reads.toNat), ("bytes_read", snapshot.tally.bytesRead.toNat),
    ("commits", snapshot.tally.commits.toNat), ("evictions", snapshot.tally.evictions.toNat),
    ("discarded_pending", snapshot.tally.discards.toNat),
    ("interrupts", snapshot.tally.interrupts.toNat)]

def Snapshot.json (snapshot : Snapshot) : String :=
  Json.object "" (snapshot.fields.map fun field => (field.1, .number field.2))

def Snapshot.page (snapshot : Snapshot) : List String :=
  ["RingLog Device",
    "==============",
    "",
    s!"Entries:         {snapshot.heldRecords} / {snapshot.capacity}",
    s!"Held bytes:      {snapshot.heldBytes}",
    s!"Pending bytes:   {snapshot.pendingBytes}",
    "",
    s!"Writes:          {snapshot.tally.writes} ({snapshot.tally.bytesWritten} bytes)",
    s!"Commits:         {snapshot.tally.commits}",
    s!"Evictions:       {snapshot.tally.evictions}"]

end CircularLog
