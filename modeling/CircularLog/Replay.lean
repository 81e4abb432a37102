import CircularLog.Channel
import CircularLog.Replay.Table

namespace CircularLog.Replay

-- The rows of all that a session reads from its cursor on, 64 KiB at a time.
def rows (channel : Channel) : Channel × List Row × Option Fault :=
  let (after, pieces, fault) := channel.readAll (64 * 1024)
  (after, (pieces.foldl Table.add ⟨[], channel.session.cursor.toNat⟩).rows.reverse, fault)

def bytes (channel : Channel) : Channel × Bytes × Option Fault :=
  let (after, pieces, fault) := channel.readAll (8 * 1024)
  (after, pieces.flatten, fault)

end CircularLog.Replay
