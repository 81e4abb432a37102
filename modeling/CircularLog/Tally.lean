namespace CircularLog

-- Counters are 64-bit words that wrap.
structure Tally where
  writes : UInt64 := 0
  bytesWritten : UInt64 := 0
  reads : UInt64 := 0
  bytesRead : UInt64 := 0
  commits : UInt64 := 0
  evictions : UInt64 := 0
  discards : UInt64 := 0
  interrupts : UInt64 := 0
  deriving DecidableEq, Repr

namespace Tally

def countWrite (tally : Tally) (size : Nat) : Tally :=
  { tally with writes := tally.writes + 1, bytesWritten := tally.bytesWritten + UInt64.ofNat size }

def countRead (tally : Tally) (size : Nat) : Tally :=
  if size = 0 then tally
  else { tally with reads := tally.reads + 1, bytesRead := tally.bytesRead + UInt64.ofNat size }

def countCommit (tally : Tally) : Tally :=
  { tally with commits := tally.commits + 1 }

def countEviction (tally : Tally) : Tally :=
  { tally with evictions := tally.evictions + 1 }

def countDiscard (tally : Tally) : Tally :=
  { tally with discards := tally.discards + 1 }

def countInterrupt (tally : Tally) : Tally :=
  { tally with interrupts := tally.interrupts + 1 }

end Tally

end CircularLog
