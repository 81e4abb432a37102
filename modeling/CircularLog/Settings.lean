import CircularLog.Fault

namespace CircularLog

structure Settings where
  capacity : Nat := 10
  terminator : UInt8 := 10
  detectStale : Bool := false
  -- How long one try at the gate lasts. Nothing here keeps time, so only its being zero matters.
  pollNanos : Nat := 10000000
  deriving DecidableEq, Repr

namespace Settings

inductive Change where
  | capacity (records : Nat)
  | terminator (byte : UInt8)
  | detectStale (value : Bool)
  | pollNanos (nanos : Nat)
  deriving DecidableEq, Repr

def change (settings : Settings) : Change → Settings
  | .capacity records => { settings with capacity := records }
  | .terminator byte => { settings with terminator := byte }
  | .detectStale value => { settings with detectStale := value }
  | .pollNanos nanos => { settings with pollNanos := nanos }

def ofChanges (changes : List Change) : Settings :=
  changes.foldl change {}

-- The capacity is looked at first.
def check (settings : Settings) : Except Fault Unit :=
  if settings.capacity = 0 then .error (.invalidSetting .zeroCapacity)
  else if settings.pollNanos = 0 then .error (.invalidSetting .zeroPoll)
  else .ok ()

end Settings

end CircularLog
