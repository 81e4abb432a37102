namespace CircularLog

structure SessionId where
  number : UInt64
  deriving DecidableEq, Repr

inductive Level where
  | trace
  | debug
  | warn
  deriving DecidableEq, Repr

def Level.name : Level → String
  | .trace => "TRACE"
  | .debug => "DEBUG"
  | .warn => "WARN"

inductive Event where
  | initialized (capacity : Nat)
  | opened (session : SessionId)
  | buffered (session : SessionId) (size : Nat)
  | evicted (size : Nat)
  -- `held` counts the records after this one was committed.
  | committed (session : SessionId) (size held : Nat)
  | discarded (session : SessionId) (size : Nat)
  | tornDown (released : Nat)
  | readAtEnd (cursor : UInt64)
  | read (cursor : UInt64) (copied : Nat)
  | sought (session : SessionId) (index offset : Nat) (cursor : UInt64)
  | closed (session : SessionId) (lost : Nat)
  deriving DecidableEq, Repr

namespace Event

def level : Event → Level
  | .discarded _ _ => .warn
  | .buffered _ _ | .readAtEnd _ | .read _ _ => .trace
  | _ => .debug

def message : Event → String
  | .initialized _ => "log device initialized"
  | .opened _ => "session opened"
  | .buffered _ _ => "partial write buffered"
  | .evicted _ => "evicted oldest entry"
  | .committed _ _ _ => "committed entry"
  | .discarded _ _ => "discarded unterminated write"
  | .tornDown _ => "log device torn down"
  | .readAtEnd _ => "read at end of held data"
  | .read _ _ => "read"
  | .sought _ _ _ _ => "seek to entry"
  | .closed _ _ => "session closed"

def fields : Event → List (String × Nat)
  | .initialized capacity => [("capacity", capacity)]
  | .opened session => [("session", session.number.toNat)]
  | .buffered session size => [("session", session.number.toNat), ("len", size)]
  | .evicted size => [("size", size)]
  | .committed session size held =>
    [("session", session.number.toNat), ("size", size), ("held", held)]
  | .discarded session size => [("session", session.number.toNat), ("bytes", size)]
  | .tornDown released => [("released", released)]
  | .readAtEnd cursor => [("cursor", cursor.toNat)]
  | .read cursor copied => [("cursor", cursor.toNat), ("copied", copied)]
  | .sought session index offset cursor =>
    [("session", session.number.toNat), ("entry_index", index), ("intra_offset", offset),
      ("cursor", cursor.toNat)]
  | .closed session lost => [("session", session.number.toNat), ("discarded", lost)]

def line (event : Event) : String :=
  " ".intercalate (event.level.name :: event.message ::
    event.fields.map fun field => field.1 ++ "=" ++ toString field.2)

end Event

end CircularLog
