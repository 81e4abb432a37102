import CircularLog.Channel

namespace CircularLog

-- The calls of an open session. `close` may be interrupted and `drop` may not.
inductive SessionCall where
  | write (chunk : Bytes)
  | read (limit : Nat)
  | readAll (limit : Nat)
  | readAt (cursor : UInt64) (limit : Nat)
  | seekTo (index offset : Nat)
  | seek (whence : Whence)
  | settings
  | close
  | drop
  deriving DecidableEq, Repr

-- The calls of an open session taken as a stream of bytes.
inductive StreamCall where
  | read (limit : Nat)
  | readExact (wanted : Nat)
  | readToEnd
  | readToString
  | write (chunk : Bytes)
  | writeAll (chunk : Bytes)
  | flush
  | seek (whence : Whence)
  | rewind
  | position
  deriving DecidableEq, Repr

inductive LogCall where
  | write (session : SessionId) (chunk : Bytes)
  | discard (session : SessionId)
  | readInto (cursor : UInt64) (buffer : Bytes) (since : Option UInt64)
  | readOut (cursor : UInt64) (limit : Nat)
  | locate (index offset : Nat)
  | extent
  | held
  | snapshot
  | teardown
  | settings
  deriving DecidableEq, Repr

inductive HandleCall where
  | raise
  | take
  | isRaised
  deriving DecidableEq, Repr

-- Sessions are named by their place in the order of opening. A call on the log passes the gate with
-- the handle given, or with a fresh one.
inductive Call where
  | openSession
  | session (number : Nat) (call : SessionCall)
  | stream (number : Nat) (call : StreamCall)
  | log (handle : Option Handle) (call : LogCall)
  | handle (handle : Option Handle) (call : HandleCall)
  | burst (writers times : Nat) (chunk : Bytes)
  deriving DecidableEq, Repr

end CircularLog
