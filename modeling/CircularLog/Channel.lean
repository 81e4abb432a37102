import CircularLog.Session

namespace CircularLog

-- A session together with the log it is open on.
structure Channel where
  shared : SharedLog
  session : Session
  deriving DecidableEq, Repr

namespace Channel

def ofShared (shared : SharedLog) (handle : Option Handle) : Channel :=
  let (log, id) := shared.log.admitSession
  ⟨shared.adjust fun _ => log, ⟨id, handle, 0, shared.log.generation, false⟩⟩

def since (channel : Channel) : Option UInt64 :=
  if channel.shared.log.settings.detectStale then some channel.session.generation else none

def positioned (channel : Channel) (cursor generation : UInt64) : Channel :=
  { channel with session := { channel.session with cursor, generation } }

def write (channel : Channel) (chunk : Bytes) : Channel × Except Fault Nat :=
  let (shared, result) := channel.shared.write channel.session.handle channel.session.id chunk
  ({ channel with shared }, result)

-- Reading moves the cursor but does not renew its generation.
def read (channel : Channel) (limit : Nat) : Channel × Except Fault Bytes :=
  match channel.shared.read channel.session.handle channel.session.cursor limit channel.since with
  | (shared, .error fault) => ({ channel with shared }, .error fault)
  | (shared, .ok (data, cursor)) =>
    (⟨shared, { channel.session with cursor }⟩, .ok data)

def readAt (channel : Channel) (cursor : UInt64) (limit : Nat) :
    Channel × Except Fault (Bytes × UInt64) :=
  let (shared, result) := channel.shared.readOut channel.session.handle cursor limit
  ({ channel with shared }, result)

def seekTo (channel : Channel) (index offset : Nat) : Channel × Except Fault UInt64 :=
  match channel.shared.locate channel.session.handle index offset with
  | (shared, .error fault) => ({ channel with shared }, .error fault)
  | (shared, .ok (cursor, generation)) =>
    (Channel.positioned ⟨shared.note (.sought channel.session.id index offset cursor),
      channel.session⟩ cursor generation, .ok cursor)

def seek (channel : Channel) (whence : Whence) : Channel × Except Fault UInt64 :=
  match channel.shared.extent channel.session.handle with
  | (shared, .error fault) => ({ channel with shared }, .error fault)
  | (shared, .ok (total, generation)) =>
    let target := whence.target channel.session.cursor total
    if 0 ≤ target ∧ target ≤ total then
      let cursor := UInt64.ofNat target.toNat
      (Channel.positioned ⟨shared, channel.session⟩ cursor generation, .ok cursor)
    else ({ channel with shared }, .error (.invalidArgument (.outsideHeld target total)))

def release (channel : Channel) (handle : Option Handle) : Channel × Except Fault Nat :=
  if channel.session.ended then (channel, .ok 0)
  else match channel.shared.discard handle channel.session.id with
    | (shared, .error fault) => ({ channel with shared }, .error fault)
    | (shared, .ok lost) =>
      (⟨shared.note (.closed channel.session.id lost), { channel.session with ended := true }⟩,
        .ok lost)

def drop (channel : Channel) : Channel :=
  (channel.release none).1

-- An end that the session's handle can interrupt; the session is then dropped all the same.
def close (channel : Channel) : Channel × Except Fault Nat :=
  let (after, result) := channel.release channel.session.handle
  (after.drop, result)

def drain (limit : Nat) (pieces : List Bytes) :
    Nat → Channel → Channel × List Bytes × Option Fault
  | 0, channel => (channel, pieces.reverse, none)
  | budget + 1, channel =>
    match channel.read limit with
    | (after, .error fault) => (after, pieces.reverse, some fault)
    | (after, .ok data) =>
      if data.isEmpty then (after, pieces.reverse, none)
      else after.drain limit (data :: pieces) budget

-- All reads up to the first that brings nothing or fails. Each of them but the last takes a byte
-- that is held, so one read more than there are bytes is enough.
def readAll (channel : Channel) (limit : Nat) : Channel × List Bytes × Option Fault :=
  channel.drain limit [] (channel.shared.log.heldBytes + 1)

end Channel

end CircularLog
