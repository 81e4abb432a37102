import CircularLog.Call
import CircularLog.Channel.Stream

namespace CircularLog

-- What a call answers. `absent` answers a call on a session that is not open.
inductive Reply where
  | absent
  | done
  | flag (value : Bool)
  | count (number : Nat)
  | session (id : SessionId)
  | cursor (cursor : UInt64)
  | bytes (data : Bytes)
  | pieces (data : List Bytes) (fault : Option Fault)
  | piece (data : Bytes) (cursor : UInt64)
  | filled (copied : Nat) (cursor : UInt64) (buffer : Bytes)
  | unfilled (fault : Fault) (buffer : Bytes)
  | pair (number : Nat) (generation : UInt64)
  | records (held : List Record)
  | snapshot (snapshot : Snapshot)
  | settings (settings : Settings)
  | collected (result : Except StreamFault Nat) (data : Bytes)
  | text (text : String)
  | fault (fault : Fault)
  | streamFault (fault : StreamFault)

namespace Reply

variable {β : Type}

def ofResult (found : β → Reply) : Except Fault β → Reply
  | .ok result => found result
  | .error problem => .fault problem

def ofStream (found : β → Reply) : Except StreamFault β → Reply
  | .ok result => found result
  | .error problem => .streamFault problem

end Reply

namespace Channel

def answer (channel : Channel) : SessionCall → Channel × Reply
  | .write chunk => (channel.write chunk).map id (.ofResult .count)
  | .read limit => (channel.read limit).map id (.ofResult .bytes)
  | .readAll limit =>
    let (after, pieces, fault) := channel.readAll limit
    (after, .pieces pieces fault)
  | .readAt cursor limit =>
    (channel.readAt cursor limit).map id (.ofResult fun found => .piece found.1 found.2)
  | .seekTo index offset => (channel.seekTo index offset).map id (.ofResult .cursor)
  | .seek whence => (channel.seek whence).map id (.ofResult .cursor)
  | .settings => (channel, .settings channel.shared.log.settings)
  | .close => channel.close.map id (.ofResult .count)
  | .drop => (channel.drop, .done)

def answerStream (channel : Channel) : StreamCall → Channel × Reply
  | .read limit => (channel.streamRead limit).map id (.ofStream .bytes)
  | .readExact wanted => (channel.readExact wanted).map id (.ofStream .bytes)
  | .readToEnd =>
    let (after, result, data) := channel.readToEnd
    (after, .collected result data)
  | .readToString => channel.readToString.map id (.ofStream .text)
  | .write chunk => (channel.streamWrite chunk).map id (.ofStream .count)
  | .writeAll chunk => (channel.writeAll chunk).map id (.ofStream fun _ => .done)
  | .flush => channel.flush.map id (.ofStream fun _ => .done)
  | .seek whence => (channel.streamSeek whence).map id (.ofStream .cursor)
  | .rewind => channel.rewind.map id (.ofStream fun _ => .done)
  | .position => channel.streamPosition.map id (.ofStream .cursor)

end Channel

namespace SharedLog

def answer (shared : SharedLog) (handle : Option Handle) : LogCall → SharedLog × Reply
  | .write session chunk => (shared.write handle session chunk).map id (.ofResult .count)
  | .discard session => (shared.discard handle session).map id (.ofResult .count)
  | .readInto cursor buffer since =>
    match shared.readInto handle cursor buffer since with
    | (after, .ok (copied, next), buffer) => (after, .filled copied next buffer)
    | (after, .error problem, buffer) => (after, .unfilled problem buffer)
  | .readOut cursor limit =>
    (shared.readOut handle cursor limit).map id (.ofResult fun found => .piece found.1 found.2)
  | .locate index offset =>
    (shared.locate handle index offset).map id (.ofResult fun found => .pair found.1.toNat found.2)
  | .extent => (shared.extent handle).map id (.ofResult fun found => .pair found.1 found.2)
  | .held => (shared.held handle).map id (.ofResult .records)
  | .snapshot => (shared.snapshot handle).map id (.ofResult .snapshot)
  | .teardown => (shared.teardown handle).map id (.ofResult .count)
  | .settings => (shared, .settings shared.log.settings)

-- A fresh handle belongs to nobody else, so what is done to it has no later effect.
def handled (shared : SharedLog) (handle : Option Handle) : HandleCall → SharedLog × Reply
  | .raise =>
    ({ shared with
      gate.flags := (handle.map shared.gate.flags.raise).getD shared.gate.flags }, .flag true)
  | .take =>
    ({ shared with gate.flags := (handle.map shared.gate.flags.lower).getD shared.gate.flags },
      .flag (handle.any shared.gate.flags.isRaised))
  | .isRaised => (shared, .flag (handle.any shared.gate.flags.isRaised))

def burstOnce (times : Nat) (chunk : Bytes) (shared : SharedLog) : SharedLog :=
  let writer := Channel.ofShared shared none
  (Nat.repeat (fun channel => (channel.write chunk).1) times writer).drop.shared

def burst (shared : SharedLog) (writers times : Nat) (chunk : Bytes) : SharedLog :=
  Nat.repeat (burstOnce times chunk) writers shared

end SharedLog

end CircularLog
