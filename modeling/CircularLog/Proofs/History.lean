import CircularLog.Proofs.Queue
import CircularLog.Station

namespace CircularLog

-- One thing done at a log, with what it brought. A look changes nothing there, and so does a call
-- that was refused.
inductive Deed where
  | interrupted
  | looked
  | opened (id : SessionId)
  | wrote (id : SessionId) (chunk : Bytes) (committed evicted : List Record)
  | read (data : Bytes)
  | fetched (data : Bytes)
  | positioned (cursor : UInt64)
  | discarded (id : SessionId) (lost : Nat)
  | ended (id : SessionId) (lost : Nat)
  | tornDown (released : List Record)
  deriving DecidableEq, Repr

variable {β : Type}

def Deed.ofResult (found : β → Deed) : Except Fault β → Deed
  | .ok result => found result
  | .error .interrupted => .interrupted
  | .error _ => .looked

-- A write with the records it completes and those they push out.
def Log.writing (log : Log) (id : SessionId) (chunk : Bytes) : Deed :=
  let committed := (log.pending.append chunk).2.records
  .wrote id chunk committed (log.ring.pushAll committed).2

def SharedLog.writeDeeds (shared : SharedLog) (handle : Option Handle) (id : SessionId)
    (chunk : Bytes) : List Deed :=
  if chunk.isEmpty then []
  else [.ofResult (fun _ => shared.log.writing id chunk) (shared.write handle id chunk).2]

namespace Channel

def writeDeeds (channel : Channel) (chunk : Bytes) : List Deed :=
  channel.shared.writeDeeds channel.session.handle channel.session.id chunk

def readDeeds (channel : Channel) (limit : Nat) : List Deed :=
  [.ofResult .read (channel.read limit).2]

def seekDeeds (channel : Channel) (whence : Whence) : List Deed :=
  [.ofResult .positioned (channel.seek whence).2]

def releaseDeeds (channel : Channel) (handle : Option Handle) : List Deed :=
  if channel.session.ended then []
  else [.ofResult (.ended channel.session.id) (channel.release handle).2]

def closeDeeds (channel : Channel) : List Deed :=
  channel.releaseDeeds channel.session.handle ++
    (channel.release channel.session.handle).1.releaseDeeds none

def persistDeeds (call : Channel → Channel × Except Fault β) (deeds : Channel → List Deed)
    (channel : Channel) : List Deed :=
  match call channel with
  | (after, .error .interrupted) => deeds channel ++ deeds after
  | _ => deeds channel

def drainDeeds (limit : Nat) : Nat → Channel → List Deed
  | 0, _ => []
  | budget + 1, channel =>
    channel.readDeeds limit ++
      match channel.read limit with
      | (_, .error _) => []
      | (after, .ok data) => if data.isEmpty then [] else after.drainDeeds limit budget

def fillDeeds : Nat → Nat → Channel → List Deed
  | _, 0, _ => []
  | 0, _ + 1, _ => []
  | budget + 1, wanted + 1, channel =>
    channel.persistDeeds (·.read (wanted + 1)) (·.readDeeds (wanted + 1)) ++
      match channel.persist (·.read (wanted + 1)) with
      | (_, .error _) => []
      | (after, .ok data) =>
        if data.isEmpty then [] else after.fillDeeds budget (wanted + 1 - data.length)

def gatherDeeds : Nat → Channel → List Deed
  | 0, _ => []
  | budget + 1, channel =>
    channel.persistDeeds (·.read channel.shared.log.heldBytes)
        (·.readDeeds channel.shared.log.heldBytes) ++
      match channel.persist (·.read channel.shared.log.heldBytes) with
      | (_, .error _) => []
      | (after, .ok data) => if data.isEmpty then [] else after.gatherDeeds budget

def deeds (channel : Channel) : SessionCall → List Deed
  | .write chunk => channel.writeDeeds chunk
  | .read limit => channel.readDeeds limit
  | .readAll limit => channel.drainDeeds limit (channel.shared.log.heldBytes + 1)
  | .readAt cursor limit =>
    [.ofResult (fun found => .fetched found.1) (channel.readAt cursor limit).2]
  | .seekTo index offset => [.ofResult .positioned (channel.seekTo index offset).2]
  | .seek whence => channel.seekDeeds whence
  | .settings => []
  | .close => channel.closeDeeds
  | .drop => channel.releaseDeeds none

def streamDeeds (channel : Channel) : StreamCall → List Deed
  | .read limit => channel.readDeeds limit
  | .readExact wanted => channel.fillDeeds wanted wanted
  | .readToEnd | .readToString => channel.gatherDeeds (channel.shared.log.heldBytes + 1)
  | .write chunk => channel.writeDeeds chunk
  | .writeAll chunk => channel.persistDeeds (·.write chunk) (·.writeDeeds chunk)
  | .flush => []
  | .seek whence => channel.seekDeeds whence
  | .rewind => channel.seekDeeds (.start 0)
  | .position => channel.seekDeeds (.current 0)

def repeatDeeds (chunk : Bytes) : Nat → Channel → List Deed
  | 0, _ => []
  | times + 1, channel =>
    channel.repeatDeeds chunk times ++
      (Nat.repeat (fun channel => (channel.write chunk).1) times channel).writeDeeds chunk

end Channel

namespace SharedLog

def deeds (shared : SharedLog) (handle : Option Handle) : LogCall → List Deed
  | .write id chunk => shared.writeDeeds handle id chunk
  | .discard id => [.ofResult (.discarded id) (shared.discard handle id).2]
  | .readInto cursor buffer since =>
    [.ofResult (fun found => .fetched found.1) (shared.read handle cursor buffer.length since).2]
  | .readOut cursor limit =>
    [.ofResult (fun found => .fetched found.1) (shared.readOut handle cursor limit).2]
  | .locate index offset => [.ofResult (fun _ => .looked) (shared.locate handle index offset).2]
  | .extent => [.ofResult (fun _ => .looked) (shared.extent handle).2]
  | .held => [.ofResult (fun _ => .looked) (shared.held handle).2]
  | .snapshot => [.ofResult (fun _ => .looked) (shared.snapshot handle).2]
  | .teardown => [.ofResult (fun _ => .tornDown shared.log.held) (shared.teardown handle).2]
  | .settings => []

def burstOnceDeeds (times : Nat) (chunk : Bytes) (shared : SharedLog) : List Deed :=
  let writer := Channel.ofShared shared none
  .opened writer.session.id :: writer.repeatDeeds chunk times ++
    (Nat.repeat (fun channel => (channel.write chunk).1) times writer).releaseDeeds none

def burstDeeds (times : Nat) (chunk : Bytes) : Nat → SharedLog → List Deed
  | 0, _ => []
  | writers + 1, shared =>
    shared.burstDeeds times chunk writers ++
      (Nat.repeat (burstOnce times chunk) writers shared).burstOnceDeeds times chunk

end SharedLog

-- A deed with the number of the session that did it. What is done at the log itself has none, and
-- the writers of a burst get none.
abbrev Entry := Option Nat × Deed

namespace Station

def visitDeeds (station : Station) (number : Nat) (deeds : Channel → List Deed) : List Entry :=
  match station.session? number with
  | none => []
  | some session => (deeds ⟨station.shared, session⟩).map (some number, ·)

def deeds (station : Station) : Call → List Entry
  | .openSession => [(some station.sessions.length, .opened station.openSession.2)]
  | .session number call => station.visitDeeds number (·.deeds call)
  | .stream number call => station.visitDeeds number (·.streamDeeds call)
  | .log handle call => (station.shared.deeds handle call).map (none, ·)
  | .handle _ _ => []
  | .burst writers times chunk => (station.shared.burstDeeds times chunk writers).map (none, ·)

def history (station : Station) : List Call → List Entry
  | [] => []
  | call :: calls => station.deeds call ++ (station.step call).1.history calls

theorem history_append (station : Station) (calls more : List Call) :
    station.history (calls ++ more) =
      station.history calls ++ (station.run calls).1.history more := by
  induction calls generalizing station with
  | nil => rfl
  | cons call calls ih =>
    rw [List.cons_append, history, ih, history, List.append_assoc]
    rfl

end Station

end CircularLog
