import CircularLog.Channel

namespace CircularLog.Channel

variable {β : Type}

-- A call made again after an interruption. The interruption has lowered the flag, so the second
-- call is let in.
def persist (call : Channel → Channel × Except Fault β) (channel : Channel) :
    Channel × Except Fault β :=
  match call channel with
  | (after, .error .interrupted) => call after
  | result => result

def streamRead (channel : Channel) (limit : Nat) : Channel × Except StreamFault Bytes :=
  let (after, result) := channel.read limit
  (after, result.mapError .log)

def fill (pieces : List Bytes) : Nat → Nat → Channel → Channel × Except StreamFault Bytes
  | _, 0, channel => (channel, .ok pieces.reverse.flatten)
  | 0, _ + 1, channel => (channel, .error .unexpectedEnd)
  | budget + 1, wanted + 1, channel =>
    match channel.persist (·.read (wanted + 1)) with
    | (after, .error fault) => (after, .error (.log fault))
    | (after, .ok data) =>
      if data.isEmpty then (after, .error .unexpectedEnd)
      else after.fill (data :: pieces) budget (wanted + 1 - data.length)

def readExact (channel : Channel) (wanted : Nat) : Channel × Except StreamFault Bytes :=
  channel.fill [] wanted wanted

def gather (pieces : List Bytes) : Nat → Channel → Channel × List Bytes × Option Fault
  | 0, channel => (channel, pieces.reverse, none)
  | budget + 1, channel =>
    match channel.persist (·.read channel.shared.log.heldBytes) with
    | (after, .error fault) => (after, pieces.reverse, some fault)
    | (after, .ok data) =>
      if data.isEmpty then (after, pieces.reverse, none)
      else after.gather (data :: pieces) budget

def readToEnd (channel : Channel) : Channel × Except StreamFault Nat × Bytes :=
  let (after, pieces, fault) := channel.gather [] (channel.shared.log.heldBytes + 1)
  let data := pieces.flatten
  match fault with
  | some fault => (after, .error (.log fault), data)
  | none => (after, .ok data.length, data)

-- Everything up to the end as text. Only the whole is looked at, and only if it was read.
def readToString (channel : Channel) : Channel × Except StreamFault String :=
  match channel.readToEnd with
  | (after, .error fault, _) => (after, .error fault)
  | (after, .ok _, data) =>
    match Utf8.decode? data with
    | some text => (after, .ok text)
    | none => (after, .error .notText)

def streamWrite (channel : Channel) (chunk : Bytes) : Channel × Except StreamFault Nat :=
  let (after, result) := channel.write chunk
  (after, result.mapError .log)

def writeAll (channel : Channel) (chunk : Bytes) : Channel × Except StreamFault Unit :=
  let (after, result) := channel.persist (·.write chunk)
  (after, (result.mapError .log).map fun _ => ())

def flush (channel : Channel) : Channel × Except StreamFault Unit :=
  (channel, .ok ())

def streamSeek (channel : Channel) (whence : Whence) : Channel × Except StreamFault UInt64 :=
  let (after, result) := channel.seek whence
  (after, result.mapError .log)

def rewind (channel : Channel) : Channel × Except StreamFault Unit :=
  let (after, result) := channel.streamSeek (.start 0)
  (after, result.map fun _ => ())

def streamPosition (channel : Channel) : Channel × Except StreamFault UInt64 :=
  channel.streamSeek (.current 0)

end CircularLog.Channel
