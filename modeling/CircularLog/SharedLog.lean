import CircularLog.Log
import CircularLog.Gate

namespace CircularLog

inductive Handle where
  | named (name : String)
  | session (number : Nat)
  deriving DecidableEq, Repr

structure SharedLog where
  gate : Gate Handle Log
  deriving DecidableEq, Repr

namespace SharedLog

variable {β : Type}

def log (shared : SharedLog) : Log :=
  shared.gate.value

def create (settings : Settings) : Except Fault SharedLog :=
  (Log.create settings).map fun log => ⟨⟨log, {}⟩⟩

def adjust (shared : SharedLog) (change : Log → Log) : SharedLog :=
  { shared with gate.value := change shared.gate.value }

def note (shared : SharedLog) (event : Event) : SharedLog :=
  shared.adjust (·.note event)

def enter (shared : SharedLog) (handle : Option Handle) (act : Log → Log × Except Fault β) :
    SharedLog × Except Fault β :=
  match shared.gate.pass handle act with
  | (gate, .ok result) => (⟨gate⟩, result)
  | (gate, .error fault) => (SharedLog.adjust ⟨gate⟩ Log.countInterrupt, .error fault)

def ask (shared : SharedLog) (handle : Option Handle) (question : Log → Except Fault β) :
    SharedLog × Except Fault β :=
  shared.enter handle fun log => (log, question log)

-- An empty write does not come to the gate.
def write (shared : SharedLog) (handle : Option Handle) (session : SessionId) (chunk : Bytes) :
    SharedLog × Except Fault Nat :=
  if chunk.isEmpty then (shared, .ok 0)
  else shared.enter handle fun log => (log.write session chunk, .ok chunk.length)

def read (shared : SharedLog) (handle : Option Handle) (cursor : UInt64) (limit : Nat)
    (since : Option UInt64) : SharedLog × Except Fault (Bytes × UInt64) :=
  shared.enter handle fun log => log.read cursor limit since

-- A read into a buffer of the caller: the buffer afterwards, with the number of bytes copied and
-- the cursor behind them. After a fault the buffer is as it was.
def readInto (shared : SharedLog) (handle : Option Handle) (cursor : UInt64) (buffer : Bytes)
    (since : Option UInt64) : SharedLog × Except Fault (Nat × UInt64) × Bytes :=
  match shared.read handle cursor buffer.length since with
  | (after, .error fault) => (after, .error fault, buffer)
  | (after, .ok (data, next)) =>
    (after, .ok (data.length, next), data ++ buffer.drop data.length)

def readOut (shared : SharedLog) (handle : Option Handle) (cursor : UInt64) (limit : Nat) :
    SharedLog × Except Fault (Bytes × UInt64) :=
  shared.read handle cursor limit none

def locate (shared : SharedLog) (handle : Option Handle) (index offset : Nat) :
    SharedLog × Except Fault (UInt64 × UInt64) :=
  shared.ask handle fun log => log.locate index offset

def extent (shared : SharedLog) (handle : Option Handle) :
    SharedLog × Except Fault (Nat × UInt64) :=
  shared.ask handle fun log => .ok (log.heldBytes, log.generation)

def held (shared : SharedLog) (handle : Option Handle) : SharedLog × Except Fault (List Record) :=
  shared.ask handle fun log => .ok log.held

def snapshot (shared : SharedLog) (handle : Option Handle) : SharedLog × Except Fault Snapshot :=
  shared.ask handle fun log => .ok log.snapshot

def discard (shared : SharedLog) (handle : Option Handle) (session : SessionId) :
    SharedLog × Except Fault Nat :=
  shared.enter handle fun log =>
    let (after, lost) := log.discard session
    (after, .ok lost)

def teardown (shared : SharedLog) (handle : Option Handle) : SharedLog × Except Fault Nat :=
  shared.enter handle fun log =>
    let (after, released) := log.teardown
    (after, .ok released)

end SharedLog

end CircularLog
