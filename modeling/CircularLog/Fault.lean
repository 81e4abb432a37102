import CircularLog.Text.Quoted

namespace CircularLog

inductive BadArgument where
  | noRecord (index held : Nat)
  | beyondRecord (offset index size : Nat)
  | outsideHeld (target : Int) (total : Nat)
  | described (text : String)
  deriving DecidableEq, Repr

def BadArgument.message : BadArgument → String
  | .noRecord index held => s!"entry index {index} out of range ({held} entries held)"
  | .beyondRecord offset index size =>
    s!"offset {offset} out of range for entry {index} of {size} bytes"
  | .outsideHeld target total => s!"seek target {target} outside held data of {total} bytes"
  | .described text => text

inductive BadSetting where
  | zeroCapacity
  | zeroPoll
  | zeroSlots
  | described (text : String)
  deriving DecidableEq, Repr

def BadSetting.message : BadSetting → String
  | .zeroCapacity => "capacity must be at least 1"
  | .zeroPoll => "interrupt poll interval must be non-zero"
  | .zeroSlots => "ring capacity must be at least 1"
  | .described text => text

-- Memory is taken to be enough, so no operation comes to `outOfMemory`.
inductive Fault where
  | outOfMemory
  | invalidArgument (cause : BadArgument)
  | interrupted
  | staleCursor (cursor log : UInt64)
  | invalidSetting (cause : BadSetting)
  deriving DecidableEq, Repr

def Fault.message : Fault → String
  | .outOfMemory => "out of memory: memory allocation failed because the computed capacity " ++
      "exceeded the collection's maximum"
  | .invalidArgument cause => "invalid argument: " ++ cause.message
  | .interrupted => "interrupted while waiting for the device gate"
  | .staleCursor cursor log =>
    s!"stale cursor: positioned at generation {cursor}, device is at {log}"
  | .invalidSetting cause => "invalid configuration: " ++ cause.message

-- The same call may succeed when it is made again.
def Fault.retryable : Fault → Bool
  | .interrupted | .outOfMemory => true
  | _ => false

def Fault.literal : Fault → String
  | .outOfMemory => "OutOfMemory(TryReserveError \x7b kind: CapacityOverflow \x7d)"
  | .invalidArgument cause =>
    "InvalidArgument \x7b message: " ++ Quoted.quote cause.message ++ " \x7d"
  | .interrupted => "Interrupted"
  | .staleCursor cursor log =>
    s!"StaleCursor \x7b cursor_generation: {cursor}, device_generation: {log} \x7d"
  | .invalidSetting cause =>
    "InvalidConfig \x7b message: " ++ Quoted.quote cause.message ++ " \x7d"

inductive StreamKind where
  | interrupted
  | invalidInput
  | invalidData
  | outOfMemory
  | unexpectedEnd
  deriving DecidableEq, Repr

def StreamKind.name : StreamKind → String
  | .interrupted => "Interrupted"
  | .invalidInput => "InvalidInput"
  | .invalidData => "InvalidData"
  | .outOfMemory => "OutOfMemory"
  | .unexpectedEnd => "UnexpectedEof"

def Fault.kind : Fault → StreamKind
  | .outOfMemory => .outOfMemory
  | .invalidArgument _ | .invalidSetting _ => .invalidInput
  | .interrupted => .interrupted
  | .staleCursor _ _ => .invalidData

inductive StreamFault where
  | log (fault : Fault)
  | unexpectedEnd
  | notText
  deriving DecidableEq, Repr

def StreamFault.kind : StreamFault → StreamKind
  | .log fault => fault.kind
  | .unexpectedEnd => .unexpectedEnd
  | .notText => .invalidData

def StreamFault.message : StreamFault → String
  | .log fault => fault.message
  | .unexpectedEnd => "failed to fill whole buffer"
  | .notText => "stream did not contain valid UTF-8"

end CircularLog
