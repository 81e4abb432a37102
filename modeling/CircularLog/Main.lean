import CircularLog.CommandLine.Outcome

namespace CircularLog.CommandLine

-- The number of a fault, which some calls give negated.
def faultNumber (code : UInt32) : Nat :=
  (if code < 0x80000000 then code else 0 - code).toNat

def sourceFault : IO.Error → SourceFault
  | .noFileOrDirectory _ code text | .permissionDenied _ code text
  | .inappropriateType _ code text | .invalidArgument _ code text
  | .resourceExhausted _ code text | .noSuchThing _ code text
  | .hardwareFault code text | .unsupportedOperation code text
  | .illegalOperation code text | .otherError code text => .ofNumber (faultNumber code) text
  | error => .other 0 (toString error)

def readSource (input : Option String) : IO (Except SourceFault Bytes) := do
  try
    let bytes ← match input with
      | some path => IO.FS.readBinFile path
      | none => (← IO.getStdin).readBinToEnd
    return .ok bytes.toList
  catch error => return .error (sourceFault error)

def tell (outcome : Outcome) : IO UInt32 := do
  (← IO.getStdout).write (ByteArray.mk outcome.output.toArray)
  if let some line := outcome.errorLine? then IO.eprintln line
  if outcome matches .misused then IO.eprintln "error: unexpected arguments; try --help"
  return outcome.code

end CircularLog.CommandLine

open CircularLog.CommandLine in
def main (words : List String) : IO UInt32 := do
  match Invocation.ofWords words with
  | .error halt => tell (.ofHalt halt)
  | .ok invocation =>
    let source ← if invocation.readsSource then readSource invocation.input else pure (.ok [])
    tell (invocation.outcome source)
