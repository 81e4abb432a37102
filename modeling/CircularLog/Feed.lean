import CircularLog.Chunks
import CircularLog.Channel

namespace CircularLog

inductive SourceFault where
  | notPermitted
  | missing
  | broken
  | denied
  | notDirectory
  | directory
  | invalid
  | nameTooLong
  | linkLoop
  | other (number : Nat) (text : String)
  deriving DecidableEq, Repr

namespace SourceFault

def number : SourceFault → Nat
  | .notPermitted => 1
  | .missing => 2
  | .broken => 5
  | .denied => 13
  | .notDirectory => 20
  | .directory => 21
  | .invalid => 22
  | .nameTooLong => 36
  | .linkLoop => 40
  | .other number _ => number

def kind : SourceFault → String
  | .notPermitted | .denied => "PermissionDenied"
  | .missing => "NotFound"
  | .broken => "InputOutputError"
  | .notDirectory => "NotADirectory"
  | .directory => "IsADirectory"
  | .invalid => "InvalidInput"
  | .nameTooLong => "InvalidFilename"
  | .linkLoop => "FilesystemLoop"
  | .other _ _ => "Uncategorized"

def text : SourceFault → String
  | .notPermitted => "Operation not permitted"
  | .missing => "No such file or directory"
  | .broken => "Input/output error"
  | .denied => "Permission denied"
  | .notDirectory => "Not a directory"
  | .directory => "Is a directory"
  | .invalid => "Invalid argument"
  | .nameTooLong => "File name too long"
  | .linkLoop => "Too many levels of symbolic links"
  | .other _ text => text

def named : List SourceFault :=
  [.notPermitted, .missing, .broken, .denied, .notDirectory, .directory, .invalid, .nameTooLong,
    .linkLoop]

def ofNumber (number : Nat) (text : String) : SourceFault :=
  (named.find? fun fault => fault.number == number).getD (.other number text)

def message (fault : SourceFault) : String :=
  fault.text ++ " (os error " ++ toString fault.number ++ ")"

def literal (fault : SourceFault) : String :=
  "Os \x7b code: " ++ toString fault.number ++ ", kind: " ++ fault.kind ++ ", message: " ++
    Quoted.quote fault.text ++ " \x7d"

end SourceFault

structure Feed where
  capacity : Nat
  chunkSize : Nat
  deriving DecidableEq, Repr

namespace Feed

inductive Failure where
  | zeroChunk
  | log (fault : Fault)
  | source (fault : SourceFault)
  deriving DecidableEq, Repr

def Failure.message : Failure → String
  | .zeroChunk => "chunk size must be at least 1"
  | .log fault => fault.message
  | .source fault => fault.message

def Failure.literal : Failure → String
  | .zeroChunk => Quoted.quote "chunk size must be at least 1"
  | .log fault => fault.literal
  | .source fault => fault.literal

-- The log that is fed, once the chunk size and then the capacity are found good.
def shared (feed : Feed) : Except Failure SharedLog :=
  if feed.chunkSize = 0 then .error .zeroChunk
  else (SharedLog.create { capacity := feed.capacity }).mapError .log

-- One write for each chunk. The writer stays open, so an unterminated tail stays under way.
def load (feed : Feed) (source : Except SourceFault Bytes) : Except Failure Channel := do
  let shared ← feed.shared
  let bytes ← source.mapError .source
  return (Chunks.cut feed.chunkSize bytes).foldl (fun channel chunk => (channel.write chunk).1)
    (Channel.ofShared shared none)

end Feed

end CircularLog
