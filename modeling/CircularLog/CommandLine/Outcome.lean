import CircularLog.CommandLine.Arguments
import CircularLog.Feed
import CircularLog.Replay
import CircularLog.Replay.Place

namespace CircularLog.CommandLine

def release : String := "0.3.0"

inductive Failure where
  | place (fault : Replay.PlaceFault)
  | feed (failure : Feed.Failure)
  | log (fault : Fault)
  deriving DecidableEq, Repr

def Failure.literal : Failure → String
  | .place fault => fault.literal
  | .feed failure => failure.literal
  | .log fault => fault.literal

inductive Outcome where
  | printed (output : Bytes)
  | failed (failure : Failure)
  | misused
  deriving DecidableEq, Repr

namespace Outcome

def code : Outcome → UInt32
  | .printed _ => 0
  | .failed _ => 1
  | .misused => 2

def output : Outcome → Bytes
  | .printed output => output
  | _ => []

def errorLine? : Outcome → Option String
  | .failed failure => some ("Error: " ++ failure.literal)
  | _ => none

def ofLines (lines : List String) : Outcome :=
  .printed (lines.flatMap fun line => Utf8.encode line ++ [10])

def usage : List String :=
  ["Usage: ringlog [OPTIONS] <COMMAND>",
    "",
    "Commands:",
    "  replay   Feed input into a log and print the records held",
    "  inspect  Feed input into a log and show its statistics",
    "  version  Show version information",
    "  help     Show this text",
    "",
    "Options:",
    "  -c, --capacity <CAPACITY>      Records held at most [default: 10]",
    "  -i, --input <INPUT>            Input file, the standard input if absent",
    "      --chunk-size <CHUNK_SIZE>  Bytes written at once [default: 4096]",
    "  -v, --verbose                  Tell more on the error output",
    "  -s, --seek <SEEK>              Where replay starts, as ENTRY,OFFSET",
    "  -f, --format <FORMAT>          text or json [default: text]",
    "  -h, --help                     Show this text",
    "  -V, --version                  Show the version"]

def ofHalt : Halt → Outcome
  | .misused => .misused
  | .help => .ofLines usage
  | .version => .ofLines ["ringlog " ++ release]

end Outcome

namespace Invocation

def feed (invocation : Invocation) : Feed :=
  ⟨invocation.capacity, invocation.chunkSize⟩

-- The records from a place on. The place is read before anything is fed, and looked up afterwards.
def replay (invocation : Invocation) (place : Option String) (layout : Layout)
    (source : Except SourceFault Bytes) : Except Failure Bytes := do
  let place ← (place.mapM Replay.place).mapError .place
  let writer ← (invocation.feed.load source).mapError .feed
  let reader := Channel.ofShared writer.shared none
  let reader ← match place with
    | none => pure reader
    | some (index, offset) =>
      match reader.seekTo index offset with
      | (_, .error fault) => throw (.log fault)
      | (after, .ok _) => pure after
  match layout with
  | .text =>
    match Replay.bytes reader with
    | (_, _, some fault) => throw (.log fault)
    | (_, bytes, none) => return bytes
  | .json =>
    match Replay.rows reader with
    | (_, _, some fault) => throw (.log fault)
    | (_, rows, none) => return Utf8.encode (Json.objects (rows.map Replay.Row.fields)) ++ [10]

def inspect (invocation : Invocation) (layout : Layout) (source : Except SourceFault Bytes) :
    Except Failure Bytes := do
  let writer ← (invocation.feed.load source).mapError .feed
  match writer.shared.snapshot none with
  | (_, .error fault) => throw (.log fault)
  | (_, .ok snapshot) =>
    match layout with
    | .text => return (Outcome.ofLines (snapshot.page)).output
    | .json => return Utf8.encode snapshot.json ++ [10]

-- Whether the outcome depends on the source. If not, it need not be read.
def readsSource (invocation : Invocation) : Bool :=
  let fed := invocation.feed.shared.toBool
  match invocation.task with
  | .version => false
  | .inspect _ => fed
  | .replay place _ => (place.mapM Replay.place).toBool && fed

def outcome (invocation : Invocation) (source : Except SourceFault Bytes) : Outcome :=
  let result := match invocation.task with
    | .replay place layout => invocation.replay place layout source
    | .inspect layout => invocation.inspect layout source
    | .version => .ok (Outcome.ofLines
        ["RingLog CLI v" ++ release, "RingLog Core v" ++ release]).output
  match result with
  | .ok output => .printed output
  | .error failure => .failed failure

end Invocation

end CircularLog.CommandLine
