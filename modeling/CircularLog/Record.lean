import CircularLog.Text.Quoted
import CircularLog.Text.Utf8

namespace CircularLog

structure Record where
  bytes : Bytes
  deriving DecidableEq, Repr

namespace Record

def size (record : Record) : Nat :=
  record.bytes.length

def isEmpty (record : Record) : Bool :=
  record.bytes.isEmpty

def text (record : Record) : String :=
  Utf8.lossy record.bytes

def literal (record : Record) : String :=
  "Entry \x7b data: " ++ Quoted.quote record.text ++ ", size: " ++ toString record.size ++ " \x7d"

def literalLines (record : Record) : String :=
  "Entry \x7b\n    data: " ++ Quoted.quote record.text ++ ",\n    size: " ++
    toString record.size ++ ",\n\x7d"

end Record

def totalSize (records : List Record) : Nat :=
  records.foldr (fun record rest => record.size + rest) 0

def joined (records : List Record) : Bytes :=
  records.flatMap Record.bytes

end CircularLog
