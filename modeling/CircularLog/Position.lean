import CircularLog.Fault
import CircularLog.Record

namespace CircularLog

-- A byte of a record held. Its cursor counts the bytes from the oldest record on, so every eviction
-- gives it another.
structure Location where
  index : Nat
  offset : Nat
  record : Record
  deriving DecidableEq, Repr

def Location.remaining (location : Location) : Bytes :=
  location.record.bytes.drop location.offset

namespace Position

def locateFrom (index : Nat) : List Record → Nat → Option Location
  | [], _ => none
  | record :: records, cursor =>
    if cursor < record.size then some ⟨index, cursor, record⟩
    else locateFrom (index + 1) records (cursor - record.size)

def locate? (records : List Record) (cursor : Nat) : Option Location :=
  locateFrom 0 records cursor

-- The cursor of a place. A record that is not held is reported before an offset outside it.
def cursorOf (records : List Record) (index offset : Nat) : Except Fault Nat :=
  match records[index]? with
  | none => .error (.invalidArgument (.noRecord index records.length))
  | some record =>
    if record.size ≤ offset then
      .error (.invalidArgument (.beyondRecord offset index record.size))
    else .ok (totalSize (records.take index) + offset)

end Position

end CircularLog
