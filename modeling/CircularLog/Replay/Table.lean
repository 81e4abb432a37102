import CircularLog.Text.Json
import CircularLog.Text.Utf8

namespace CircularLog.Replay

structure Row where
  index : Nat
  offset : Nat
  size : Nat
  text : String
  deriving DecidableEq, Repr

def Row.fields (row : Row) : Json.Fields :=
  [("index", .number row.index), ("offset", .number row.offset), ("size", .number row.size),
    ("text", .text row.text)]

def Row.ends (row : Row) : Bool :=
  row.text.toList.getLast? == some '\n'

-- The rows so far, newest first, and the cursor behind them.
structure Table where
  rows : List Row
  cursor : Nat
  deriving DecidableEq, Repr

-- One more piece as it was read. A record longer than a read comes in several pieces, so a piece
-- belongs to the newest row until that row ends.
def Table.add (table : Table) (piece : Bytes) : Table :=
  let cursor := table.cursor + piece.length
  match table.rows with
  | [] => ⟨[⟨0, table.cursor, piece.length, Utf8.lossy piece⟩], cursor⟩
  | last :: others =>
    if last.ends then
      ⟨⟨last.index + 1, table.cursor, piece.length, Utf8.lossy piece⟩ :: last :: others, cursor⟩
    else
      ⟨{ last with size := last.size + piece.length, text := last.text ++ Utf8.lossy piece } ::
        others, cursor⟩

end CircularLog.Replay
