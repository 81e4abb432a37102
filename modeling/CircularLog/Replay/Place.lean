import CircularLog.Text.Blank
import CircularLog.Text.Numeral
import CircularLog.Text.Quoted

namespace CircularLog.Replay

inductive PlaceFault where
  | noComma (text : String)
  | numeral (fault : Numeral.Fault)
  deriving DecidableEq, Repr

def PlaceFault.message : PlaceFault → String
  | .noComma text => "expected ENTRY,OFFSET, got " ++ Quoted.quote text
  | .numeral fault => fault.message

def PlaceFault.literal : PlaceFault → String
  | .noComma text => Quoted.quote (PlaceFault.noComma text).message
  | .numeral fault => fault.literal

def number (text : List Char) : Except PlaceFault Nat :=
  (Numeral.parse (Blank.trim text)).mapError .numeral

-- The place named by a text: record and offset around the first comma. The record is read first.
def place (text : String) : Except PlaceFault (Nat × Nat) :=
  match text.toList.span (· != ',') with
  | (_, []) => .error (.noComma text)
  | (before, _ :: after) => do
    let index ← number before
    let offset ← number after
    return (index, offset)

end CircularLog.Replay
