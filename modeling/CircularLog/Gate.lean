import CircularLog.Fault
import CircularLog.Flags

namespace CircularLog

structure Gate (κ α : Type) where
  value : α
  flags : Flags κ := {}
  deriving DecidableEq, Repr

-- One try at the gate: whether the waiter's flag is raised just before it, and whether the gate is
-- free while it lasts.
structure Turn where
  raised : Bool
  free : Bool
  deriving DecidableEq, Repr

inductive Passage (β : Type) where
  | waiting
  | interrupted
  | done (result : β)
  deriving DecidableEq, Repr

namespace Gate

variable {κ α β : Type} [DecidableEq κ]

-- One turn. The flag is looked at before the gate, so a raised one counts even at a free gate.
def turn (gate : Gate κ α) (key : κ) (act : α → α × β) (now : Turn) : Gate κ α × Passage β :=
  let flags := if now.raised then gate.flags.raise key else gate.flags
  if flags.isRaised key then (⟨gate.value, flags.lower key⟩, .interrupted)
  else if now.free then
    let (value, result) := act gate.value
    (⟨value, flags⟩, .done result)
  else (⟨gate.value, flags⟩, .waiting)

def wait (gate : Gate κ α) (key : κ) (act : α → α × β) : List Turn → Gate κ α × Passage β
  | [] => (gate, .waiting)
  | now :: turns =>
    match gate.turn key act now with
    | (after, .waiting) => after.wait key act turns
    | settled => settled

def pass (gate : Gate κ α) (handle : Option κ) (act : α → α × β) :
    Gate κ α × Except Fault β :=
  if handle.any gate.flags.isRaised then
    ({ gate with flags := (handle.map gate.flags.lower).getD gate.flags }, .error .interrupted)
  else
    let (value, result) := act gate.value
    ({ gate with value }, .ok result)

end Gate

end CircularLog
