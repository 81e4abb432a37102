import CircularLog.Fault

namespace CircularLog

-- The two indices meet when the ring is empty and when it is full; `full` tells these apart.
structure Ring (α : Type) where
  slots : Array (Option α)
  writeIndex : Nat
  readIndex : Nat
  full : Bool
  deriving DecidableEq, Repr

namespace Ring

variable {α : Type}

def create (capacity : Nat) : Except Fault (Ring α) :=
  if capacity = 0 then .error (.invalidSetting .zeroSlots)
  else .ok ⟨Array.replicate capacity none, 0, 0, false⟩

def capacity (ring : Ring α) : Nat :=
  ring.slots.size

def advance (ring : Ring α) (index : Nat) : Nat :=
  (index + 1) % ring.capacity

def size (ring : Ring α) : Nat :=
  if ring.full then ring.capacity
  else (ring.writeIndex + ring.capacity - ring.readIndex) % ring.capacity

def isEmpty (ring : Ring α) : Bool :=
  !ring.full && ring.writeIndex == ring.readIndex

def isFull (ring : Ring α) : Bool :=
  ring.full

def get? (ring : Ring α) (index : Nat) : Option α :=
  if index < ring.size then (ring.slots[(ring.readIndex + index) % ring.capacity]?).join else none

def toList (ring : Ring α) : List α :=
  (List.range ring.size).filterMap ring.get?

-- The ring with one more item, and the item evicted for it. In a full ring the oldest item lies
-- where the next one is written.
def push (ring : Ring α) (item : α) : Ring α × Option α :=
  let evicted := if ring.full then (ring.slots[ring.readIndex]?).join else none
  let readIndex := if ring.full then ring.advance ring.readIndex else ring.readIndex
  let writeIndex := ring.advance ring.writeIndex
  (⟨ring.slots.setIfInBounds ring.writeIndex (some item), writeIndex, readIndex,
    writeIndex == readIndex⟩, evicted)

def clear (ring : Ring α) : Ring α × Nat :=
  (⟨Array.replicate ring.capacity none, 0, 0, false⟩, ring.size)

end Ring

end CircularLog
