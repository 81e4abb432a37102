import CircularLog.Ring

namespace CircularLog.Ring

variable {α : Type}

-- Where a walk has come to, and how many items are still to come. Once over, it stays over.
structure Walk (α : Type) where
  ring : Ring α
  position : Nat
  remaining : Nat

namespace Walk

def start (ring : Ring α) : Walk α :=
  ⟨ring, 0, ring.size⟩

def next (walk : Walk α) : Option α × Walk α :=
  if walk.remaining = 0 then (none, walk)
  else (walk.ring.get? walk.position,
    { walk with position := walk.position + 1, remaining := walk.remaining - 1 })

def bounds (walk : Walk α) : Nat × Nat :=
  (walk.remaining, walk.remaining)

def steps (walk : Walk α) : Nat → List (Option α × Nat) × Walk α
  | 0 => ([], walk)
  | count + 1 =>
    let (item, after) := walk.next
    let (more, last) := after.steps count
    ((item, after.remaining) :: more, last)

def rest (walk : Walk α) : List α :=
  (List.range' walk.position walk.remaining).filterMap walk.ring.get?

end Walk

end CircularLog.Ring
