namespace CircularLog

-- The flags that are raised, by key. Each flag not among them is lowered, used before or not.
structure Flags (κ : Type) where
  raised : List κ := []
  deriving DecidableEq, Repr

namespace Flags

variable {κ : Type} [DecidableEq κ]

def isRaised (flags : Flags κ) (key : κ) : Bool :=
  flags.raised.contains key

def raise (flags : Flags κ) (key : κ) : Flags κ :=
  ⟨flags.raised.insert key⟩

def lower (flags : Flags κ) (key : κ) : Flags κ :=
  ⟨flags.raised.filter (· != key)⟩

def take (flags : Flags κ) (key : κ) : Bool × Flags κ :=
  (flags.isRaised key, flags.lower key)

@[simp] theorem isRaised_raise (flags : Flags κ) (key other : κ) :
    (flags.raise key).isRaised other = (other == key || flags.isRaised other) := by
  by_cases same : other = key <;> simp [isRaised, raise, same]

@[simp] theorem isRaised_lower (flags : Flags κ) (key other : κ) :
    (flags.lower key).isRaised other = (other != key && flags.isRaised other) := by
  by_cases same : other = key <;> simp [isRaised, lower, same]

end Flags

end CircularLog
