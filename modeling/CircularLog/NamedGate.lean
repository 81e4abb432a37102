import CircularLog.Gate

namespace CircularLog

structure NamedGate (α : Type) where
  gate : Gate Nat α
  names : List (String × Nat) := []
  made : Nat := 0

namespace NamedGate

variable {α : Type}

def start (value : α) : NamedGate α :=
  ⟨⟨value, {}⟩, [], 0⟩

def flag? (named : NamedGate α) (name : String) : Option Nat :=
  named.names.lookup name

-- The flag of a name. A name met for the first time gets a new flag, lowered.
def touch (named : NamedGate α) (name : String) : NamedGate α × Nat :=
  match named.flag? name with
  | some flag => (named, flag)
  | none => ({ named with names := (name, named.made) :: named.names, made := named.made + 1 },
      named.made)

def raised (named : NamedGate α) : List (String × Bool) :=
  named.names.map fun entry =>
    (entry.1, ((named.flag? entry.1).map named.gate.flags.isRaised).getD false)

inductive Call (α : Type) where
  | raise (name : String)
  | take (name : String)
  | isRaised (name : String)
  -- The name `other` comes to stand for the flag of `name`, whatever it stood for before.
  | alias (name other : String)
  | enter (name : String) (change : α → α) (turns : List Turn)

inductive Reply (α : Type) where
  | done
  | flag (value : Bool)
  | passage (result : Passage α)
  deriving DecidableEq, Repr

def step (named : NamedGate α) : Call α → NamedGate α × Reply α
  | .raise name =>
    let (named, flag) := named.touch name
    ({ named with gate.flags := named.gate.flags.raise flag }, .done)
  | .take name =>
    let (named, flag) := named.touch name
    let (raised, flags) := named.gate.flags.take flag
    ({ named with gate.flags := flags }, .flag raised)
  | .isRaised name =>
    let (named, flag) := named.touch name
    (named, .flag (named.gate.flags.isRaised flag))
  | .alias name other =>
    let (named, flag) := named.touch name
    ({ named with names := (other, flag) :: named.names }, .done)
  | .enter name change turns =>
    let (named, flag) := named.touch name
    let (gate, result) := named.gate.wait flag (fun value => (change value, change value)) turns
    ({ named with gate }, .passage result)

def run (named : NamedGate α) : List (Call α) → NamedGate α × List (Reply α)
  | [] => (named, [])
  | call :: calls =>
    let (after, reply) := named.step call
    let (last, replies) := after.run calls
    (last, reply :: replies)

end NamedGate

end CircularLog
