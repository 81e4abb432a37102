namespace CircularLog.Numeral

inductive Fault where
  | empty
  | invalidDigit
  | tooLarge
  deriving DecidableEq, Repr

def Fault.message : Fault → String
  | .empty => "cannot parse integer from empty string"
  | .invalidDigit => "invalid digit found in string"
  | .tooLarge => "number too large to fit in target type"

def Fault.literal : Fault → String
  | .empty => "ParseIntError \x7b kind: Empty \x7d"
  | .invalidDigit => "ParseIntError \x7b kind: InvalidDigit \x7d"
  | .tooLarge => "ParseIntError \x7b kind: PosOverflow \x7d"

def limit : Nat := UInt64.size

def digit? (c : Char) : Option Nat :=
  if '0' ≤ c ∧ c ≤ '9' then some (c.toNat - '0'.toNat) else none

-- One more digit behind a value. What is no digit is refused before the size is looked at.
def extend (value : Nat) (c : Char) : Except Fault Nat :=
  match digit? c with
  | none => .error .invalidDigit
  | some digit =>
    if value * 10 + digit < limit then .ok (value * 10 + digit) else .error .tooLarge

def parse : List Char → Except Fault Nat
  | [] => .error .empty
  | ['+'] => .error .invalidDigit
  | '+' :: digits => digits.foldlM extend 0
  | digits => digits.foldlM extend 0

end CircularLog.Numeral
