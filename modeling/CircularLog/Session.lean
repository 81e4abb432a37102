import CircularLog.SharedLog

namespace CircularLog

structure Session where
  id : SessionId
  handle : Option Handle := none
  cursor : UInt64 := 0
  generation : UInt64
  ended : Bool := false
  deriving DecidableEq, Repr

inductive Whence where
  | start (offset : Nat)
  | current (delta : Int)
  | fromEnd (delta : Int)
  deriving DecidableEq, Repr

-- The target in unbounded arithmetic, whatever range it falls into.
def Whence.target (cursor : UInt64) (total : Nat) : Whence → Int
  | .start offset => offset
  | .current delta => cursor.toNat + delta
  | .fromEnd delta => total + delta

end CircularLog
