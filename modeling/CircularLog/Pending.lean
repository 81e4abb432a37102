import CircularLog.Record

namespace CircularLog

-- The bytes since the last terminator, newest first, so that a chunk is added at its own cost.
structure Pending where
  terminator : UInt8
  newestFirst : List UInt8 := []
  deriving DecidableEq, Repr

inductive Appended where
  | incomplete
  | completed (records : List Record)
  deriving DecidableEq, Repr

def Appended.records : Appended → List Record
  | .incomplete => []
  | .completed records => records

namespace Pending

def bytes (pending : Pending) : Bytes :=
  pending.newestFirst.reverse

def size (pending : Pending) : Nat :=
  pending.newestFirst.length

def isEmpty (pending : Pending) : Bool :=
  pending.newestFirst.isEmpty

-- One more byte in front of a chunk already cut. A terminator makes a segment of its own; any
-- other byte belongs to the segment that follows it.
def cutStep (terminator byte : UInt8) : List Bytes × Bytes → List Bytes × Bytes
  | (segments, tail) =>
    if byte = terminator then ([byte] :: segments, tail)
    else match segments with
      | [] => ([], byte :: tail)
      | first :: others => ((byte :: first) :: others, tail)

def cut (terminator : UInt8) (chunk : Bytes) : List Bytes × Bytes :=
  chunk.foldr (cutStep terminator) ([], [])

theorem flatten_cut (terminator : UInt8) (chunk : Bytes) :
    (cut terminator chunk).1.flatten ++ (cut terminator chunk).2 = chunk := by
  induction chunk with
  | nil => rfl
  | cons byte chunk ih =>
    rw [cut, List.foldr_cons, ← cut]
    generalize cut terminator chunk = pieces at ih ⊢
    obtain ⟨segments, tail⟩ := pieces
    by_cases ends : byte = terminator
    · simpa [cutStep, ends] using ih
    · cases segments with
      | nil => simpa [cutStep, ends] using ih
      | cons first others => simpa [cutStep, ends] using ih

def append (pending : Pending) (chunk : Bytes) : Pending × Appended :=
  match cut pending.terminator chunk with
  | ([], tail) =>
    ({ pending with newestFirst := tail.reverseAux pending.newestFirst }, .incomplete)
  | (first :: others, tail) =>
    ({ pending with newestFirst := tail.reverse },
      .completed (⟨pending.newestFirst.reverseAux first⟩ :: others.map Record.mk))

def discard (pending : Pending) : Pending × Nat :=
  ({ pending with newestFirst := [] }, pending.size)

end Pending

end CircularLog
