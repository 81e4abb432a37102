import CircularLog.Proofs.Complete

namespace CircularLog.Pending

inductive Call where
  | append (chunk : Bytes)
  | discard
  deriving DecidableEq, Repr

def step (pending : Pending) : Call → Pending
  | .append chunk => (pending.append chunk).1
  | .discard => pending.discard.1

def run (pending : Pending) (calls : List Call) : Pending :=
  calls.foldl step pending

structure Unended (pending : Pending) (terminator : UInt8) : Prop where
  ends : pending.terminator = terminator
  bytes : terminator ∉ pending.bytes

variable {pending other : Pending} {terminator : UInt8} {chunk : Bytes}

theorem eq_of_bytes (ends : pending.terminator = other.terminator)
    (bytes : pending.bytes = other.bytes) : pending = other := by
  cases pending
  cases other
  have same := List.reverse_injective bytes
  cases ends
  cases same
  rfl

theorem Unended.append (unended : pending.Unended terminator) (chunk : Bytes) :
    joined (pending.append chunk).2.records ++ (pending.append chunk).1.bytes =
        pending.bytes ++ chunk ∧
      (∀ record ∈ (pending.append chunk).2.records, record.Complete terminator) ∧
      (pending.append chunk).1.Unended terminator := by
  obtain ⟨rfl, begun⟩ := unended
  obtain ⟨records, tail, parts, complete, free⟩ :=
    exists_complete pending.terminator (pending.bytes ++ chunk)
  obtain ⟨made, rest⟩ := append_parts begun complete free parts
  rw [made, rest]
  refine ⟨parts, complete, Log.append_terminator pending chunk, ?_⟩
  rw [rest]
  exact free

theorem Unended.step (unended : pending.Unended terminator) (call : Call) :
    (pending.step call).Unended terminator := by
  cases call with
  | append chunk => exact (unended.append chunk).2.2
  | discard => exact ⟨unended.ends, List.not_mem_nil⟩

theorem Unended.run (unended : pending.Unended terminator) (calls : List Call) :
    (pending.run calls).Unended terminator := by
  induction calls generalizing pending with
  | nil => exact unended
  | cons call calls ih => exact ih (unended.step call)

theorem Unended.count (unended : pending.Unended terminator) (chunk : Bytes) :
    (pending.append chunk).2.records.length = chunk.count terminator := by
  obtain ⟨parts, complete, rest⟩ := unended.append chunk
  have counts := congrArg (List.count terminator) parts
  simp only [List.count_append, count_joined complete, List.count_eq_zero.mpr rest.bytes,
    List.count_eq_zero.mpr unended.bytes] at counts
  omega

theorem append_append (pending : Pending) (front back : Bytes) :
    ((pending.append front).1.append back).1 = (pending.append (front ++ back)).1 ∧
      (pending.append front).2.records ++ ((pending.append front).1.append back).2.records =
        (pending.append (front ++ back)).2.records := by
  have ends := Log.append_terminator pending front
  have whole := append_bytewise pending [] (front ++ back)
  have first := append_bytewise pending [] front
  have second := append_bytewise (pending.append front).1
    ((pending.append front).2.records.map Record.bytes) back
  rw [List.map_append, List.foldl_append, first, List.nil_append, ← ends, second] at whole
  obtain ⟨tails, records, _⟩ := Reading.mk.inj whole
  constructor
  · refine eq_of_bytes ?_ tails
    rw [Log.append_terminator, ends, Log.append_terminator]
  · apply Record.map_bytes_inj.mp
    rw [List.map_append]
    exact records

theorem append_incomplete_iff :
    (pending.append chunk).2 = .incomplete ↔ (pending.append chunk).2.records = [] := by
  cases made : (pending.append chunk).2 with
  | incomplete => simp [Appended.records]
  | completed records => simp [Appended.records, completed_ne_nil made]

-- A chunk taken at once comes to what its bytes come to one by one, and to what its parts come to
-- one after the other. Each terminator completes a record that ends with it, and the bytes behind
-- the last one stay under way.
theorem gathers_byte_by_byte (terminator : UInt8) (calls : List Call) (chunk : Bytes) :
    let pending := run ⟨terminator, []⟩ calls
    let after := (pending.append chunk).1
    let appended := (pending.append chunk).2
    terminator ∉ pending.bytes ∧
      (chunk.map .item).foldl (Reading.follow (· == terminator)) ⟨pending.bytes, [], []⟩ =
        ⟨after.bytes, appended.records.map Record.bytes, []⟩ ∧
      joined appended.records ++ after.bytes = pending.bytes ++ chunk ∧
      (∀ record ∈ appended.records, record.Complete terminator) ∧
      terminator ∉ after.bytes ∧
      appended.records.length = chunk.count terminator ∧
      (appended = .incomplete ↔ terminator ∉ chunk) ∧
      (∀ records, appended = .completed records → records ≠ [] ∧ 1 ≤ chunk.count terminator) ∧
      ∀ front back, front ++ back = chunk →
        let first := pending.append front
        let second := first.1.append back
        second.1 = after ∧ first.2.records ++ second.2.records = appended.records := by
  intro pending after appended
  have fresh : Unended ⟨terminator, []⟩ terminator := ⟨rfl, List.not_mem_nil⟩
  have unended : pending.Unended terminator := fresh.run calls
  obtain ⟨parts, complete, rest⟩ := unended.append chunk
  have count := unended.count chunk
  have bytewise := append_bytewise pending [] chunk
  rw [unended.ends] at bytewise
  refine ⟨unended.bytes, bytewise, parts, complete, rest.bytes, count, ?_, ?_, ?_⟩
  · rw [append_incomplete_iff, ← List.length_eq_zero_iff, count, List.count_eq_zero]
  · intro records made
    have some := completed_ne_nil made
    have counted : appended.records.length = chunk.count terminator := count
    rw [made] at counted
    refine ⟨some, ?_⟩
    rw [← counted]
    exact List.length_pos_iff.mpr some
  · rintro front back rfl
    exact append_append pending front back

theorem gathering_of_two_records :
    let pending := run ⟨59, []⟩ [.append [97], .discard, .append [98]]
    pending.append [59, 59, 99] = (⟨59, [99]⟩, .completed [⟨[98, 59]⟩, ⟨[59]⟩]) ∧
      Record.Complete 59 ⟨[98, 59]⟩ ∧
      1 ≤ List.count (59 : UInt8) [59, 59, 99] ∧
      ((pending.append [59]).1.append [59, 99]).1 = ⟨59, [99]⟩ ∧
      (pending.append [59]).2.records ++ ((pending.append [59]).1.append [59, 99]).2.records =
        [⟨[98, 59]⟩, ⟨[59]⟩] := by
  intro pending
  have made : pending.append [59, 59, 99] = (⟨59, [99]⟩, .completed [⟨[98, 59]⟩, ⟨[59]⟩]) := rfl
  obtain ⟨_, _, _, complete, _, _, _, some, parted⟩ :=
    gathers_byte_by_byte 59 [.append [97], .discard, .append [98]] [59, 59, 99]
  have first := complete ⟨[98, 59]⟩ List.mem_cons_self
  obtain ⟨_, counted⟩ := some _ rfl
  obtain ⟨last, records⟩ := parted [59] [59, 99] rfl
  exact ⟨made, first, counted, last, records⟩

end CircularLog.Pending
