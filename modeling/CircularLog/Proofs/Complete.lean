import CircularLog.Proofs.Reading

namespace CircularLog

-- A record that ends in the terminator and nowhere before.
def Record.Complete (terminator : UInt8) (record : Record) : Prop :=
  ∃ body, record.bytes = body ++ [terminator] ∧ terminator ∉ body

variable {terminator : UInt8}

theorem Record.Complete.filled {record : Record} (complete : record.Complete terminator) :
    record.bytes ≠ [] := by
  obtain ⟨body, bytes, _⟩ := complete
  rw [bytes]
  exact List.append_ne_nil_of_right_ne_nil _ (List.cons_ne_nil _ _)

theorem Record.Complete.drop {record : Record} (complete : record.Complete terminator)
    {offset : Nat} (inside : offset < record.size) :
    Record.Complete terminator ⟨record.bytes.drop offset⟩ := by
  obtain ⟨body, bytes, free⟩ := complete
  rw [Record.size, bytes, List.length_append, List.length_singleton] at inside
  refine ⟨body.drop offset, ?_, fun left => free (List.mem_of_mem_drop left)⟩
  rw [bytes]
  exact List.drop_append_of_le_length (Nat.le_of_lt_succ inside)

-- A part of a record fits into a piece, or the piece ends before the record does.
theorem Record.Complete.cut {part : Bytes} (complete : Record.Complete terminator ⟨part⟩)
    {size : Nat} (positive : 0 < size) :
    part.take size = part ∧ part.drop size = [] ∨
      part.take size ≠ [] ∧ terminator ∉ part.take size ∧
        Record.Complete terminator ⟨part.drop size⟩ := by
  have filled : part ≠ [] := complete.filled
  rcases Nat.lt_or_ge size part.length with long | short
  · right
    have rest := complete.drop long
    obtain ⟨body, ended, free⟩ := complete
    have ended : part = body ++ [terminator] := ended
    have inside : size ≤ body.length := by
      rw [ended, List.length_append] at long
      exact Nat.le_of_lt_succ long
    refine ⟨?_, ?_, rest⟩
    · intro nothing
      rcases List.take_eq_nil_iff.mp nothing with zero | none
      · exact absurd zero (Nat.ne_of_gt positive)
      · exact filled none
    · rw [ended, List.take_append_of_le_length inside]
      exact fun found => free (List.mem_of_mem_take found)
  · exact .inl ⟨List.take_of_length_le short, List.drop_of_length_le short⟩

theorem Record.map_bytes_inj {records others : List Record} :
    records.map Record.bytes = others.map Record.bytes ↔ records = others :=
  List.map_inj_right fun _ _ same => congrArg Record.mk same

theorem joined_cons (record : Record) (records : List Record) :
    joined (record :: records) = record.bytes ++ joined records :=
  List.flatMap_cons

theorem joined_eq_nil {records : List Record}
    (complete : ∀ record ∈ records, record.Complete terminator) :
    joined records = [] ↔ records = [] := by
  cases records with
  | nil => simp [joined]
  | cons record records =>
    have filled := (complete record List.mem_cons_self).filled
    simp [joined_cons, filled]

theorem exists_complete (terminator : UInt8) (bytes : Bytes) :
    ∃ records tail, joined records ++ tail = bytes ∧
      (∀ record ∈ records, record.Complete terminator) ∧ terminator ∉ tail := by
  induction bytes with
  | nil => exact ⟨[], [], rfl, nofun, List.not_mem_nil⟩
  | cons byte bytes ih =>
    obtain ⟨records, tail, rfl, complete, unended⟩ := ih
    by_cases ends : byte = terminator
    · subst ends
      have short : Record.Complete byte ⟨[byte]⟩ := ⟨[], rfl, List.not_mem_nil⟩
      exact ⟨⟨[byte]⟩ :: records, tail, rfl, List.forall_mem_cons.mpr ⟨short, complete⟩, unended⟩
    · have other : terminator ≠ byte := Ne.symm ends
      cases records with
      | nil =>
        refine ⟨[], byte :: tail, rfl, nofun, ?_⟩
        exact List.not_mem_cons_of_ne_of_not_mem other unended
      | cons record records =>
        obtain ⟨first, others⟩ := List.forall_mem_cons.mp complete
        obtain ⟨body, ended, free⟩ := first
        have longer : Record.Complete terminator ⟨byte :: record.bytes⟩ :=
          ⟨byte :: body, congrArg (byte :: ·) ended, List.not_mem_cons_of_ne_of_not_mem other free⟩
        refine ⟨⟨byte :: record.bytes⟩ :: records, tail, ?_, ?_, unended⟩
        · simp [joined_cons]
        · exact List.forall_mem_cons.mpr ⟨longer, others⟩

namespace Reading

variable {reading : Reading UInt8}

theorem follow_unended {bytes : Bytes} (unended : terminator ∉ bytes) (reading : Reading UInt8) :
    (bytes.map .item).foldl (follow (· == terminator)) reading =
      { reading with tail := reading.tail ++ bytes } := by
  induction bytes generalizing reading with
  | nil => simp
  | cons byte bytes ih =>
    obtain ⟨other, rest⟩ := not_or.mp (mt List.mem_cons.mpr unended)
    have next : reading.follow (· == terminator) (.item byte) =
        { reading with tail := reading.tail ++ [byte] } :=
      if_neg (by simpa using Ne.symm other)
    rw [List.map_cons, List.foldl_cons, next, ih rest]
    simp

theorem follow_complete {records : List Record}
    (complete : ∀ record ∈ records, record.Complete terminator) (begins : reading.tail = []) :
    ((joined records).map .item).foldl (follow (· == terminator)) reading =
      { reading with records := reading.records ++ records.map Record.bytes } := by
  induction records generalizing reading with
  | nil => simp [joined]
  | cons record records ih =>
    obtain ⟨⟨body, ended, free⟩, others⟩ := List.forall_mem_cons.mp complete
    have first : ((record.bytes).map .item).foldl (follow (· == terminator)) reading =
        { reading with records := reading.records ++ [record.bytes] } := by
      rw [ended, List.map_append, List.foldl_append, follow_unended free, begins]
      simp [follow]
    have still : ({ reading with records := reading.records ++ [record.bytes] } :
        Reading UInt8).tail = [] := begins
    rw [joined_cons, List.map_append, List.foldl_append, first, ih others still]
    simp

theorem of_complete {records : List Record} {tail : Bytes}
    (complete : ∀ record ∈ records, record.Complete terminator) (unended : terminator ∉ tail) :
    of (· == terminator) ((joined records ++ tail).map .item) =
      ⟨tail, records.map Record.bytes, []⟩ := by
  rw [of, List.map_append, List.foldl_append, follow_complete complete rfl, follow_unended unended]
  rfl

structure Parted (reading : Reading UInt8) (terminator : UInt8) : Prop where
  tail : terminator ∉ reading.tail
  records : ∀ record ∈ reading.records, Record.Complete terminator ⟨record⟩

theorem Parted.follow (parted : reading.Parted terminator) (token : Token UInt8) :
    (reading.follow (· == terminator) token).Parted terminator := by
  cases token with
  | item byte =>
    by_cases ends : byte = terminator
    · have last : reading.follow (· == terminator) (.item byte) =
          { reading with tail := [], records := reading.records ++ [reading.tail ++ [byte]] } :=
        if_pos (beq_iff_eq.mpr ends)
      rw [last]
      have made : Record.Complete terminator ⟨reading.tail ++ [byte]⟩ :=
        ⟨reading.tail, by rw [ends], parted.tail⟩
      refine ⟨List.not_mem_nil, fun record inside => ?_⟩
      rcases List.mem_append.mp inside with old | new
      · exact parted.records record old
      · rw [List.mem_singleton.mp new]
        exact made
    · have next : reading.follow (· == terminator) (.item byte) =
          { reading with tail := reading.tail ++ [byte] } := if_neg (by simpa using ends)
      rw [next]
      refine ⟨?_, parted.records⟩
      simp [parted.tail, Ne.symm ends]
  | lost => exact ⟨List.not_mem_nil, parted.records⟩
  | cleared => exact ⟨List.not_mem_nil, List.forall_mem_nil _⟩

theorem of_parted (terminator : UInt8) (tokens : List (Token UInt8)) :
    (of (· == terminator) tokens).Parted terminator := by
  have begins : ({} : Reading UInt8).Parted terminator :=
    ⟨List.not_mem_nil, List.forall_mem_nil _⟩
  rw [of]
  generalize ({} : Reading UInt8) = reading at begins ⊢
  induction tokens generalizing reading with
  | nil => exact begins
  | cons token tokens ih => exact ih _ (begins.follow token)

end Reading

theorem complete_unique {records others : List Record} {tail rest : Bytes}
    (complete : ∀ record ∈ records, record.Complete terminator) (unended : terminator ∉ tail)
    (likewise : ∀ record ∈ others, record.Complete terminator) (free : terminator ∉ rest)
    (same : joined records ++ tail = joined others ++ rest) : records = others ∧ tail = rest := by
  have read := Reading.of_complete complete unended
  rw [same, Reading.of_complete likewise free] at read
  obtain ⟨tails, bytes, _⟩ := Reading.mk.inj read
  exact ⟨Record.map_bytes_inj.mp bytes.symm, tails.symm⟩

theorem Pending.append_bytewise (pending : Pending) (records : List Bytes) (chunk : Bytes) :
    (chunk.map .item).foldl (Reading.follow (· == pending.terminator)) ⟨pending.bytes, records, []⟩ =
      ⟨(pending.append chunk).1.bytes,
        records ++ (pending.append chunk).2.records.map Record.bytes, []⟩ :=
  Reading.follow_append (show pending.bytes = (⟨_, records, []⟩ : Reading UInt8).tail from rfl) chunk

theorem Pending.append_parts {pending : Pending} {records : List Record} {chunk tail : Bytes}
    (begun : pending.terminator ∉ pending.bytes)
    (complete : ∀ record ∈ records, record.Complete pending.terminator)
    (unended : pending.terminator ∉ tail) (parts : joined records ++ tail = pending.bytes ++ chunk) :
    (pending.append chunk).2.records = records ∧ (pending.append chunk).1.bytes = tail := by
  have before : (pending.bytes.map .item).foldl (Reading.follow (· == pending.terminator)) {} =
      ⟨pending.bytes, [], []⟩ := Reading.follow_unended begun {}
  have read := Reading.of_complete complete unended
  rw [parts, Reading.of, List.map_append, List.foldl_append, before, append_bytewise] at read
  obtain ⟨tails, made, _⟩ := Reading.mk.inj read
  exact ⟨Record.map_bytes_inj.mp made, tails⟩

-- Complete records written where nothing is under way are completed as they are, and nothing is
-- under way behind them.
theorem Pending.append_complete {pending : Pending} {records : List Record}
    (complete : ∀ record ∈ records, record.Complete pending.terminator)
    (none : pending.bytes = []) :
    (pending.append (joined records)).2.records = records ∧
      (pending.append (joined records)).1.bytes = [] :=
  append_parts (none ▸ List.not_mem_nil) complete List.not_mem_nil (by simp [none])

theorem count_joined {records : List Record}
    (complete : ∀ record ∈ records, record.Complete terminator) :
    (joined records).count terminator = records.length := by
  induction records with
  | nil => rfl
  | cons record records ih =>
    obtain ⟨⟨body, ended, free⟩, others⟩ := List.forall_mem_cons.mp complete
    rw [joined_cons, List.count_append, ih others, ended, List.count_append,
      List.count_eq_zero.mpr free, List.count_singleton_self, List.length_cons]
    omega

end CircularLog
