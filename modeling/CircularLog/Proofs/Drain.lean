import CircularLog.Chunks
import CircularLog.Proofs.Sequel

namespace CircularLog

namespace Position

variable {records : List Record} {location : Location} {cursor size : Nat}

-- What is held from a cursor on, record by record.
def ahead : List Record → Nat → List Bytes
  | [], _ => []
  | record :: records, cursor =>
    if cursor < record.size then record.bytes.drop cursor :: records.map Record.bytes
    else ahead records (cursor - record.size)

theorem ahead_past (past : totalSize records ≤ cursor) : ahead records cursor = [] := by
  induction records generalizing cursor with
  | nil => rfl
  | cons record records ih =>
    rw [totalSize_cons] at past
    have outside : ¬ cursor < record.size := by omega
    rw [ahead, if_neg outside]
    apply ih
    omega

theorem ahead_zero (filled : ∀ record ∈ records, record.bytes ≠ []) :
    ahead records 0 = records.map Record.bytes := by
  cases records with
  | nil => rfl
  | cons record records =>
    have some : 0 < record.size := List.length_pos_iff.mpr (filled record List.mem_cons_self)
    exact if_pos some

theorem flatten_ahead (records : List Record) (cursor : Nat) :
    (ahead records cursor).flatten = (joined records).drop cursor := by
  induction records generalizing cursor with
  | nil => simp [ahead, joined]
  | cons record records ih =>
    have first : joined (record :: records) = record.bytes ++ joined records := List.flatMap_cons
    rw [ahead, first, List.drop_append]
    split
    · rename_i inside
      have none : cursor - record.bytes.length = 0 := Nat.sub_eq_zero_of_le (Nat.le_of_lt inside)
      simp [none, joined, List.flatMap]
    · rename_i outside
      rw [ih, List.drop_eq_nil_of_le (Nat.le_of_not_lt outside)]
      rfl

theorem aheadFrom_some {first : Nat} (found : locateFrom first records cursor = some location) :
    ahead records cursor = location.remaining ::
      (records.drop (location.index + 1 - first)).map Record.bytes := by
  induction records generalizing first cursor with
  | nil => cases found
  | cons record records ih =>
    rw [ahead]
    unfold locateFrom at found
    split at found
    · rename_i inside
      cases found
      rw [if_pos inside, Nat.add_sub_cancel_left]
      rfl
    · rename_i outside
      obtain ⟨index, number, _⟩ := locateFrom_some.mp found
      have count : location.index + 1 - first = location.index + 1 - (first + 1) + 1 := by omega
      rw [if_neg outside, ih found, count]
      rfl

theorem ahead_some (found : locate? records cursor = some location) :
    ahead records cursor =
      location.remaining :: (records.drop (location.index + 1)).map Record.bytes :=
  aheadFrom_some found

theorem cut_ahead_zero (records : List Record) (size : Nat) :
    (ahead records 0).flatMap (Chunks.cut size) =
      (records.map Record.bytes).flatMap (Chunks.cut size) := by
  induction records with
  | nil => rfl
  | cons record records ih =>
    rw [ahead]
    split
    · rfl
    · rename_i empty
      have none : record.bytes = [] := List.eq_nil_of_length_eq_zero (Nat.eq_zero_of_not_pos empty)
      simp [ih, none]

-- A piece is cut off what is ahead, and what is ahead of the cursor behind it is cut on.
theorem cut_aheadFrom {first : Nat} (positive : 0 < size)
    (found : locateFrom first records cursor = some location) :
    let piece := location.remaining.take size
    (ahead records cursor).flatMap (Chunks.cut size) =
      piece :: (ahead records (cursor + piece.length)).flatMap (Chunks.cut size) := by
  induction records generalizing first cursor with
  | nil => cases found
  | cons record records ih =>
    intro piece
    unfold locateFrom at found
    rw [ahead, ahead]
    split at found
    · rename_i inside
      cases found
      have left : (record.bytes.drop cursor).length = record.size - cursor := List.length_drop
      have some : record.bytes.drop cursor ≠ [] := by
        rw [← List.length_pos_iff, left]
        exact Nat.sub_pos_of_lt inside
      have count : piece.length = min size (record.size - cursor) := by
        rw [← left]
        exact List.length_take
      rw [if_pos inside, List.flatMap_cons, Chunks.cut_step positive some]
      -- A full piece leaves the rest of its record ahead; a shorter one is the last of the record.
      split
      · have whole : piece.length = size := by omega
        rw [whole, List.drop_drop]
        rfl
      · have last : (record.bytes.drop cursor).drop size = [] := by
          rw [List.drop_eq_nil_iff, left]
          omega
        have next : cursor + piece.length - record.size = 0 := by omega
        rw [last, next, cut_ahead_zero, Chunks.cut_nil]
        rfl
    · rename_i outside
      have further : ¬ cursor + piece.length < record.size := by omega
      have onward : cursor + piece.length - record.size = cursor - record.size + piece.length := by
        omega
      rw [if_neg outside, if_neg further, onward]
      exact ih found

end Position

namespace Channel

variable {channel : Channel}

def readOn (channel : Channel) (size : Nat) : Channel :=
  ⟨channel.shared.adjust fun log => (log.read channel.session.cursor size channel.since).1,
    channel.session.advanced channel.shared.log size⟩

theorem read_current (current : channel.session.Current channel.shared.log)
    (free : channel.session.handle.any channel.shared.gate.flags.isRaised = false) (size : Nat) :
    channel.read size = (channel.readOn size,
      .ok (channel.shared.log.piece channel.session.cursor.toNat size)) := by
  have found := channel.shared.log.read_piece channel.session.cursor size current.since
  have since : channel.since = channel.session.since channel.shared.log := rfl
  simp only [Channel.read, SharedLog.read, SharedLog.enter_free free]
  rw [since, found]
  rfl

theorem readOn_held (channel : Channel) (size : Nat) :
    (channel.readOn size).shared.log.held = channel.shared.log.held :=
  (Log.read_still _ _ _ _).held_eq

theorem readOn_readsOn (current : channel.session.Current channel.shared.log)
    (fits : channel.shared.log.heldBytes < 2 ^ 64) (size : Nat) :
    channel.session.ReadsOn (channel.shared.log.piece channel.session.cursor.toNat size)
      (channel.readOn size).shared.log (channel.readOn size).session :=
  @Station.readOn_readsOn ⟨channel.shared, []⟩ channel.session 0 current fits size

section

variable {size budget : Nat}

theorem drain_done (current : channel.session.Current channel.shared.log)
    (free : channel.session.handle.any channel.shared.gate.flags.isRaised = false)
    (found : Position.locate? channel.shared.log.held channel.session.cursor.toNat = none)
    (pieces : List Bytes) :
    channel.drain size pieces (budget + 1) = (channel.readOn size, pieces.reverse, none) := by
  have piece : channel.shared.log.piece channel.session.cursor.toNat size = [] := by
    rw [Log.piece, found]
  rw [drain, read_current current free, piece]
  rfl

theorem drain_more (current : channel.session.Current channel.shared.log)
    (free : channel.session.handle.any channel.shared.gate.flags.isRaised = false)
    (filled : 0 < size) {location : Location}
    (found : Position.locate? channel.shared.log.held channel.session.cursor.toNat = some location)
    (pieces : List Bytes) :
    channel.drain size pieces (budget + 1) =
      (channel.readOn size).drain size (location.remaining.take size :: pieces) budget := by
  have piece : channel.shared.log.piece channel.session.cursor.toNat size =
      location.remaining.take size := by
    rw [Log.piece, found]
  have some : location.remaining.take size ≠ [] := by
    intro nothing
    rcases List.take_eq_nil_iff.mp nothing with zero | none
    · exact absurd zero (Nat.ne_of_gt filled)
    · exact (Position.remaining_eq found).1 none
  rw [drain, read_current current free, piece]
  exact if_neg (mt List.isEmpty_iff.mp some)

-- Every read but the last brings the next piece and leaves less to be read.
theorem drain_ahead (current : channel.session.Current channel.shared.log)
    (free : channel.session.handle.any channel.shared.gate.flags.isRaised = false)
    (fits : channel.shared.log.heldBytes < 2 ^ 64) (filled : 0 < size)
    (enough : channel.shared.log.heldBytes - channel.session.cursor.toNat < budget)
    (pieces : List Bytes) :
    let result := channel.drain size pieces budget
    let ahead := Position.ahead channel.shared.log.held channel.session.cursor.toNat
    result.2 = (pieces.reverse ++ ahead.flatMap (Chunks.cut size), none) ∧
      result.1.session.cursor.toNat =
        max channel.session.cursor.toNat channel.shared.log.heldBytes := by
  -- The budget is more than what is left, and each read but the last takes something of both.
  induction budget generalizing channel pieces with
  | zero => exact absurd enough (Nat.not_lt_zero _)
  | succ budget ih =>
    have held := channel.readOn_held size
    have total : (channel.readOn size).shared.log.heldBytes = channel.shared.log.heldBytes :=
      congrArg totalSize held
    obtain ⟨stays, behind, _⟩ := readOn_readsOn current fits size
    rw [Log.piece] at behind
    cases found : Position.locate? channel.shared.log.held channel.session.cursor.toNat with
    | none =>
      have past : channel.shared.log.heldBytes ≤ channel.session.cursor.toNat :=
        Position.locate?_none.mp found
      rw [found] at behind
      rw [drain_done current free found, Position.ahead_past past]
      refine ⟨by simp, ?_⟩
      rw [Nat.max_eq_left past]
      exact behind
    | some location =>
      obtain ⟨_, inside, place⟩ := Position.locate?_some.mp found
      have before : channel.session.cursor.toNat < channel.shared.log.heldBytes := by
        rw [← Nat.not_le]
        intro past
        cases found.symm.trans (Position.locate?_none.mpr past)
      have left : 0 < (location.remaining.take size).length := by
        rw [List.length_take, Location.remaining, List.length_drop]
        unfold Record.size at inside
        omega
      rw [found] at behind
      dsimp only at behind
      have less : (channel.readOn size).shared.log.heldBytes -
          (channel.readOn size).session.cursor.toNat < budget := by
        rw [total, behind]
        omega
      have parts := Position.cut_aheadFrom filled found
      obtain ⟨pieces, cursor⟩ :=
        ih stays free (total ▸ fits) less (location.remaining.take size :: pieces)
      rw [held, behind] at pieces
      rw [total, behind] at cursor
      rw [drain_more current free filled found]
      refine ⟨?_, ?_⟩
      · rw [pieces, parts]
        simp
      · have within := (Position.locate?_found found).length_le
        rw [List.length_drop, length_joined] at within
        have short := List.length_take_le' size location.remaining
        rw [cursor, Nat.max_eq_right (Nat.le_of_lt before)]
        apply Nat.max_eq_right
        unfold Log.heldBytes at before ⊢
        omega

end

theorem readAll_ahead (current : channel.session.Current channel.shared.log)
    (free : channel.session.handle.any channel.shared.gate.flags.isRaised = false)
    (fits : channel.shared.log.heldBytes < 2 ^ 64) {size : Nat} (filled : 0 < size) :
    let ahead := Position.ahead channel.shared.log.held channel.session.cursor.toNat
    (channel.readAll size).2 = (ahead.flatMap (Chunks.cut size), none) ∧
      (channel.readAll size).1.session.cursor.toNat =
        max channel.session.cursor.toNat channel.shared.log.heldBytes :=
  drain_ahead current free fits filled (Nat.lt_succ_of_le (Nat.sub_le _ _)) []

end Channel

end CircularLog
