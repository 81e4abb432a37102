import CircularLog.Replay
import CircularLog.Proofs.Chunking
import CircularLog.Proofs.Complete
import CircularLog.Proofs.Cuts
import CircularLog.Proofs.Drain

namespace CircularLog

theorem Position.ahead_complete {records : List Record} {terminator : UInt8}
    (complete : ∀ record ∈ records, record.Complete terminator) (cursor : Nat) :
    ∀ part ∈ ahead records cursor, Record.Complete terminator ⟨part⟩ := by
  induction records generalizing cursor with
  | nil => exact List.forall_mem_nil _
  | cons record records ih =>
    obtain ⟨first, others⟩ := List.forall_mem_cons.mp complete
    rw [ahead]
    split
    · rename_i inside
      refine List.forall_mem_cons.mpr ⟨first.drop inside, ?_⟩
      exact List.forall_mem_map.mpr others
    · exact ih others _

namespace Replay

def Table.next (table : Table) : Nat :=
  match table.rows with
  | [] => 0
  | last :: _ => last.index + 1

-- The next piece begins a row.
def Table.Settled (table : Table) : Prop :=
  ∀ last ∈ table.rows.head?, last.ends = true

def Table.begun (table : Table) : Table :=
  ⟨⟨table.next, table.cursor, 0, ""⟩ :: table.rows, table.cursor⟩

def listed (size index offset : Nat) : List Bytes → List Row
  | [] => []
  | part :: parts =>
    ⟨index, offset, part.length, Utf8.pieced size part⟩ ::
      listed size (index + 1) (offset + part.length) parts

variable {table : Table} {row : Row} {others : List Row} {size cursor : Nat}
  {part piece : Bytes}

theorem Row.ends_iff : row.ends = true ↔ row.text.toList.getLast? = some '\n' :=
  beq_iff_eq

theorem add_settled (settled : table.Settled) (piece : Bytes) :
    table.add piece = table.begun.add piece := by
  obtain ⟨rows, cursor⟩ := table
  cases rows with
  | nil => simp [Table.add, Table.begun, Table.next, Row.ends]
  | cons last others =>
    have ended : last.ends = true := settled last rfl
    simp [Table.add, Table.begun, Table.next, ended, Row.ends_iff]

theorem add_open (opened : row.ends = false) (piece : Bytes) :
    Table.add ⟨row :: others, cursor⟩ piece =
      ⟨{ row with size := row.size + piece.length, text := row.text ++ Utf8.lossy piece } :: others,
        cursor + piece.length⟩ := by
  simp [Table.add, opened]

-- A piece from the middle of a record does not end its row.
theorem open_behind (filled : piece ≠ []) (unended : 10 ∉ piece) (length : Nat) :
    ({ row with size := length, text := row.text ++ Utf8.lossy piece } : Row).ends = false := by
  rw [Bool.eq_false_iff]
  intro ended
  have last := (Utf8.ends_behind row.text filled).mp (Row.ends_iff.mp ended)
  exact unended (List.mem_of_getLast? last)

-- The pieces of a record all join the row of the first of them.
theorem foldl_part (positive : 0 < size) (complete : Record.Complete 10 ⟨part⟩)
    (opened : row.ends = false) :
    (Chunks.cut size part).foldl Table.add ⟨row :: others, cursor⟩ =
      ⟨{ row with size := row.size + part.length, text := row.text ++ Utf8.pieced size part } ::
        others, cursor + part.length⟩ := by
  induction part using Utf8.cut_induction positive generalizing row cursor with
  | nil => exact absurd rfl complete.filled
  | step part filled ih =>
    rw [Chunks.cut_step positive filled, List.foldl_cons, add_open opened,
      Utf8.pieced_step positive filled]
    rcases complete.cut positive with ⟨all, none⟩ | ⟨some, unended, rest⟩
    · rw [none, all]
      simp [Utf8.pieced]
    · have parts := congrArg List.length (List.take_append_drop size part)
      rw [List.length_append] at parts
      rw [ih rest (open_behind some unended _), ← parts]
      simp [Nat.add_assoc, String.append_assoc]

theorem foldl_record (positive : 0 < size) (settled : table.Settled)
    (complete : Record.Complete 10 ⟨part⟩) :
    (Chunks.cut size part).foldl Table.add table =
      ⟨⟨table.next, table.cursor, part.length, Utf8.pieced size part⟩ :: table.rows,
        table.cursor + part.length⟩ := by
  have first := Chunks.cut_step positive complete.filled
  have begun : (Chunks.cut size part).foldl Table.add table =
      (Chunks.cut size part).foldl Table.add table.begun := by
    rw [first, List.foldl_cons, List.foldl_cons, add_settled settled]
  rw [begun, Table.begun, foldl_part positive complete rfl]
  simp

theorem pieced_ends (positive : 0 < size) (complete : Record.Complete 10 ⟨part⟩) :
    (Utf8.pieced size part).toList.getLast? = some '\n' := by
  have filled : part ≠ [] := complete.filled
  obtain ⟨body, whole, _⟩ := complete
  have last : part.getLast? = some 10 := by
    rw [show part = body ++ [10] from whole]
    exact List.getLast?_concat
  have ends := (Utf8.pieced_ends positive "" filled).mpr last
  rwa [String.empty_append] at ends

theorem foldl_records (positive : 0 < size) {parts : List Bytes}
    (complete : ∀ part ∈ parts, Record.Complete 10 ⟨part⟩) (settled : table.Settled) :
    (parts.flatMap (Chunks.cut size)).foldl Table.add table =
      ⟨(listed size table.next table.cursor parts).reverse ++ table.rows,
        table.cursor + parts.flatten.length⟩ := by
  induction parts generalizing table with
  | nil => simp [listed]
  | cons part parts ih =>
    obtain ⟨first, others⟩ := List.forall_mem_cons.mp complete
    rw [List.flatMap_cons, List.foldl_append, foldl_record positive settled first, ih others]
    · simp [listed, Table.next, Nat.add_assoc]
    · rintro last ⟨⟩
      exact Row.ends_iff.mpr (pieced_ends positive first)

section

variable {channel : Channel}

theorem rows_ahead (current : channel.session.Current channel.shared.log)
    (free : channel.session.handle.any channel.shared.gate.flags.isRaised = false)
    (fits : channel.shared.log.heldBytes < 2 ^ 64)
    (complete : ∀ record ∈ channel.shared.log.held, record.Complete 10) :
    let cursor := channel.session.cursor.toNat
    (rows channel).2 =
        (listed (64 * 1024) 0 cursor (Position.ahead channel.shared.log.held cursor), none) ∧
      (rows channel).1.session.cursor.toNat = max cursor channel.shared.log.heldBytes := by
  intro cursor
  have positive : 0 < 64 * 1024 := by decide
  obtain ⟨read, behind⟩ := Channel.readAll_ahead current free fits positive
  have settled : Table.Settled ⟨[], cursor⟩ := by
    rintro last ⟨⟩
  have parts := Position.ahead_complete complete cursor
  simp only [rows]
  rcases made : channel.readAll (64 * 1024) with ⟨after, pieces, fault⟩
  rw [made] at read behind
  cases read
  refine ⟨?_, behind⟩
  rw [foldl_records positive parts settled]
  simp [Table.next]

end

theorem map_listed_size (size index offset : Nat) (parts : List Bytes) :
    (listed size index offset parts).map Row.size = parts.map List.length := by
  induction parts generalizing index offset with
  | nil => rfl
  | cons part parts ih => simp [listed, ih]

theorem map_listed_text (size index offset : Nat) (parts : List Bytes) :
    (listed size index offset parts).map Row.text = parts.map (Utf8.pieced size) := by
  induction parts generalizing index offset with
  | nil => rfl
  | cons part parts ih => simp [listed, ih]

theorem map_listed_index (size index offset : Nat) (parts : List Bytes) :
    (listed size index offset parts).map Row.index = List.range' index parts.length := by
  induction parts generalizing index offset with
  | nil => rfl
  | cons part parts ih => simp [listed, ih, List.range'_succ]

theorem map_listed_offset (size index offset : Nat) (parts : List Bytes) :
    (listed size index offset parts).map Row.offset =
      (List.range parts.length).map fun count => offset + (parts.take count).flatten.length := by
  induction parts generalizing index offset with
  | nil => rfl
  | cons part parts ih =>
    simp [listed, ih, List.range_succ_eq_map, Function.comp_def, Nat.add_assoc]

end Replay

theorem Position.ahead_offset {records : List Record} {cursor : Nat} {location : Location}
    (found : locate? records cursor = some location) (count : Nat) :
    cursor + ((ahead records cursor).take (count + 1)).flatten.length =
      totalSize (records.take (location.index + 1 + count)) := by
  obtain ⟨present, inside, place⟩ := locate?_some.mp found
  have left : location.remaining.length = location.record.size - location.offset :=
    List.length_drop
  have others :
      (((records.drop (location.index + 1)).map Record.bytes).take count).flatten.length =
        totalSize ((records.drop (location.index + 1)).take count) := by
    rw [← List.map_take, ← length_joined]
    rfl
  rw [ahead_some found, List.take_succ_cons, List.flatten_cons, List.length_append, others,
    List.take_add, totalSize_append, totalSize_take_succ present]
  omega

theorem Log.Follows.complete {log : Log} {reading : Reading UInt8} {terminator : UInt8}
    (follows : log.Follows reading) (parted : reading.Parted terminator) :
    ∀ record ∈ log.held, record.Complete terminator := by
  intro record held
  rw [follows.newest] at held
  obtain ⟨bytes, newest, rfl⟩ := List.mem_map.mp held
  exact parted.records bytes (List.mem_of_mem_drop newest)

namespace Station

-- The table of what a session that was not left behind has still to read has one row for each
-- record held from its cursor on, however many pieces the record was read in. What is held lies in
-- memory, so that a 64-bit cursor can name each byte of it.
theorem rows_are_records {settings : Settings} (valid : settings.check = .ok ())
    (newline : settings.terminator = 10) :
    ∃ start, create settings = .ok start ∧ ∀ calls number session,
      let station := (start.run calls).1
      let log := station.shared.log
      let cursor := session.cursor.toNat
      station.session? number = some session → session.Current log →
      session.handle.any station.shared.gate.flags.isRaised = false → log.heldBytes < 2 ^ 64 →
        let table := Replay.rows ⟨station.shared, session⟩
        let rows := table.2.1
        table.2.2 = none ∧
        (cursor < log.heldBytes → ∃ location, Position.locate? log.held cursor = some location ∧
          let first := location.index + 1
          let others := log.held.drop first
          rows.map Replay.Row.index = List.range (log.held.length - location.index) ∧
          rows.map Replay.Row.size =
            (location.record.size - location.offset) :: others.map Record.size ∧
          rows.map Replay.Row.offset = cursor ::
            (List.range' first others.length).map (fun index => totalSize (log.held.take index)) ∧
          rows.map Replay.Row.text =
            (location.remaining :: others.map Record.bytes).map (Utf8.pieced (64 * 1024)) ∧
          (∀ row ∈ rows, row.text.toList.getLast? = some '\n') ∧
          (rows.map Replay.Row.size).sum = log.heldBytes - cursor ∧
          table.1.session.cursor.toNat = log.heldBytes) ∧
        (log.heldBytes ≤ cursor → rows = []) := by
  refine ⟨_, create_eq valid, ?_⟩
  intro calls number session station log cursor present current free fits
  obtain ⟨_, _, follows⟩ := run_follows valid calls
  have complete : ∀ record ∈ log.held, record.Complete 10 := by
    rw [← newline]
    exact follows.complete (Reading.of_parted _ _)
  obtain ⟨told, behind⟩ := @Replay.rows_ahead ⟨station.shared, session⟩ current free fits complete
  intro table rows
  have listed : rows = Replay.listed (64 * 1024) 0 cursor (Position.ahead log.held cursor) :=
    congrArg Prod.fst told
  refine ⟨congrArg Prod.snd told, ?_, ?_⟩
  · intro before
    obtain ⟨location, found⟩ := Position.locate?_before before
    obtain ⟨inside, _⟩ := List.getElem?_eq_some_iff.mp (Position.locate?_some.mp found).1
    have parts := Position.ahead_some found
    have count : (Position.ahead log.held cursor).length = log.held.length - location.index := by
      rw [parts, List.length_cons, List.length_map, List.length_drop]
      omega
    have ends := Position.ahead_complete complete cursor
    refine ⟨location, found, ?_, ?_, ?_, ?_, ?_, ?_, ?_⟩
    · rw [listed, Replay.map_listed_index, count, List.range_eq_range']
    · rw [listed, Replay.map_listed_size, parts, List.map_cons, List.map_map, Location.remaining,
        List.length_drop]
      rfl
    · have more : log.held.length - location.index =
          (log.held.drop (location.index + 1)).length + 1 := by
        rw [List.length_drop]
        omega
      rw [listed, Replay.map_listed_offset, count, more, List.range_succ_eq_map, List.map_cons,
        List.range'_eq_map_range, List.map_map, List.map_map]
      refine congrArg₂ List.cons rfl (List.map_congr_left ?_)
      intro number _
      exact Position.ahead_offset found number
    · rw [listed, Replay.map_listed_text, parts]
    · intro row inside
      have text := List.mem_map_of_mem (f := Replay.Row.text) inside
      rw [listed, Replay.map_listed_text] at text
      obtain ⟨part, ahead, same⟩ := List.mem_map.mp text
      rw [← same]
      exact Replay.pieced_ends (by decide) (ends part ahead)
    · rw [listed, Replay.map_listed_size, ← List.length_flatten, Position.flatten_ahead,
        List.length_drop, length_joined]
      rfl
    · exact behind.trans (Nat.max_eq_right (Nat.le_of_lt before))
  · intro past
    rw [listed, Position.ahead_past past]
    rfl

theorem rows_of_two_records :
    let settings : Settings := ⟨2, 10, true, 1⟩
    let calls : List Call :=
      [.openSession, .session 0 (.write [97, 98, 10, 99, 10, 100]), .session 0 (.read 1)]
    settings.check = .ok () ∧ settings.terminator = 10 ∧ ∃ start, create settings = .ok start ∧
      ∃ session, (start.run calls).1.session? 0 = some session ∧
        let table := Replay.rows ⟨(start.run calls).1.shared, session⟩
        let rows := table.2.1
        table.2.2 = none ∧ rows.map Replay.Row.size = [2, 2] ∧
          rows.map Replay.Row.offset = [1, 3] ∧
          (∀ row ∈ rows, row.text.toList.getLast? = some '\n') ∧
          table.1.session.cursor.toNat = 5 := by
  intro settings calls
  have valid : settings.check = .ok () := rfl
  obtain ⟨start, created, tabled⟩ := rows_are_records valid rfl
  have same : start = fresh settings := Except.ok.inj (created.symm.trans (create_eq valid))
  have present : (start.run calls).1.session? 0 = some ⟨⟨1⟩, some (.session 0), 1, 0, false⟩ := by
    rw [same]
    decide +kernel
  have lowered : (start.run calls).1.shared.gate.flags.isRaised (.session 0) = false := by
    rw [same]
    decide +kernel
  have generation : (start.run calls).1.shared.log.generation = 0 := by
    rw [same]
    decide +kernel
  have held : (start.run calls).1.shared.log.held = [⟨[97, 98, 10]⟩, ⟨[99, 10]⟩] := by
    rw [same]
    decide +kernel
  have bytes : (start.run calls).1.shared.log.heldBytes = 5 := congrArg totalSize held
  refine ⟨valid, rfl, start, created, _, present, ?_⟩
  obtain ⟨well, table, _⟩ := tabled calls 0 _ present (.inr generation.symm) lowered
    (by rw [bytes]; decide)
  obtain ⟨location, found, _, sizes, offsets, _, ends, _, behind⟩ := table (by rw [bytes]; decide)
  rw [held] at found sizes offsets
  cases found
  exact ⟨well, sizes, offsets, ends, behind.trans bytes⟩

end Station

end CircularLog
