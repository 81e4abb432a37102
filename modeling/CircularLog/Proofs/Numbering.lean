import CircularLog.Proofs.Texts

namespace CircularLog

namespace Replay

theorem listed_some {parts : List Bytes} {part : Bytes} {count : Nat}
    (found : parts[count]? = some part) (size index offset : Nat) :
    (listed size index offset parts)[count]? = some ⟨index + count,
      offset + (parts.take count).flatten.length, part.length, Utf8.pieced size part⟩ := by
  induction parts generalizing index offset count with
  | nil => cases found
  | cons first parts ih =>
    cases count with
    | zero =>
      cases found
      rfl
    | succ count =>
      rw [List.getElem?_cons_succ] at found
      rw [listed, List.getElem?_cons_succ, ih found]
      simp [Nat.add_assoc, Nat.add_comm 1]

theorem length_listed (size index offset : Nat) (parts : List Bytes) :
    (listed size index offset parts).length = parts.length := by
  induction parts generalizing index offset with
  | nil => rfl
  | cons part parts ih => simp [listed, ih]

-- The record that a replay starts in, and how much of it is left out.
inductive Begins (held : List Record) : Option String → Nat → Nat → Prop where
  | whole : Begins held none 0 0
  | place {text : String} {first skipped : Nat} {record : Record}
      (spelled : Replay.place text = .ok (first, skipped))
      (found : held[first]? = some record) (inside : skipped < record.size) :
      Begins held (some text) first skipped

variable {held : List Record} {place : Option String} {first skipped : Nat}

theorem Begins.starts (begins : Begins held place first skipped) :
    Starts held place (totalSize (held.take first) + skipped) := by
  cases begins with
  | whole => exact .whole
  | place spelled found inside => exact .place spelled (Position.cursorOf_inside found inside)

-- What a row leaves out of its record.
def omitted (skipped : Nat) : Nat → Nat
  | 0 => skipped
  | _ + 1 => 0

end Replay

namespace Position

variable {held : List Record} {first skipped count : Nat} {record : Record}

theorem ahead_numbered (some : skipped < record.size)
    (found : held[first]? = Option.some record) {other : Record}
    (there : held[first + count]? = Option.some other) :
    let cursor := totalSize (held.take first) + skipped
    let omitted := Replay.omitted skipped count
    (ahead held cursor)[count]? = Option.some (other.bytes.drop omitted) ∧
      cursor + ((ahead held cursor).take count).flatten.length =
        totalSize (held.take (first + count)) + omitted := by
  intro cursor omitted
  have located : locate? held cursor = Option.some ⟨first, skipped, record⟩ :=
    locate?_some.mpr ⟨found, some, rfl⟩
  cases count with
  | zero =>
    rw [Nat.add_zero] at there
    cases found.symm.trans there
    rw [ahead_some located]
    exact ⟨rfl, rfl⟩
  | succ count =>
    have next : first + 1 + count = first + (count + 1) := by omega
    have behind := ahead_offset located count
    dsimp only at behind
    rw [next] at behind
    refine ⟨?_, behind⟩
    rw [ahead_some located, List.getElem?_cons_succ, List.getElem?_map, List.getElem?_drop, next,
      there]
    rfl

theorem length_ahead (some : skipped < record.size) (found : held[first]? = Option.some record) :
    (ahead held (totalSize (held.take first) + skipped)).length = held.length - first := by
  have located : locate? held (totalSize (held.take first) + skipped) =
      Option.some ⟨first, skipped, record⟩ := locate?_some.mpr ⟨found, some, rfl⟩
  have inside := (List.getElem?_eq_some_iff.mp found).1
  rw [ahead_some located, List.length_cons, List.length_map, List.length_drop]
  exact Nat.sub_add_cancel (Nat.sub_pos_of_lt inside)

end Position

theorem joined_drop (records : List Record) (index : Nat) :
    (joined records).drop (totalSize (records.take index)) = joined (records.drop index) := by
  have parts : joined (records.take index) ++ joined (records.drop index) = joined records := by
    rw [← joined_append, List.take_append_drop]
  rw [← parts, ← length_joined, List.drop_left]

namespace Replay

variable {held : List Record} {place : Option String} {first skipped : Nat}

theorem Begins.record (begins : Begins held place first skipped)
    (filled : ∀ record ∈ held, 0 < record.size) :
    (held = [] ∧ first = 0) ∨
      ∃ record, held[first]? = some record ∧ skipped < record.size := by
  cases begins with
  | whole =>
    cases held with
    | nil => exact .inl ⟨rfl, rfl⟩
    | cons record held => exact .inr ⟨record, rfl, filled record List.mem_cons_self⟩
  | place spelled found inside => exact .inr ⟨_, found, inside⟩

theorem Begins.rows (begins : Begins held place first skipped)
    (filled : ∀ record ∈ held, 0 < record.size) (size : Nat) :
    let cursor := totalSize (held.take first) + skipped
    let rows := listed size 0 cursor (Position.ahead held cursor)
    rows.length = held.length - first ∧
      ∀ count record, held[first + count]? = some record →
        let omitted := omitted skipped count
        rows[count]? = some ⟨count, totalSize (held.take (first + count)) + omitted,
          record.size - omitted, Utf8.pieced size (record.bytes.drop omitted)⟩ := by
  rcases begins.record filled with ⟨empty, zero⟩ | ⟨start, found, inside⟩
  · rw [empty, zero]
    exact ⟨rfl, nofun⟩
  · refine ⟨(length_listed _ _ _ _).trans (Position.length_ahead inside found), ?_⟩
    intro count record there omitted
    obtain ⟨part, offset⟩ := Position.ahead_numbered inside found there
    rw [listed_some part, offset, Nat.zero_add, List.length_drop]
    rfl

end Replay

theorem Position.cursorOf_first {held : List Record} {index cursor : Nat} {record : Record}
    (found : held[index]? = some record) (filled : 0 < record.size) :
    cursorOf held index 0 = .ok cursor ↔ totalSize (held.take index) = cursor := by
  rw [cursorOf_inside found filled, Except.ok.injEq, Nat.add_zero]

namespace CommandLine.Invocation

-- The rows of a replay are numbered from its place on, and an offset is that of the first byte
-- shown. So a row has the number of its record if the replay starts in the first record held, and
-- the cursor of its record unless the front of it is left out. A replay from the first byte of a
-- record starts at the record of that number among those held.
theorem rows_count_from_the_place (source : Bytes) :
    ∃ records tail, joined records ++ tail = source ∧
      (∀ record ∈ records, record.Complete 10) ∧ 10 ∉ tail ∧
      ∀ invocation : Invocation, 0 < invocation.capacity → 0 < invocation.chunkSize →
        let held := records.rtake invocation.capacity
        let replayed (place : Option String) (layout : Layout) :=
          ({ invocation with task := .replay place layout } : Invocation).outcome (.ok source)
        totalSize held < 2 ^ 64 →
          (∀ place first skipped, Replay.Begins held place first skipped →
            ∃ rows : List Replay.Row,
              replayed place .json =
                .printed (Utf8.encode (Json.objects (rows.map Replay.Row.fields)) ++ [10]) ∧
              rows.length = held.length - first ∧
              ∀ count record, held[first + count]? = some record →
                ∃ row, rows[count]? = some row ∧ row.index = count ∧
                  row.offset =
                    totalSize (held.take (first + count)) + Replay.omitted skipped count ∧
                  row.size = record.size - Replay.omitted skipped count ∧
                  (row.index = first + count ↔ first = 0) ∧
                  (Position.cursorOf held (first + count) 0 = .ok row.offset ↔
                    0 < count ∨ skipped = 0)) ∧
          ∀ text index, Replay.place text = .ok (index, 0) → index < held.length →
            replayed (some text) .text = .printed (joined (held.drop index)) := by
  obtain ⟨records, tail, whole, complete, unended⟩ := exists_complete 10 source
  refine ⟨records, tail, whole, complete, unended, ?_⟩
  subst whole
  intro invocation room positive held replayed fits
  have filled : ∀ record ∈ held, 0 < record.size := by
    intro record inside
    exact List.length_pos_iff.mpr (complete record (List.mem_of_mem_drop inside)).filled
  constructor
  · intro place first skipped begins
    obtain ⟨table, _⟩ := replay_prints complete unended room positive rfl fits begins.starts
    obtain ⟨length, rows⟩ := begins.rows filled (64 * 1024)
    refine ⟨_, table, length, ?_⟩
    intro count record there
    have some := filled record (List.mem_of_getElem? there)
    refine ⟨_, rows count record there, rfl, rfl, rfl, ?_, ?_⟩
    · dsimp only
      omega
    · rw [Position.cursorOf_first there some]
      cases count with
      | zero => simp [Replay.omitted]
      | succ count => simp [Replay.omitted]
  · intro text index spelled inside
    have found : held[index]? = some held[index] := List.getElem?_eq_getElem inside
    have some := filled held[index] (List.getElem_mem inside)
    have begins := Replay.Begins.place spelled found some
    obtain ⟨_, plain⟩ := replay_prints complete unended room positive rfl fits begins.starts
    rw [Nat.add_zero, joined_drop] at plain
    exact plain

theorem rows_of_a_later_start :
    let held : List Record := [⟨[98, 99, 10]⟩, ⟨[100, 10]⟩]
    let replayed (place : String) (layout : Layout) :=
      (⟨2, none, 4, false, .replay (some place) layout⟩ : Invocation).outcome
        (.ok [97, 10, 98, 99, 10, 100, 10])
    (∃ row : Replay.Row, replayed "1,0" .json =
        .printed (Utf8.encode (Json.objects [row.fields]) ++ [10]) ∧ row.index = 0 ∧
      Position.cursorOf held 1 0 = .ok row.offset) ∧
    (∃ rows : List Replay.Row, replayed "0,1" .json =
        .printed (Utf8.encode (Json.objects (rows.map Replay.Row.fields)) ++ [10]) ∧
      rows.map Replay.Row.index = [0, 1] ∧ rows.map Replay.Row.offset = [1, 3]) ∧
    replayed "1,0" .text = .printed [100, 10] := by
  intro held replayed
  obtain ⟨records, tail, whole, complete, unended, told⟩ :=
    rows_count_from_the_place [97, 10, 98, 99, 10, 100, 10]
  have made : ∀ record ∈ [(⟨[97, 10]⟩ : Record), ⟨[98, 99, 10]⟩, ⟨[100, 10]⟩],
      record.Complete 10 := by
    refine List.forall_mem_cons.mpr ⟨⟨[97], rfl, by decide⟩, ?_⟩
    refine List.forall_mem_cons.mpr ⟨⟨[98, 99], rfl, by decide⟩, ?_⟩
    exact List.forall_mem_singleton.mpr ⟨[100], rfl, by decide⟩
  obtain ⟨rfl, rfl⟩ := complete_unique complete unended made List.not_mem_nil whole
  have later : Replay.place "1,0" = .ok (1, 0) := by decide +kernel
  have within : Replay.place "0,1" = .ok (0, 1) := by decide +kernel
  obtain ⟨tables, texts⟩ := told ⟨2, none, 4, false, .version⟩ (by decide) (by decide) (by decide)
  have second : Replay.Begins held (some "1,0") 1 0 := .place later rfl (by decide)
  have front : Replay.Begins held (some "0,1") 0 1 := .place within rfl (by decide)
  obtain ⟨last, shown, single, numbers⟩ := tables _ _ _ second
  obtain ⟨row, rfl⟩ := List.length_eq_one_iff.mp single
  obtain ⟨_, same, index, _, _, _, cursor⟩ := numbers 0 ⟨[100, 10]⟩ rfl
  cases same
  refine ⟨⟨row, shown, index, cursor.mpr (.inr rfl)⟩, ?_, texts "1,0" 1 later (by decide)⟩
  obtain ⟨rows, table, double, each⟩ := tables _ _ _ front
  obtain ⟨first, other, rfl⟩ := List.length_eq_two.mp double
  obtain ⟨_, here, zero, start, _⟩ := each 0 ⟨[98, 99, 10]⟩ rfl
  obtain ⟨_, there, one, behind, _⟩ := each 1 ⟨[100, 10]⟩ rfl
  cases here
  cases there
  exact ⟨_, table, by simp [zero, one], by simp [start, behind, Replay.omitted]; decide⟩

-- Two lines. A replay from the second of them shows it with the number of the first, and one from
-- the second byte shows the first of them with a cursor that is not that of its first byte.
theorem numbers_of_other_records :
    let held : List Record := [⟨[97, 10]⟩, ⟨[98, 10]⟩]
    let replayed (place : String) :=
      (⟨10, none, 4096, false, .replay (some place) .json⟩ : Invocation).outcome
        (.ok [97, 10, 98, 10])
    (∃ row : Replay.Row, replayed "1,0" =
        .printed (Utf8.encode (Json.objects [row.fields]) ++ [10]) ∧
      Position.cursorOf held 1 0 = .ok row.offset ∧ row.index ≠ 1) ∧
    ∃ first second : Replay.Row, replayed "0,1" =
        .printed (Utf8.encode (Json.objects [first.fields, second.fields]) ++ [10]) ∧
      first.index = 0 ∧ Position.cursorOf held 0 0 ≠ .ok first.offset := by
  intro held replayed
  have made : ∀ record ∈ held, record.Complete 10 := by
    refine List.forall_mem_cons.mpr ⟨⟨[97], rfl, by decide⟩, ?_⟩
    exact List.forall_mem_singleton.mpr ⟨[98], rfl, by decide⟩
  have fits : totalSize held < 2 ^ 64 := by decide
  have later : Replay.place "1,0" = .ok (1, 0) := by decide +kernel
  have within : Replay.place "0,1" = .ok (0, 1) := by decide +kernel
  let invocation : Invocation := ⟨10, none, 4096, false, .version⟩
  have newest : held.rtake invocation.capacity = held := by decide
  obtain ⟨second, _⟩ := replay_prints made List.not_mem_nil (show 0 < invocation.capacity by decide)
    (by decide) newest fits (.place later (show Position.cursorOf held 1 0 = .ok 2 by decide))
  obtain ⟨front, _⟩ := replay_prints made List.not_mem_nil (show 0 < invocation.capacity by decide)
    (by decide) newest fits (.place within (show Position.cursorOf held 0 1 = .ok 1 by decide))
  exact ⟨⟨_, second, rfl, by decide⟩, _, _, front, rfl, by decide⟩

end CommandLine.Invocation

end CircularLog
