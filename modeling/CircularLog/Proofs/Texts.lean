import CircularLog.Proofs.Feeding
import CircularLog.Proofs.Rows
import Mathlib.Data.List.Forall2

namespace CircularLog

namespace Utf8

theorem isValid_joined {records : List Record} {terminator : UInt8} (small : terminator < 0x80)
    (complete : ∀ record ∈ records, record.Complete terminator) (tail : Bytes) :
    isValid (joined records ++ tail) =
      (records.all (fun record => isValid record.bytes) && isValid tail) := by
  induction records with
  | nil => rfl
  | cons record records ih =>
    obtain ⟨⟨body, ended, _⟩, others⟩ := List.forall_mem_cons.mp complete
    have whole : ¬ Breaks record.bytes (joined records ++ tail) := by
      rw [ended]
      exact not_breaks (opened_one small body) _
    rw [joined_cons, List.append_assoc, isValid_append whole, ih others, List.all_cons,
      Bool.and_assoc]

end Utf8

namespace Replay

-- A row that shows a part of a record, read in pieces of at most `limit` bytes.
structure Shows (limit : Nat) (part : Bytes) (row : Row) : Prop where
  size : row.size = part.length
  text : row.text = Utf8.lossy part ↔ Utf8.Unbroken limit part
  short : part.length ≤ limit → row.text = Utf8.lossy part
  spelled : Utf8.isValid part = true → Utf8.Unbroken limit part → Utf8.encode row.text = part

variable {limit : Nat}

theorem listed_shows (positive : 0 < limit) (index offset : Nat) (parts : List Bytes) :
    List.Forall₂ (Shows limit) parts (listed limit index offset parts) := by
  induction parts generalizing index offset with
  | nil => exact .nil
  | cons part parts ih =>
    have text := Utf8.pieced_eq_iff positive part
    refine .cons ⟨rfl, text, fun short => text.mpr (Utf8.unbroken_short short), ?_⟩ (ih _ _)
    intro valid unbroken
    exact (congrArg Utf8.encode (text.mpr unbroken)).trans (Utf8.encode_lossy valid)

theorem encode_texts {parts : List Bytes} {rows : List Row}
    (shows : List.Forall₂ (Shows limit) parts rows)
    (good : ∀ part ∈ parts, Utf8.isValid part = true ∧ Utf8.Unbroken limit part) :
    Utf8.encode (String.join (rows.map Row.text)) = parts.flatten := by
  rw [Utf8.encode_join]
  induction shows with
  | nil => rfl
  | cons first _ ih =>
    obtain ⟨⟨valid, unbroken⟩, others⟩ := List.forall_mem_cons.mp good
    rw [List.map_cons, List.flatMap_cons, first.spelled valid unbroken, ih others]
    rfl

end Replay

namespace CommandLine.Invocation

variable {invocation : Invocation} {held : List Record} {cursor : Nat} {reader : Channel}

theorem Stands.shown_json (stands : Stands reader held cursor) (fits : totalSize held < 2 ^ 64)
    (complete : ∀ record ∈ held, record.Complete 10) :
    shown reader .json = .ok (Utf8.encode (Json.objects
      ((Replay.listed (64 * 1024) 0 cursor (Position.ahead held cursor)).map Replay.Row.fields)) ++
        [10]) := by
  obtain ⟨current, free, rfl, rfl⟩ := stands
  obtain ⟨read, _⟩ := Replay.rows_ahead current free fits complete
  unfold shown
  rcases made : Replay.rows reader with ⟨after, rows, fault⟩
  rw [made] at read
  cases read
  rfl

theorem outcome_replay {source output : Bytes} {place : Option String} {layout : Layout}
    (told : invocation.replay place layout (.ok source) = .ok output) :
    ({ invocation with task := .replay place layout } : Invocation).outcome (.ok source) =
      .printed output := by
  have same : ({ invocation with task := .replay place layout } : Invocation).replay place layout
      (.ok source) = .ok output := told
  simp only [outcome, same]

section

variable {records : List Record} {tail : Bytes} {place : Option String}

theorem replay_prints (complete : ∀ record ∈ records, record.Complete 10) (unended : 10 ∉ tail)
    (room : 0 < invocation.capacity) (positive : 0 < invocation.chunkSize)
    (newest : records.rtake invocation.capacity = held) (fits : totalSize held < 2 ^ 64)
    (starts : Replay.Starts held place cursor) :
    let rows := Replay.listed (64 * 1024) 0 cursor (Position.ahead held cursor)
    let replayed (layout : Layout) : Invocation :=
      { invocation with task := .replay place layout }
    (replayed .json).outcome (.ok (joined records ++ tail)) =
        .printed (Utf8.encode (Json.objects (rows.map Replay.Row.fields)) ++ [10]) ∧
      (replayed .text).outcome (.ok (joined records ++ tail)) =
        .printed ((joined held).drop cursor) := by
  have roomy : 0 < invocation.feed.capacity := room
  have filling : 0 < invocation.feed.chunkSize := positive
  obtain ⟨writer, loaded, fed⟩ := Feed.load_fed roomy filling complete unended
  have plain : writer.shared.log.settings.detectStale = false :=
    congrArg Settings.detectStale fed.settings
  have kept : writer.shared.log.held = held := fed.held.trans newest
  have small : writer.shared.log.heldBytes < 2 ^ 64 := by
    rw [Log.heldBytes, kept]
    exact fits
  have ended : ∀ record ∈ held, record.Complete 10 := by
    intro record inside
    rw [← newest] at inside
    exact complete record (List.mem_of_mem_drop inside)
  have laid (layout : Layout) := replay_from loaded plain small (kept.symm ▸ starts) layout
  rw [kept] at laid
  constructor
  · obtain ⟨reader, stands, shows⟩ := laid .json
    exact outcome_replay (shows.trans (stands.shown_json fits ended))
  · obtain ⟨reader, stands, shows⟩ := laid .text
    exact outcome_replay (shows.trans (stands.shown_text fits))

end

-- The table that a replay prints shows what is held from its place on, record by record. A text is
-- that of its record if the record is no longer than 64 KiB, and else if no character of it lies in
-- two pieces of that size; then the texts of well-formed records are what is printed without a
-- table.
theorem texts_of_pieces (source : Bytes) :
    ∃ records tail, joined records ++ tail = source ∧
      (∀ record ∈ records, record.Complete 10) ∧ 10 ∉ tail ∧
      ∀ invocation : Invocation, 0 < invocation.capacity → 0 < invocation.chunkSize →
        let held := records.rtake invocation.capacity
        totalSize held < 2 ^ 64 → ∀ place cursor, Replay.Starts held place cursor →
          let parts := Position.ahead held cursor
          let replayed (layout : Layout) :=
            ({ invocation with task := .replay place layout } : Invocation).outcome (.ok source)
          parts.flatten = (joined held).drop cursor ∧
          (place = none → parts = held.map Record.bytes ∧
            (Utf8.isValid source = true → ∀ part ∈ parts, Utf8.isValid part = true)) ∧
          ∃ rows : List Replay.Row,
            replayed .json =
              .printed (Utf8.encode (Json.objects (rows.map Replay.Row.fields)) ++ [10]) ∧
            List.Forall₂ (Replay.Shows (64 * 1024)) parts rows ∧
            ((∀ part ∈ parts, Utf8.isValid part = true ∧ Utf8.Unbroken (64 * 1024) part) →
              replayed .text = .printed (Utf8.encode (String.join (rows.map Replay.Row.text)))) := by
  obtain ⟨records, tail, whole, complete, unended⟩ := exists_complete 10 source
  refine ⟨records, tail, whole, complete, unended, ?_⟩
  subst whole
  intro invocation room positive held fits place cursor starts parts replayed
  obtain ⟨table, plain⟩ := replay_prints complete unended room positive rfl fits starts
  have flat : parts.flatten = (joined held).drop cursor := Position.flatten_ahead held cursor
  have newest : ∀ record ∈ held, record ∈ records := fun record => List.mem_of_mem_drop
  have shows := Replay.listed_shows (show 0 < 64 * 1024 by decide) 0 cursor parts
  refine ⟨flat, ?_, _, table, shows, ?_⟩
  · rintro rfl
    cases starts
    have parted : parts = held.map Record.bytes :=
      Position.ahead_zero fun record inside => (complete record (newest record inside)).filled
    refine ⟨parted, ?_⟩
    intro valid part ahead
    rw [Utf8.isValid_joined (by decide) complete, Bool.and_eq_true_iff] at valid
    rw [parted] at ahead
    obtain ⟨record, inside, same⟩ := List.mem_map.mp ahead
    rw [← same]
    exact List.all_eq_true.mp valid.1 record (newest record inside)
  · intro good
    rw [Replay.encode_texts shows good, flat]
    exact plain

theorem texts_of_two_records :
    let source : Bytes := [97, 10, 0xC3, 0xA9, 10, 98]
    let replayed (layout : Layout) :=
      (⟨10, none, 4, false, .replay (some "0,1") layout⟩ : Invocation).outcome (.ok source)
    ∃ first second : Replay.Row,
      replayed .json =
        .printed (Utf8.encode (Json.objects [first.fields, second.fields]) ++ [10]) ∧
      first.text = "\n" ∧ second.text = "é\n" ∧ second.size = 3 ∧
      replayed .text = .printed (Utf8.encode (String.join ["\n", "é\n"])) := by
  intro source replayed
  obtain ⟨records, tail, whole, complete, unended, told⟩ := texts_of_pieces source
  have made : ∀ record ∈ [(⟨[97, 10]⟩ : Record), ⟨[0xC3, 0xA9, 10]⟩], record.Complete 10 := by
    refine List.forall_mem_cons.mpr ⟨⟨[97], rfl, by decide⟩, ?_⟩
    exact List.forall_mem_singleton.mpr ⟨[0xC3, 0xA9], rfl, by decide⟩
  obtain ⟨rfl, rfl⟩ :=
    complete_unique complete unended made (show (10 : UInt8) ∉ ([98] : Bytes) by decide) whole
  have starts : Replay.Starts [⟨[97, 10]⟩, ⟨[0xC3, 0xA9, 10]⟩] (some "0,1") 1 :=
    .place (show Replay.place "0,1" = .ok (0, 1) by decide +kernel) rfl
  obtain ⟨_, _, rows, table, shows, texts⟩ :=
    told ⟨10, none, 4, false, .version⟩ (by decide) (by decide) (by decide) _ _ starts
  have good : ∀ part ∈ [[10], [0xC3, 0xA9, 10]],
      Utf8.isValid part = true ∧ Utf8.Unbroken (64 * 1024) part := by
    refine List.forall_mem_cons.mpr ⟨⟨by decide, Utf8.unbroken_short (by decide)⟩, ?_⟩
    exact List.forall_mem_singleton.mpr ⟨by decide, Utf8.unbroken_short (by decide)⟩
  have printed := texts good
  obtain ⟨first, rest, one, others, rfl⟩ := List.forall₂_cons_left_iff.mp shows
  obtain ⟨second, rest, two, ends, rfl⟩ := List.forall₂_cons_left_iff.mp others
  obtain rfl := List.forall₂_nil_left_iff.mp ends
  have start : first.text = Utf8.lossy [10] := one.short (by decide)
  have line : second.text = Utf8.lossy [0xC3, 0xA9, 10] := two.short (by decide)
  have newline : Utf8.lossy [10] = "\n" := by decide +kernel
  have letter : Utf8.lossy [0xC3, 0xA9, 10] = "é\n" := by decide +kernel
  rw [newline] at start
  rw [letter] at line
  refine ⟨first, second, table, start, line, two.size, ?_⟩
  rw [← start, ← line]
  exact printed

theorem text_of_a_cut_line {front : Bytes} (letters : ∀ byte ∈ front, byte < 0x80 ∧ byte ≠ 10)
    (full : front.length + 1 = 64 * 1024) (room : 0 < invocation.capacity)
    (positive : 0 < invocation.chunkSize) :
    let line : Bytes := front ++ [0xC3, 0xA9, 10]
    let replayed : Invocation := { invocation with task := .replay none .json }
    Utf8.isValid line = true ∧ ∃ row : Replay.Row,
      replayed.outcome (.ok line) = .printed (Utf8.encode (Json.objects [row.fields]) ++ [10]) ∧
        row.size = line.length ∧ row.text ≠ Utf8.lossy line := by
  intro line replayed
  have small : ∀ byte ∈ front, byte < 0x80 := fun byte inside => (letters byte inside).1
  have valid : Utf8.isValid line = true := by
    rw [Utf8.isValid_append (Utf8.not_breaks (Utf8.opened_ascii small) _), Utf8.isValid_ascii small]
    decide
  have ended : ∀ record ∈ [(⟨line⟩ : Record)], record.Complete 10 := by
    refine List.forall_mem_singleton.mpr ⟨front ++ [0xC3, 0xA9], by simp [line], ?_⟩
    intro inside
    rcases List.mem_append.mp inside with letter | last
    · exact (letters 10 letter).2 rfl
    · exact absurd last (by decide)
  have length : line.length = 64 * 1024 + 2 := by
    simp only [line, List.length_append, List.length_cons, List.length_nil]
    omega
  have held : [(⟨line⟩ : Record)].rtake invocation.capacity = [⟨line⟩] := by
    rw [List.rtake, List.length_singleton, Nat.sub_eq_zero_of_le room, List.drop_zero]
  have fits : totalSize [(⟨line⟩ : Record)] < 2 ^ 64 := by
    rw [totalSize_cons, Record.size, length]
    decide
  have part : Position.ahead [⟨line⟩] 0 = [line] :=
    Position.ahead_zero fun record inside => (ended record inside).filled
  obtain ⟨table, _⟩ := replay_prints ended List.not_mem_nil room positive held fits .whole
  have source : joined [⟨line⟩] ++ [] = line := by simp [joined]
  rw [source, part] at table
  refine ⟨valid, _, table, rfl, ?_⟩
  exact mt (Utf8.pieced_eq_iff (by decide) line).mp (Utf8.not_unbroken small full)

theorem text_of_a_cut_character :
    let line : Bytes := List.replicate 65535 97 ++ [0xC3, 0xA9, 10]
    let replayed : Invocation := ⟨10, none, 4096, false, .replay none .json⟩
    Utf8.isValid line = true ∧ ∃ row : Replay.Row,
      replayed.outcome (.ok line) = .printed (Utf8.encode (Json.objects [row.fields]) ++ [10]) ∧
        row.size = line.length ∧ row.text ≠ Utf8.lossy line := by
  have letters : ∀ byte ∈ List.replicate 65535 (97 : UInt8), byte < 0x80 ∧ byte ≠ 10 := by
    intro byte inside
    rw [List.eq_of_mem_replicate inside]
    decide
  have full : (List.replicate 65535 (97 : UInt8)).length + 1 = 64 * 1024 :=
    congrArg (· + 1) List.length_replicate
  exact @text_of_a_cut_line ⟨10, none, 4096, false, .version⟩ _ letters full (by decide) (by decide)

end CommandLine.Invocation

end CircularLog
