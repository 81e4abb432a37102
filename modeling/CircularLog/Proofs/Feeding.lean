import CircularLog.CommandLine.Outcome
import CircularLog.Proofs.Chunking
import CircularLog.Proofs.Complete
import CircularLog.Proofs.Drain
import CircularLog.Proofs.Seeking

namespace CircularLog

namespace Log

variable {log : Log} {reading : Reading UInt8}

def feed (id : SessionId) (log : Log) (chunks : List Bytes) : Log :=
  chunks.foldl (fun log chunk => log.write id chunk) log

theorem feed_follows (sound : log.Sound) (follows : log.Follows reading) (id : SessionId)
    (chunks : List Bytes) :
    (log.feed id chunks).settings = log.settings ∧ (log.feed id chunks).Sound ∧
      (log.feed id chunks).Follows ((chunks.flatten.map .item).foldl
        (Reading.follow (· == log.settings.terminator)) reading) := by
  induction chunks generalizing log reading with
  | nil => exact ⟨rfl, sound, follows⟩
  | cons chunk chunks ih =>
    have settings : (log.write id chunk).settings = log.settings := by
      obtain ⟨journal, written⟩ := write_eq log id chunk
      rw [written]
    obtain ⟨same, last, others⟩ :=
      ih (write_sound sound id chunk) (write_follows sound follows id chunk)
    rw [settings] at same others
    refine ⟨same, last, ?_⟩
    rw [List.flatten_cons, List.map_append, List.foldl_append]
    exact others

-- Feeding counts its writes and their bytes, and otherwise only what becomes of the records.
theorem feed_tally (id : SessionId) (log : Log) (chunks : List Bytes) :
    (log.feed id chunks).tally = { log.tally with
      writes := log.tally.writes + UInt64.ofNat chunks.length
      bytesWritten := log.tally.bytesWritten + UInt64.ofNat chunks.flatten.length
      commits := (log.feed id chunks).tally.commits
      evictions := (log.feed id chunks).tally.evictions } := by
  induction chunks generalizing log with
  | nil => simp [feed]
  | cons chunk chunks ih =>
    have next : log.feed id (chunk :: chunks) = (log.write id chunk).feed id chunks := rfl
    obtain ⟨journal, written⟩ := write_eq log id chunk
    rw [next, ih]
    simp only [written, Tally.countWrite, Tally.countCommits, List.length_cons, List.flatten_cons,
      List.length_append, UInt64.ofNat_add, UInt64.add_assoc, UInt64.add_comm 1]
    rfl

end Log

theorem Channel.foldl_write {channel : Channel}
    (free : channel.session.handle.any channel.shared.gate.flags.isRaised = false)
    {chunks : List Bytes} (filled : ∀ chunk ∈ chunks, chunk ≠ []) :
    chunks.foldl (fun channel chunk => (channel.write chunk).1) channel =
      { channel with shared := channel.shared.adjust (·.feed channel.session.id chunks) } := by
  induction chunks generalizing channel with
  | nil => rfl
  | cons chunk chunks ih =>
    obtain ⟨first, others⟩ := List.forall_mem_cons.mp filled
    have step : (channel.write chunk).1 = { channel with
        shared := channel.shared.adjust (·.write channel.session.id chunk) } := by
      rw [Channel.write, SharedLog.write_free free channel.session.id first]
    rw [List.foldl_cons, step]
    exact ih free others

namespace Feed

variable {feed : Feed} {records : List Record} {tail : Bytes}

def settings (feed : Feed) : Settings :=
  { capacity := feed.capacity }

-- What a log comes to that is fed some complete records and a tail. The writes are as many as there
-- are chunks, the last of them rounded up.
def account (feed : Feed) (records : List Record) (tail : Bytes) : Snapshot :=
  let size := (joined records ++ tail).length
  { capacity := feed.capacity
    heldRecords := min feed.capacity records.length
    heldBytes := totalSize (records.rtake feed.capacity)
    pendingBytes := tail.length
    tally := {
      writes := UInt64.ofNat ((size + feed.chunkSize - 1) / feed.chunkSize)
      bytesWritten := UInt64.ofNat size
      commits := UInt64.ofNat records.length
      evictions := UInt64.ofNat (records.length - feed.capacity) } }

structure Fed (feed : Feed) (records : List Record) (tail : Bytes) (log : Log) : Prop where
  settings : log.settings = feed.settings
  held : log.held = records.rtake feed.capacity
  pending : log.pending.bytes = tail
  snapshot : log.snapshot = feed.account records tail

theorem newest_records (records : List Record) (count : Nat) :
    ((records.map Record.bytes).rtake count).map Record.mk = records.rtake count := by
  rw [List.rtake, List.rtake, List.length_map, ← List.map_drop, List.map_map]
  exact List.map_id _

theorem length_rtake (records : List Record) (count : Nat) :
    (records.rtake count).length = min count records.length := by
  rw [List.rtake, List.length_drop]
  omega

theorem valid (room : 0 < feed.capacity) : feed.settings.check = .ok () := by
  simp [settings, Settings.check, Nat.ne_of_gt room]

def writer (feed : Feed) : Channel :=
  Channel.ofShared ⟨⟨Log.fresh feed.settings, {}⟩⟩ none

theorem load_eq (room : 0 < feed.capacity) (some : 0 < feed.chunkSize) (source : Bytes) :
    feed.load (.ok source) = .ok { feed.writer with
      shared := feed.writer.shared.adjust
        (·.feed feed.writer.session.id (Chunks.cut feed.chunkSize source)) } := by
  have created : SharedLog.create feed.settings = .ok ⟨⟨Log.fresh feed.settings, {}⟩⟩ := by
    simp only [SharedLog.create, Log.create, valid room, Ring.create,
      if_neg (show ¬ feed.settings.capacity = 0 from Nat.ne_of_gt room)]
    rfl
  have shared : feed.shared = .ok ⟨⟨Log.fresh feed.settings, {}⟩⟩ := by
    have made := congrArg (Except.mapError Failure.log) created
    exact (if_neg (Nat.ne_of_gt some)).trans made
  have free : feed.writer.session.handle.any feed.writer.shared.gate.flags.isRaised = false := rfl
  have written := Channel.foldl_write free (Chunks.cut_filled feed.chunkSize source)
  unfold load
  rw [shared, ← written]
  rfl

theorem load_fed (room : 0 < feed.capacity) (some : 0 < feed.chunkSize)
    (complete : ∀ record ∈ records, record.Complete 10) (unended : 10 ∉ tail) :
    ∃ channel, feed.load (.ok (joined records ++ tail)) = .ok channel ∧
      feed.Fed records tail channel.shared.log := by
  refine ⟨_, load_eq room some _, ?_⟩
  have opened : Log.Still (Log.fresh feed.settings) feed.writer.shared.log :=
    ⟨rfl, rfl, rfl, rfl, rfl, rfl, rfl⟩
  have sound := opened.sound (Log.fresh_sound (valid room)).1
  have begins := opened.follows (Log.fresh_follows (valid room))
  obtain ⟨same, last, follows⟩ := Log.feed_follows sound begins feed.writer.session.id
    (Chunks.cut feed.chunkSize (joined records ++ tail))
  have tally := Log.feed_tally feed.writer.session.id feed.writer.shared.log
    (Chunks.cut feed.chunkSize (joined records ++ tail))
  have read := Reading.of_complete complete unended
  rw [Chunks.flatten_cut] at follows tally
  rw [Chunks.length_cut some] at tally
  have terminator : feed.writer.shared.log.settings.terminator = 10 := rfl
  rw [terminator] at follows
  rw [Reading.of] at read
  rw [read] at follows
  have unread : feed.writer.shared.log.tally = {} := rfl
  rw [unread] at tally
  have log : ∀ change : Log → Log,
      (feed.writer.shared.adjust change).log = change feed.writer.shared.log := fun _ => rfl
  dsimp only
  rw [log]
  -- What is known of the log is enough from here on, without regard to how it was fed.
  generalize feed.writer.shared.log.feed feed.writer.session.id
    (Chunks.cut feed.chunkSize (joined records ++ tail)) = after at *
  have settings : after.settings = feed.settings := same
  have capacity : after.settings.capacity = feed.capacity := congrArg Settings.capacity settings
  have held : after.held = records.rtake feed.capacity := by
    have newest := follows.newest
    rwa [capacity, newest_records] at newest
  refine ⟨settings, held, follows.pending, ?_⟩
  have size : after.pending.size = tail.length := by
    have bytes : after.pending.bytes = tail := follows.pending
    rw [← bytes, Pending.bytes, List.length_reverse, Pending.size]
  have commits : after.tally.commits = UInt64.ofNat records.length := by
    simpa [Reading.all, Reading.phases] using follows.commits
  have evictions : after.tally.evictions = UInt64.ofNat (records.length - feed.capacity) := by
    simpa [Reading.surplus, Reading.phases, capacity] using follows.evictions
  rw [commits, evictions] at tally
  rw [Log.snapshot, account, last.capacity, last.ring.size_eq, Log.heldBytes, held, capacity, size,
    tally, length_rtake]
  simp

end Feed

theorem Replay.bytes_rest {channel : Channel}
    (current : channel.session.Current channel.shared.log)
    (free : channel.session.handle.any channel.shared.gate.flags.isRaised = false)
    (fits : channel.shared.log.heldBytes < 2 ^ 64) :
    (Replay.bytes channel).2 =
      ((joined channel.shared.log.held).drop channel.session.cursor.toNat, none) := by
  obtain ⟨read, _⟩ := Channel.readAll_ahead current free fits (show 0 < 8 * 1024 by decide)
  rw [← Position.flatten_ahead, ← Chunks.flatten_flatMap_cut (8 * 1024)]
  simp only [Replay.bytes]
  rcases made : channel.readAll (8 * 1024) with ⟨after, got, fault⟩
  rw [made] at read
  cases read
  rfl

-- A place that a replay can start from, with its cursor. Without a place it starts at the first
-- byte held.
inductive Replay.Starts (held : List Record) : Option String → Nat → Prop where
  | whole : Starts held none 0
  | place {text : String} {index offset cursor : Nat}
      (spelled : Replay.place text = .ok (index, offset))
      (found : Position.cursorOf held index offset = .ok cursor) : Starts held (some text) cursor

namespace CommandLine.Invocation

variable {invocation : Invocation} {records : List Record} {tail : Bytes}

def shown (reader : Channel) : Layout → Except Failure Bytes
  | .text =>
    match Replay.bytes reader with
    | (_, _, some fault) => .error (.log fault)
    | (_, bytes, none) => .ok bytes
  | .json =>
    match Replay.rows reader with
    | (_, _, some fault) => .error (.log fault)
    | (_, rows, none) => .ok (Utf8.encode (Json.objects (rows.map Replay.Row.fields)) ++ [10])

structure Stands (reader : Channel) (held : List Record) (cursor : Nat) : Prop where
  current : reader.session.Current reader.shared.log
  free : reader.session.handle.any reader.shared.gate.flags.isRaised = false
  held : reader.shared.log.held = held
  cursor : reader.session.cursor.toNat = cursor

theorem Stands.shown_text {reader : Channel} {held : List Record} {cursor : Nat}
    (stands : Stands reader held cursor) (fits : totalSize held < 2 ^ 64) :
    shown reader .text = .ok ((joined held).drop cursor) := by
  obtain ⟨current, free, rfl, rfl⟩ := stands
  have read := Replay.bytes_rest current free fits
  unfold shown
  rcases made : Replay.bytes reader with ⟨after, got, fault⟩
  rw [made] at read
  cases read
  rfl

section

variable {source : Bytes} {writer : Channel} {place : Option String} {cursor : Nat}

theorem replay_from (loaded : invocation.feed.load (.ok source) = .ok writer)
    (plain : writer.shared.log.settings.detectStale = false)
    (fits : writer.shared.log.heldBytes < 2 ^ 64)
    (starts : Replay.Starts writer.shared.log.held place cursor) (layout : Layout) :
    ∃ reader, Stands reader writer.shared.log.held cursor ∧
      invocation.replay place layout (.ok source) = shown reader layout := by
  have free : (Channel.ofShared writer.shared none).session.handle.any
      (Channel.ofShared writer.shared none).shared.gate.flags.isRaised = false := rfl
  cases starts with
  | whole =>
    refine ⟨Channel.ofShared writer.shared none, ⟨.inl plain, free, rfl, rfl⟩, ?_⟩
    unfold replay shown
    simp only [Except.mapError, bind, Except.bind, pure, Except.pure, Option.mapM_none, loaded]
    cases layout <;> rfl
  | place spelled found =>
    rename_i text index offset
    have small := (Position.cursorOf_found found).trans fits
    have parsed :
        (some <$> Except.ok (index, offset) : Except Replay.PlaceFault (Option (Nat × Nat))) =
          .ok (some (index, offset)) := rfl
    unfold replay
    simp only [Except.mapError, bind, Except.bind, pure, Except.pure, Option.mapM_some, loaded,
      spelled, parsed]
    rw [Channel.seekTo_found free found]
    dsimp only
    generalize moved : Channel.positioned _ (UInt64.ofNat cursor) _ = reader
    have stands : Stands reader writer.shared.log.held cursor := by
      rw [← moved]
      exact ⟨.inl plain, free, rfl, UInt64.toNat_ofNat_of_lt' small⟩
    exact ⟨reader, stands, by cases layout <;> rfl⟩

end

end CommandLine.Invocation

end CircularLog
