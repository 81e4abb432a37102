import CircularLog.Proofs.Reading
import CircularLog.Proofs.Visits
import Mathlib.Data.List.DropRight

namespace CircularLog

namespace Log

variable {log after : Log} {deed : Deed} {reading : Reading UInt8}

-- What the reading says of a log: `gone` are the records of the phase that had to go.
structure Follows (log : Log) (reading : Reading UInt8) : Prop where
  held : ∃ gone, gone ++ log.held.map Record.bytes = reading.records ∧
    gone.length = reading.records.length - log.settings.capacity
  pending : log.pending.bytes = reading.tail
  commits : log.tally.commits = UInt64.ofNat reading.all.length
  evictions : log.tally.evictions = UInt64.ofNat (reading.surplus log.settings.capacity)

theorem Follows.newest (follows : log.Follows reading) :
    log.held = (reading.records.rtake log.settings.capacity).map Record.mk := by
  obtain ⟨gone, parts, surplus⟩ := follows.held
  rw [List.rtake, ← surplus, ← parts, List.drop_left, List.map_map]
  exact (List.map_id _).symm

theorem Follows.alike {other : Log} (follows : log.Follows reading)
    (likewise : other.Follows reading) (same : other.settings = log.settings) :
    other.held = log.held ∧ other.pending.bytes = log.pending.bytes ∧
      other.tally.commits = log.tally.commits ∧ other.tally.evictions = log.tally.evictions := by
  refine ⟨?_, ?_, ?_, ?_⟩
  · rw [likewise.newest, follows.newest, same]
  · rw [likewise.pending, follows.pending]
  · rw [likewise.commits, follows.commits]
  · rw [likewise.evictions, follows.evictions, same]

theorem Still.follows (same : Still log after) (follows : log.Follows reading) :
    after.Follows reading := by
  obtain ⟨settings, ring, pending, _, _, commits, evictions⟩ := same
  refine ⟨?_, ?_, ?_, ?_⟩
  · rw [held, ring, settings]
    exact follows.held
  · rw [pending]
    exact follows.pending
  · rw [commits]
    exact follows.commits
  · rw [evictions, settings]
    exact follows.evictions

theorem write_follows (sound : log.Sound) (follows : log.Follows reading) (id : SessionId)
    (chunk : Bytes) :
    (log.write id chunk).Follows
      ((chunk.map .item).foldl (Reading.follow (· == log.settings.terminator)) reading) := by
  obtain ⟨⟨gone, parts, surplus⟩, pending, commits, evictions⟩ := follows
  obtain ⟨moved, length⟩ := write_held sound id chunk
  obtain ⟨journal, written⟩ := write_eq log id chunk
  rw [← sound.terminator, Reading.follow_append pending]
  dsimp only at written moved length
  generalize (log.pending.append chunk).2.records = committed at *
  generalize (log.ring.pushAll committed).2 = evicted at *
  have pushed := congrArg List.length moved
  have records := congrArg List.length parts
  simp only [List.length_append, List.length_map] at pushed records
  refine ⟨⟨gone ++ evicted.map Record.bytes, ?_, ?_⟩, ?_, ?_, ?_⟩
  · rw [List.append_assoc, ← List.map_append, moved, List.map_append, ← List.append_assoc, parts]
  · rw [written]
    simp only [List.length_append, List.length_map]
    omega
  · rw [written]
  · rw [written]
    simp only [Tally.countCommits, Tally.countWrite, Reading.all_more, List.length_append,
      List.length_map, commits, UInt64.ofNat_add]
  · have more := reading.surplus_more (log.pending.append chunk).1.bytes
      (committed.map Record.bytes) log.settings.capacity
    have total : Reading.surplus { reading with
          tail := (log.pending.append chunk).1.bytes
          records := reading.records ++ committed.map Record.bytes } log.settings.capacity =
        reading.surplus log.settings.capacity + evicted.length := by
      rw [List.length_map] at more
      omega
    rw [written]
    simp only [Tally.countCommits, Tally.countWrite, total, evictions, UInt64.ofNat_add]

theorem discard_follows (follows : log.Follows reading) (id : SessionId) :
    (log.discard id).1.Follows
      (if (log.discard id).2 = 0 then reading else { reading with tail := [] }) := by
  by_cases contributor : id ∈ log.contributors
  · have gone : log.pending.size = 0 → reading.tail = [] := by
      intro none
      rw [← follows.pending, Pending.bytes, List.eq_nil_of_length_eq_zero none, List.reverse_nil]
    rw [discard_lost contributor]
    dsimp only
    split
    · rename_i none
      exact ⟨follows.held, (gone none).symm, follows.commits, follows.evictions⟩
    · exact ⟨follows.held, rfl, follows.commits, follows.evictions⟩
  · rw [discard_kept contributor]
    exact follows

theorem teardown_follows (sound : log.Sound) (follows : log.Follows reading) :
    log.teardown.1.Follows (reading.follow (· == log.settings.terminator) .cleared) := by
  obtain ⟨_, _, commits, evictions⟩ := follows
  have empty : log.teardown.1.held = [] := sound.ring.clear_empty.1.toList_eq
  refine ⟨⟨[], ?_, (Nat.zero_sub _).symm⟩, rfl, ?_, ?_⟩
  · rw [empty]
    rfl
  · rw [Reading.all_cleared]
    exact commits
  · exact evictions.trans (congrArg UInt64.ofNat (Reading.surplus_cleared reading _ _).symm)

theorem Pass.follows (pass : Pass log deed after) (sound : log.Sound)
    (follows : log.Follows reading) :
    after.Follows ((deed.tokens fun _ byte => byte).foldl
      (Reading.follow (· == log.settings.terminator)) reading) := by
  cases pass.change with
  | still keeps same =>
    rw [Deed.tokens_of_keeps keeps]
    exact same.follows follows
  | wrote filled => exact write_follows sound follows _ _
  | gaveUp gives same =>
    rw [Reading.follow_gaveUp gives]
    exact same.follows (discard_follows follows _)
  | tornDown => exact teardown_follows sound follows

theorem fresh_follows {settings : Settings} (valid : settings.check = .ok ()) :
    (fresh settings).Follows {} := by
  refine ⟨⟨[], ?_, by simp⟩, rfl, rfl, ?_⟩
  · rw [(fresh_sound valid).2]
    rfl
  · simp [Reading.surplus, Reading.phases]
    rfl

end Log

-- A write that is let in delivers its chunk, and one that is interrupted nothing. `answer` is how
-- its result is told.
theorem SharedLog.write_delivers (shared : SharedLog) (handle : Option Handle) (id : SessionId)
    (chunk : Bytes) (answer : Except Fault Nat → Reply)
    (counts : answer (.ok chunk.length) = .count chunk.length)
    (fails : answer (.error .interrupted) ≠ .count chunk.length) :
    let reply := answer (shared.write handle id chunk).2
    let delivered := (shared.writeDeeds handle id chunk).flatMap (·.tokens fun _ byte => byte)
    (reply = .count chunk.length ∧ delivered = chunk.map .item) ∨
      (reply ≠ .count chunk.length ∧ delivered = []) := by
  unfold writeDeeds write
  cases filled : chunk.isEmpty with
  | true =>
    obtain rfl := List.isEmpty_iff.mp filled
    exact .inl ⟨counts, rfl⟩
  | false =>
    simp only [Bool.false_eq_true, if_false]
    rcases made : shared.enter handle (fun log => (log.write id chunk, .ok chunk.length)) with
      ⟨after, result⟩
    rcases enter_cases made with ⟨_, rfl⟩ | ⟨_, rfl⟩
    · exact .inr ⟨fails, rfl⟩
    · exact .inl ⟨counts, List.append_nil _⟩

namespace Call

def chunk? : Call → Option Bytes
  | .session _ (.write chunk) | .stream _ (.write chunk) | .log _ (.write _ chunk) => some chunk
  | _ => none

end Call

def Deed.committed : Deed → List Record
  | .wrote _ _ committed _ => committed
  | _ => []

namespace Log

variable {log after : Log} {deed : Deed} {reading : Reading UInt8}

theorem Pass.all_committed (pass : Pass log deed after) (sound : log.Sound)
    (follows : log.Follows reading) :
    ((deed.tokens fun _ byte => byte).foldl
        (Reading.follow (· == log.settings.terminator)) reading).all =
      reading.all ++ deed.committed.map Record.bytes := by
  cases pass.change with
  | still keeps same =>
    have none : deed.committed = [] := by
      cases deed <;> first | rfl | cases keeps
    rw [Deed.tokens_of_keeps keeps, none]
    exact (List.append_nil _).symm
  | @wrote id chunk filled =>
    have tokens : (log.writing id chunk).tokens (fun _ byte => byte) = chunk.map .item := rfl
    rw [tokens, ← sound.terminator, Reading.follow_append follows.pending, Reading.all_more]
    rfl
  | gaveUp gives same =>
    have none : deed.committed = [] := by
      rcases gives with rfl | rfl <;> rfl
    rw [Reading.follow_gaveUp gives, none]
    split
    · exact (List.append_nil _).symm
    · exact (List.append_nil _).symm
  | tornDown =>
    have cleared := reading.all_cleared (· == log.settings.terminator)
    exact cleared.trans (List.append_nil _).symm

theorem Passes.all_committed {deeds : List Deed} (passes : Passes log deeds after)
    (sound : log.Sound) (follows : log.Follows reading) :
    ((deeds.flatMap (·.tokens fun _ byte => byte)).foldl
        (Reading.follow (· == log.settings.terminator)) reading).all =
      reading.all ++ (deeds.flatMap Deed.committed).map Record.bytes := by
  induction passes generalizing reading with
  | nil => exact (List.append_nil _).symm
  | cons pass _ ih =>
    have first := pass.all_committed sound follows
    have rest := ih (pass.sound sound) (pass.follows sound follows)
    rw [pass.settings] at rest
    rw [List.flatMap_cons, List.foldl_append, rest, first, List.flatMap_cons, List.map_append,
      List.append_assoc]

end Log

namespace Station

def delivered (station : Station) (calls : List Call) : List (Token UInt8) :=
  (station.history calls).flatMap fun entry => entry.2.tokens fun _ byte => byte

-- A station that answers what the reading of some tokens says.
structure Answers (station : Station) (tokens : List (Token UInt8)) (terminator : UInt8)
    (capacity : Nat) : Prop where
  held : (station.step (.log none .held)).2 =
    .records (((Reading.of (· == terminator) tokens).records.rtake capacity).map .mk)
  pending : station.shared.log.pending.bytes = (Reading.of (· == terminator) tokens).tail
  snapshot : ∃ snapshot, (station.step (.log none .snapshot)).2 = .snapshot snapshot ∧
    snapshot.pendingBytes = (Reading.of (· == terminator) tokens).tail.length ∧
    snapshot.tally.commits = UInt64.ofNat ((Token.items tokens).count terminator) ∧
    snapshot.tally.evictions =
      UInt64.ofNat ((Reading.of (· == terminator) tokens).surplus capacity)

variable {settings : Settings}

theorem run_follows (valid : settings.check = .ok ()) (calls : List Call) :
    let start := Station.fresh settings
    (start.run calls).1.shared.log.settings = settings ∧ (start.run calls).1.shared.log.Sound ∧
      (start.run calls).1.shared.log.Follows
        (Reading.of (· == settings.terminator) (start.delivered calls)) := by
  intro start
  have sound := (Log.fresh_sound valid).1
  have passes := (run_passes start calls).log_passes
  have follows := passes.read Log.Pass.follows sound (Log.fresh_follows valid)
  rw [List.flatMap_map] at follows
  exact ⟨passes.settings, passes.sound sound, follows⟩

theorem delivered_append (station : Station) (calls more : List Call) :
    station.delivered (calls ++ more) =
      station.delivered calls ++ (station.run calls).1.delivered more := by
  unfold delivered
  rw [history_append, List.flatMap_append]

theorem delivered_one (station : Station) (call : Call) :
    station.delivered [call] =
      (station.deeds call).flatMap fun entry => entry.2.tokens fun _ byte => byte := by
  unfold delivered history history
  rw [List.append_nil]

theorem write_delivers (station : Station) {call : Call} {chunk : Bytes}
    (writes : call.chunk? = some chunk) :
    ((station.step call).2 = .count chunk.length ∧ station.delivered [call] = chunk.map .item) ∨
      ((station.step call).2 ≠ .count chunk.length ∧ station.delivered [call] = []) := by
  rw [delivered_one]
  unfold Call.chunk? at writes
  split at writes
  · rename_i number chunk
    cases writes
    dsimp only [deeds, step, visitDeeds, visit]
    cases station.session? number with
    | none => exact .inr ⟨nofun, rfl⟩
    | some session =>
      rw [List.flatMap_map]
      exact station.shared.write_delivers session.handle session.id chunk (.ofResult .count) rfl
        nofun
  · rename_i number chunk
    cases writes
    dsimp only [deeds, step, visitDeeds, visit]
    cases station.session? number with
    | none => exact .inr ⟨nofun, rfl⟩
    | some session =>
      rw [List.flatMap_map]
      exact station.shared.write_delivers session.handle session.id chunk
        (fun result => .ofStream .count (result.mapError .log)) rfl nofun
  · rename_i handle id chunk
    cases writes
    dsimp only [deeds, step]
    rw [List.flatMap_map]
    exact station.shared.write_delivers handle id chunk (.ofResult .count) rfl nofun
  · cases writes

-- A log holds the newest records of what was delivered to it, however that was cut into writes, and
-- each write that is let in delivers its chunk.
theorem chunking_is_invisible (valid : settings.check = .ok ()) :
    ∃ start, create settings = .ok start ∧
      (∀ calls, (start.run calls).1.Answers (start.delivered calls) settings.terminator
        settings.capacity) ∧
      (∀ calls others, start.delivered others = start.delivered calls →
        let log := (start.run calls).1.shared.log
        let other := (start.run others).1.shared.log
        other.held = log.held ∧ other.pending.bytes = log.pending.bytes ∧
          other.tally.commits = log.tally.commits ∧ other.tally.evictions = log.tally.evictions) ∧
      ∀ calls call chunk, call.chunk? = some chunk →
        ((start.run calls).1.step call).2 = .count chunk.length ∧
            start.delivered (calls ++ [call]) = start.delivered calls ++ chunk.map .item ∨
          ((start.run calls).1.step call).2 ≠ .count chunk.length ∧
            start.delivered (calls ++ [call]) = start.delivered calls := by
  refine ⟨_, create_eq valid, ?_, ?_, ?_⟩
  · intro calls
    obtain ⟨same, sound, follows⟩ := run_follows valid calls
    have total := Reading.count_ends (· == settings.terminator) (delivered (fresh settings) calls) {}
    have newest := follows.newest
    have commits := follows.commits
    have evictions := follows.evictions
    rw [same] at newest evictions
    rw [Reading.of, total, Reading.all_fresh, List.length_nil, Nat.zero_add] at commits
    refine ⟨congrArg Reply.records newest, follows.pending, _, rfl, ?_, commits, evictions⟩
    rw [← follows.pending, Pending.bytes, List.length_reverse]
    rfl
  · intro calls others alike
    obtain ⟨one, _, follows⟩ := run_follows valid calls
    obtain ⟨another, _, likewise⟩ := run_follows valid others
    rw [alike] at likewise
    exact follows.alike likewise (another.trans one.symm)
  · intro calls call chunk writes
    rw [delivered_append]
    rcases (run _ calls).1.write_delivers writes with ⟨accepted, all⟩ | ⟨refused, none⟩
    · exact .inl ⟨accepted, by rw [all]⟩
    · exact .inr ⟨refused, by rw [none, List.append_nil]⟩

theorem chunking_of_two_sessions :
    (⟨1, 59, false, 1⟩ : Settings).check = .ok () ∧
      ∃ start, create ⟨1, 59, false, 1⟩ = .ok start ∧
        (start.run [.openSession, .openSession, .session 0 (.write [97]),
            .session 1 (.write [98, 59, 99, 59, 100]), .session 1 .drop]).1.Answers
          [.item 97, .item 98, .item 59, .item 99, .item 59, .item 100, .lost] 59 1 := by
  have valid : (⟨1, 59, false, 1⟩ : Settings).check = .ok () := rfl
  obtain ⟨start, created, answers, _⟩ := chunking_is_invisible valid
  refine ⟨valid, start, created, ?_⟩
  cases (create_eq valid).symm.trans created
  exact answers [.openSession, .openSession, .session 0 (.write [97]),
    .session 1 (.write [98, 59, 99, 59, 100]), .session 1 .drop]

end Station

end CircularLog
