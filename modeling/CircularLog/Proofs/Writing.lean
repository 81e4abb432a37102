import CircularLog.Proofs.Passes

namespace CircularLog

def Tally.countCommits (tally : Tally) (commits evictions : Nat) : Tally :=
  { tally with
    commits := tally.commits + UInt64.ofNat commits
    evictions := tally.evictions + UInt64.ofNat evictions }

theorem Tally.countCommits_again (tally : Tally) (commits evictions others more : Nat) :
    (tally.countCommits commits evictions).countCommits others more =
      tally.countCommits (commits + others) (evictions + more) := by
  simp only [countCommits, UInt64.ofNat_add, UInt64.add_assoc]

theorem Pending.completed_ne_nil {pending : Pending} {chunk : Bytes} {records : List Record}
    (completed : (pending.append chunk).2 = .completed records) : records ≠ [] := by
  unfold append at completed
  split at completed
  · cases completed
  · cases completed
    exact List.cons_ne_nil _ _

namespace Log

variable {log after : Log} {deed : Deed}

theorem commit_eq (id : SessionId) (log : Log) (record : Record) :
    ∃ journal, log.commit id record = { log with
      ring := (log.ring.push record).1
      generation := log.generation + UInt64.ofNat (log.ring.push record).2.toList.length
      tally := log.tally.countCommits 1 (log.ring.push record).2.toList.length
      journal } := by
  unfold commit
  rcases log.ring.push record with ⟨ring, _ | oldest⟩
  · exact ⟨.committed id record.size ring.size :: log.journal, by
      simp [note, Tally.countCommit, Tally.countCommits]⟩
  · exact ⟨.committed id record.size ring.size :: .evicted oldest.size :: log.journal, by
      simp [note, countEviction, Tally.countCommit, Tally.countEviction, Tally.countCommits]⟩

theorem commits_eq (id : SessionId) (log : Log) (records : List Record) :
    ∃ journal, records.foldl (commit id) log = { log with
      ring := (log.ring.pushAll records).1
      generation := log.generation + UInt64.ofNat (log.ring.pushAll records).2.length
      tally := log.tally.countCommits records.length (log.ring.pushAll records).2.length
      journal } := by
  induction records generalizing log with
  | nil => exact ⟨log.journal, by simp [Ring.pushAll, Tally.countCommits]⟩
  | cons record records ih =>
    obtain ⟨_, first⟩ := commit_eq id log record
    obtain ⟨journal, others⟩ := ih (log.commit id record)
    refine ⟨journal, ?_⟩
    rw [List.foldl_cons, others, first]
    simp only [Ring.pushAll, List.length_append, List.length_cons, UInt64.ofNat_add,
      UInt64.add_assoc, Tally.countCommits_again, Nat.add_comm 1]

-- A write completes some records, drops those that have to go for them, and leaves the rest of its
-- bytes under way.
theorem write_eq (log : Log) (id : SessionId) (chunk : Bytes) :
    ∃ journal, log.write id chunk =
      let pending := (log.pending.append chunk).1
      let records := (log.pending.append chunk).2.records
      let evicted := (log.ring.pushAll records).2
      { log with
        ring := (log.ring.pushAll records).1
        pending
        contributors :=
          if records.isEmpty then log.contributors.insert id
          else if pending.isEmpty then [] else [id]
        generation := log.generation + UInt64.ofNat evicted.length
        tally := (log.tally.countCommits records.length evicted.length).countWrite chunk.length
        journal } := by
  unfold write
  rcases appended : log.pending.append chunk with ⟨pending, _ | records⟩
  · refine ⟨.buffered id chunk.length :: log.journal, ?_⟩
    simp [note, Appended.records, Ring.pushAll, Tally.countCommits]
  · have some : records ≠ [] := Pending.completed_ne_nil (congrArg Prod.snd appended)
    obtain ⟨journal, committed⟩ := commits_eq id
      { log with pending, contributors := if pending.isEmpty then [] else [id] } records
    refine ⟨journal, ?_⟩
    simp only [committed, Appended.records, List.isEmpty_eq_false_iff.mpr some,
      Bool.false_eq_true, if_false]

theorem discard_kept {id : SessionId} (other : id ∉ log.contributors) :
    log.discard id = (log, 0) := by
  unfold discard
  rw [if_neg (by simpa using other)]

theorem discard_lost {id : SessionId} (contributor : id ∈ log.contributors) :
    log.discard id = ({ log with
      pending := log.pending.discard.1, contributors := [], tally := log.tally.countDiscard }.note
        (.discarded id log.pending.size), log.pending.size) := by
  unfold discard
  rw [if_pos (by simpa using contributor)]
  rfl

-- Nothing has happened to the records, complete or not.
structure Still (log after : Log) : Prop where
  settings : after.settings = log.settings
  ring : after.ring = log.ring
  pending : after.pending = log.pending
  contributors : after.contributors = log.contributors
  generation : after.generation = log.generation
  commits : after.tally.commits = log.tally.commits
  evictions : after.tally.evictions = log.tally.evictions

theorem Still.held_eq {log after : Log} (still : Still log after) : after.held = log.held :=
  congrArg Ring.toList still.ring

theorem Still.trans {log between after : Log} (first : Still log between)
    (others : Still between after) : Still log after where
  settings := others.settings.trans first.settings
  ring := others.ring.trans first.ring
  pending := others.pending.trans first.pending
  contributors := others.contributors.trans first.contributors
  generation := others.generation.trans first.generation
  commits := others.commits.trans first.commits
  evictions := others.evictions.trans first.evictions

theorem read_still (log : Log) (cursor : UInt64) (limit : Nat) (since : Option UInt64) :
    Still log (log.read cursor limit since).1 := by
  unfold read
  split
  · exact ⟨rfl, rfl, rfl, rfl, rfl, rfl, rfl⟩
  · split
    · exact ⟨rfl, rfl, rfl, rfl, rfl, rfl, rfl⟩
    · refine ⟨rfl, rfl, rfl, rfl, rfl, ?_, ?_⟩
      · simp only [note, Tally.countRead]
        split <;> rfl
      · simp only [note, Tally.countRead]
        split <;> rfl

end Log

def Deed.keepsRecords : Deed → Bool
  | .interrupted | .looked | .opened _ | .read _ | .fetched _ | .positioned _ => true
  | _ => false

namespace Log

variable {log after : Log} {deed : Deed}

inductive Change : Log → Deed → Log → Prop where
  | still {log after : Log} {deed : Deed} (keeps : deed.keepsRecords = true)
      (same : Still log after) : Change log deed after
  | wrote {log : Log} {id : SessionId} {chunk : Bytes} (filled : chunk ≠ []) :
      Change log (log.writing id chunk) (log.write id chunk)
  | gaveUp {log after : Log} {id : SessionId} {deed : Deed}
      (gives : deed = .discarded id (log.discard id).2 ∨ deed = .ended id (log.discard id).2)
      (same : Still (log.discard id).1 after) : Change log deed after
  | tornDown {log : Log} : Change log (.tornDown log.held) log.teardown.1

theorem Pass.change (pass : Pass log deed after) : Change log deed after := by
  cases pass with
  | interrupted => exact .still rfl ⟨rfl, rfl, rfl, rfl, rfl, rfl, rfl⟩
  | looked => exact .still rfl ⟨rfl, rfl, rfl, rfl, rfl, rfl, rfl⟩
  | opened => exact .still rfl ⟨rfl, rfl, rfl, rfl, rfl, rfl, rfl⟩
  | wrote filled => exact .wrote filled
  | read found => exact .still rfl (read_still _ _ _ _)
  | fetched found => exact .still rfl (read_still _ _ _ _)
  | positioned => exact .still rfl ⟨rfl, rfl, rfl, rfl, rfl, rfl, rfl⟩
  | sought => exact .still rfl ⟨rfl, rfl, rfl, rfl, rfl, rfl, rfl⟩
  | discarded => exact .gaveUp (.inl rfl) ⟨rfl, rfl, rfl, rfl, rfl, rfl, rfl⟩
  | ended => exact .gaveUp (.inr rfl) ⟨rfl, rfl, rfl, rfl, rfl, rfl, rfl⟩
  | tornDown => exact .tornDown

theorem Pass.settings (pass : Pass log deed after) : after.settings = log.settings := by
  cases pass.change with
  | still keeps same => exact same.settings
  | wrote filled =>
    obtain ⟨journal, written⟩ := write_eq log _ _
    rw [written]
  | gaveUp gives same =>
    refine same.settings.trans ?_
    unfold discard
    split <;> rfl
  | tornDown => rfl

theorem Passes.settings {deeds : List Deed} (passes : Passes log deeds after) :
    after.settings = log.settings := by
  induction passes with
  | nil => rfl
  | cons pass _ ih => exact ih.trans pass.settings

structure Sound (log : Log) : Prop where
  ring : log.ring.Holds log.held
  capacity : log.ring.capacity = log.settings.capacity
  terminator : log.pending.terminator = log.settings.terminator

theorem Still.sound (same : Still log after) (sound : log.Sound) : after.Sound := by
  refine ⟨?_, ?_, ?_⟩
  · rw [same.held_eq, same.ring]
    exact sound.ring
  · rw [same.ring, same.settings]
    exact sound.capacity
  · rw [same.pending, same.settings]
    exact sound.terminator

theorem append_terminator (pending : Pending) (chunk : Bytes) :
    (pending.append chunk).1.terminator = pending.terminator := by
  unfold Pending.append
  split <;> rfl

theorem write_sound (sound : log.Sound) (id : SessionId) (chunk : Bytes) :
    (log.write id chunk).Sound := by
  obtain ⟨journal, written⟩ := write_eq log id chunk
  obtain ⟨kept, holds, _, _⟩ := sound.ring.pushAll_kept (log.pending.append chunk).2.records
  rw [written]
  refine ⟨?_, ?_, ?_⟩
  · rw [held, holds.toList_eq]
    exact holds
  · exact (Ring.capacity_pushAll _ _).trans sound.capacity
  · exact (append_terminator _ _).trans sound.terminator

-- The records released by a write are the oldest, and no more of them than has to be.
theorem write_held (sound : log.Sound) (id : SessionId) (chunk : Bytes) :
    let committed := (log.pending.append chunk).2.records
    (log.ring.pushAll committed).2 ++ (log.write id chunk).held = log.held ++ committed ∧
      (log.write id chunk).held.length =
        min log.settings.capacity (log.held.length + committed.length) := by
  obtain ⟨journal, written⟩ := write_eq log id chunk
  obtain ⟨kept, holds, moved, length⟩ :=
    sound.ring.pushAll_kept (log.pending.append chunk).2.records
  have newest : (log.write id chunk).held = kept := by
    rw [written]
    exact holds.toList_eq
  rw [newest, ← sound.capacity]
  exact ⟨moved, length⟩

theorem discard_sound (sound : log.Sound) (id : SessionId) : (log.discard id).1.Sound := by
  by_cases contributor : id ∈ log.contributors
  · rw [discard_lost contributor]
    exact ⟨sound.ring, sound.capacity, sound.terminator⟩
  · rw [discard_kept contributor]
    exact sound

theorem teardown_sound (sound : log.Sound) : log.teardown.1.Sound := by
  obtain ⟨holds, _⟩ := sound.ring.clear_empty
  refine ⟨?_, ?_, sound.terminator⟩
  · have held : log.teardown.1.held = [] := holds.toList_eq
    rw [held]
    exact holds
  · exact (Ring.capacity_clear _).trans sound.capacity

theorem Pass.sound (pass : Pass log deed after) (sound : log.Sound) : after.Sound := by
  cases pass.change with
  | still keeps same => exact same.sound sound
  | wrote filled => exact write_sound sound _ _
  | gaveUp gives same => exact same.sound (discard_sound sound _)
  | tornDown => exact teardown_sound sound

theorem Passes.sound {deeds : List Deed} (passes : Passes log deeds after) (sound : log.Sound) :
    after.Sound := by
  induction passes with
  | nil => exact sound
  | cons pass _ ih => exact ih (pass.sound sound)

end Log

theorem Settings.capacity_positive {settings : Settings} (valid : settings.check = .ok ()) :
    0 < settings.capacity := by
  unfold check at valid
  split at valid
  · cases valid
  · omega

namespace Log

def fresh (settings : Settings) : Log where
  settings
  ring := ⟨Array.replicate settings.capacity none, 0, 0, false⟩
  pending := ⟨settings.terminator, []⟩
  journal := [.initialized settings.capacity]

theorem fresh_sound {settings : Settings} (valid : settings.check = .ok ()) :
    (fresh settings).Sound ∧ (fresh settings).held = [] := by
  have positive := Settings.capacity_positive valid
  have holds : (fresh settings).ring.Holds [] := Ring.empty_holds positive
  have empty : (fresh settings).held = [] := holds.toList_eq
  refine ⟨⟨?_, ?_, rfl⟩, empty⟩
  · rw [empty]
    exact holds
  · simp [fresh, Ring.capacity]

end Log

def Station.fresh (settings : Settings) : Station :=
  ⟨⟨⟨Log.fresh settings, {}⟩⟩, []⟩

theorem Station.create_eq {settings : Settings} (valid : settings.check = .ok ()) :
    Station.create settings = .ok (Station.fresh settings) := by
  have positive := Nat.ne_of_gt (Settings.capacity_positive valid)
  simp only [Station.create, SharedLog.create, Log.create, valid, Ring.create, if_neg positive]
  rfl

end CircularLog
