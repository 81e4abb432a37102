import CircularLog.Proofs.Writing

namespace CircularLog

namespace Event

def isTeardown : Event → Bool
  | .tornDown _ => true
  | _ => false

-- Events that tell of no complete record.
def isAside : Event → Bool
  | .evicted _ | .committed _ _ _ | .tornDown _ => false
  | _ => true

theorem aside_message {event : Event} (aside : event.isAside = true) :
    event.message ≠ "committed entry" ∧ event.message ≠ "evicted oldest entry" ∧
      event.isTeardown = false := by
  cases event <;> simp [message, isTeardown] <;> cases aside

end Event

namespace Journal

def count (message : String) (journal : List Event) : Nat :=
  journal.countP (·.message = message)

-- What the events of one message have in one of their fields, oldest first.
def told (message field : String) (journal : List Event) : List Nat :=
  (journal.filter (·.message = message)).reverse.filterMap (·.fields.lookup field)

def sinceTeardown (journal : List Event) : List Event :=
  journal.takeWhile (!·.isTeardown)

def committedSizes (journal : List Event) : List Nat :=
  told "committed entry" "size" (sinceTeardown journal)

def evictedSizes (journal : List Event) : List Nat :=
  told "evicted oldest entry" "size" (sinceTeardown journal)

variable {capacity : Nat} {journal : List Event} {sizes : List Nat} {event : Event}

theorem count_cons (message : String) (event : Event) (journal : List Event) :
    count message (event :: journal) =
      count message journal + if event.message = message then 1 else 0 := by
  simp [count, List.countP_cons]

theorem told_cons (message field : String) (event : Event) (journal : List Event) :
    told message field (event :: journal) = told message field journal ++
      if event.message = message then (event.fields.lookup field).toList else [] := by
  by_cases same : event.message = message
  · cases found : event.fields.lookup field <;> simp [told, same, found]
  · simp [told, same]

theorem sinceTeardown_cons (other : event.isTeardown = false) (journal : List Event) :
    sinceTeardown (event :: journal) = event :: sinceTeardown journal :=
  List.takeWhile_cons_of_pos (by simp [other])

-- A journal read as the story of a queue: the sizes of the records that are held at its end.
inductive Tells (capacity : Nat) : List Event → List Nat → Prop where
  | nil : Tells capacity [] []
  | aside {event : Event} {journal : List Event} {sizes : List Nat} (aside : event.isAside = true)
      (before : Tells capacity journal sizes) : Tells capacity (event :: journal) sizes
  | evicted {journal : List Event} {size : Nat} {sizes : List Nat}
      (before : Tells capacity journal (size :: sizes)) :
      Tells capacity (.evicted size :: journal) sizes
  | committed {journal : List Event} {sizes : List Nat} (session : SessionId) (size : Nat)
      (room : sizes.length < capacity) (before : Tells capacity journal sizes) :
      Tells capacity (.committed session size (sizes.length + 1) :: journal) (sizes ++ [size])
  | tornDown {journal : List Event} {sizes : List Nat} (before : Tells capacity journal sizes) :
      Tells capacity (.tornDown sizes.length :: journal) []

theorem Tells.balance (tells : Tells capacity journal sizes) :
    committedSizes journal = evictedSizes journal ++ sizes := by
  unfold committedSizes evictedSizes
  induction tells with
  | nil => rfl
  | aside aside _ ih =>
    obtain ⟨commits, evicts, other⟩ := Event.aside_message aside
    simp [sinceTeardown_cons other, told_cons, commits, evicts, ih]
  | evicted _ ih =>
    rw [sinceTeardown_cons rfl]
    simp [told_cons, Event.message, Event.fields, ih]
  | committed session size room _ ih =>
    rw [sinceTeardown_cons rfl]
    simp [told_cons, Event.message, Event.fields, List.lookup_cons, ih]
  | tornDown _ _ => rfl

-- A journal that can be read to its end can be read to any point before.
theorem Tells.before {past : List Event} (tells : Tells capacity journal sizes)
    (earlier : past <:+ journal) : ∃ sizes, Tells capacity past sizes := by
  obtain ⟨latter, rfl⟩ := earlier
  induction latter generalizing sizes with
  | nil => exact ⟨sizes, tells⟩
  | cons event latter ih =>
    cases tells with
    | aside _ before => exact ih before
    | evicted before => exact ih before
    | committed _ _ _ before => exact ih before
    | tornDown before => exact ih before

-- What a journal says, up to one of its events, about the events before.
structure Faithful (capacity : Nat) (past : List Event) : Prop where
  order : evictedSizes past <+: committedSizes past
  held : ∀ session size held former, past = .committed session size held :: former →
    held + (evictedSizes past).length = (committedSizes past).length ∧ held ≤ capacity
  released : ∀ released former, past = .tornDown released :: former →
    released + (evictedSizes former).length = (committedSizes former).length

theorem Tells.faithful (tells : Tells capacity journal sizes) : Faithful capacity journal := by
  have whole := tells.balance
  refine ⟨⟨sizes, whole.symm⟩, ?_, ?_⟩
  · rintro session size held former rfl
    cases tells with
    | aside aside => cases aside
    | committed _ _ room before =>
      rw [whole, List.length_append, List.length_append]
      exact ⟨Nat.add_comm _ _, room⟩
  · rintro released former rfl
    cases tells with
    | aside aside => cases aside
    | tornDown before =>
      rw [before.balance, List.length_append]
      exact Nat.add_comm _ _

end Journal

namespace Tally

structure Counts (tally : Tally) (journal : List Event) : Prop where
  commits : tally.commits = UInt64.ofNat (Journal.count "committed entry" journal)
  evictions : tally.evictions = UInt64.ofNat (Journal.count "evicted oldest entry" journal)
  discards : tally.discards = UInt64.ofNat (Journal.count "discarded unterminated write" journal)

variable {tally : Tally} {journal : List Event}

theorem Counts.aside (counts : tally.Counts journal) {event : Event}
    (commits : event.message ≠ "committed entry")
    (evictions : event.message ≠ "evicted oldest entry")
    (discards : event.message ≠ "discarded unterminated write") :
    tally.Counts (event :: journal) := by
  constructor
  · simpa [Journal.count_cons, commits] using counts.commits
  · simpa [Journal.count_cons, evictions] using counts.evictions
  · simpa [Journal.count_cons, discards] using counts.discards

theorem Counts.committed (counts : tally.Counts journal) (id : SessionId) (size held : Nat) :
    tally.countCommit.Counts (.committed id size held :: journal) := by
  constructor <;> simp [countCommit, Journal.count_cons, Event.message, counts.commits,
    counts.evictions, counts.discards]

theorem Counts.evicted (counts : tally.Counts journal) (size : Nat) :
    tally.countEviction.Counts (.evicted size :: journal) := by
  constructor <;> simp [countEviction, Journal.count_cons, Event.message, counts.commits,
    counts.evictions, counts.discards]

theorem Counts.discarded (counts : tally.Counts journal) (id : SessionId) (size : Nat) :
    tally.countDiscard.Counts (.discarded id size :: journal) := by
  constructor <;> simp [countDiscard, Journal.count_cons, Event.message, counts.commits,
    counts.evictions, counts.discards]

theorem Counts.read (counts : tally.Counts journal) (size : Nat) :
    (tally.countRead size).Counts journal := by
  unfold countRead
  split
  · exact counts
  · exact ⟨counts.commits, counts.evictions, counts.discards⟩

end Tally

namespace Log

variable {log after : Log} {deed : Deed} {deeds : List Deed}

structure Told (log : Log) : Prop where
  held : Journal.Tells log.settings.capacity log.journal (log.held.map Record.size)
  counts : log.tally.Counts log.journal

theorem note_told (told : log.Told) (event : Event) (aside : event.isAside = true)
    (kept : event.message ≠ "discarded unterminated write") : (log.note event).Told := by
  obtain ⟨commits, evictions, _⟩ := Event.aside_message aside
  exact ⟨told.held.aside aside, told.counts.aside commits evictions kept⟩

-- The line of a commit, where the record is in the ring and its line is not told yet.
theorem committed_told (pushed : Log) {others : List Record} {record : Record}
    (held : pushed.ring.Holds (others ++ [record]))
    (room : others.length < pushed.settings.capacity)
    (before : Journal.Tells pushed.settings.capacity pushed.journal (others.map Record.size))
    (counts : pushed.tally.Counts pushed.journal) (id : SessionId) :
    ({ pushed with tally := pushed.tally.countCommit }.note
      (.committed id record.size pushed.ring.size)).Told := by
  have size : pushed.ring.size = (others.map Record.size).length + 1 := by
    rw [held.size_eq, List.length_append, List.length_map, List.length_singleton]
  have next := before.committed id record.size (by rwa [List.length_map])
  rw [← size] at next
  refine ⟨?_, counts.committed id _ _⟩
  simpa [note, Log.held, held.toList_eq] using next

theorem commit_sound (sound : log.Sound) (id : SessionId) (record : Record) :
    (log.commit id record).Sound := by
  obtain ⟨journal, committed⟩ := commit_eq id log record
  obtain ⟨kept, holds, _, _⟩ := sound.ring.push_kept record
  rw [committed]
  refine ⟨?_, ?_, sound.terminator⟩
  · rw [held, holds.toList_eq]
    exact holds
  · exact (Ring.capacity_push _ _).trans sound.capacity

theorem commit_told (sound : log.Sound) (told : log.Told) (id : SessionId) (record : Record) :
    (log.commit id record).Told := by
  have before := told.held
  unfold commit
  rcases pushed : log.ring.push record with ⟨ring, evicted⟩
  rcases Nat.lt_or_eq_of_le sound.ring.bounded with room | brim
  · obtain ⟨holds, none⟩ := sound.ring.push_room room record
    rw [pushed] at holds none
    cases none
    exact committed_told { log with ring } holds (sound.capacity ▸ room) before told.counts id
  · obtain ⟨holds, some⟩ := sound.ring.push_full brim record
    have positive := sound.ring.positive
    rw [pushed] at holds some
    cases held : log.held with
    | nil =>
      rw [held] at brim
      exact absurd brim (Nat.ne_of_lt positive)
    | cons oldest others =>
      rw [held] at holds some brim before
      cases some
      exact committed_told (countEviction { log with ring } oldest) holds
        (sound.capacity ▸ Nat.lt_of_succ_le (Nat.le_of_eq brim)) before.evicted
        (told.counts.evicted _) id

theorem commits_told (sound : log.Sound) (told : log.Told) (id : SessionId)
    (records : List Record) : (records.foldl (commit id) log).Told := by
  induction records generalizing log with
  | nil => exact told
  | cons record records ih =>
    exact ih (commit_sound sound id record) (commit_told sound told id record)

theorem write_told (sound : log.Sound) (told : log.Told) (id : SessionId) (chunk : Bytes) :
    (log.write id chunk).Told := by
  have ends := append_terminator log.pending chunk
  unfold write
  rcases appended : log.pending.append chunk with ⟨pending, _ | records⟩
  · have kept : Told { log with pending, contributors := log.contributors.insert id } :=
      ⟨told.held, told.counts⟩
    have buffered := note_told kept (.buffered id chunk.length) rfl (by simp [Event.message])
    exact ⟨buffered.held, ⟨buffered.counts.commits, buffered.counts.evictions,
      buffered.counts.discards⟩⟩
  · rw [appended] at ends
    have cleared : Sound { log with
        pending, contributors := if pending.isEmpty then [] else [id] } :=
      ⟨sound.ring, sound.capacity, ends.trans sound.terminator⟩
    have committed := commits_told cleared ⟨told.held, told.counts⟩ id records
    exact ⟨committed.held, ⟨committed.counts.commits, committed.counts.evictions,
      committed.counts.discards⟩⟩

theorem read_told (told : log.Told) (cursor : UInt64) (limit : Nat) (since : Option UInt64) :
    (log.read cursor limit since).1.Told := by
  unfold read
  split
  · exact told
  · split
    · exact note_told told (.readAtEnd cursor) rfl (by simp [Event.message])
    · rename_i location _
      have counted : Told { log with
          tally := log.tally.countRead (location.remaining.take limit).length } :=
        ⟨told.held, told.counts.read _⟩
      exact note_told counted (.read cursor _) rfl (by simp [Event.message])

theorem discard_told (told : log.Told) (id : SessionId) : (log.discard id).1.Told := by
  by_cases contributor : id ∈ log.contributors
  · rw [discard_lost contributor]
    exact ⟨told.held.aside rfl, told.counts.discarded _ _⟩
  · rw [discard_kept contributor]
    exact told

theorem teardown_told (sound : log.Sound) (told : log.Told) : log.teardown.1.Told := by
  obtain ⟨holds, count⟩ := sound.ring.clear_empty
  have empty : log.teardown.1.held = [] := holds.toList_eq
  have next := told.held.tornDown
  rw [List.length_map, ← count] at next
  refine ⟨?_, told.counts.aside (by simp [Event.message]) (by simp [Event.message])
    (by simp [Event.message])⟩
  rw [empty]
  exact next

theorem Pass.told (pass : Pass log deed after) (sound : log.Sound) (told : log.Told) :
    after.Told := by
  cases pass with
  | interrupted =>
    exact ⟨told.held, ⟨told.counts.commits, told.counts.evictions, told.counts.discards⟩⟩
  | looked => exact told
  | opened =>
    have numbered : Told { log with nextSession := log.nextSession + 1 } :=
      ⟨told.held, told.counts⟩
    exact note_told numbered (.opened log.admitSession.2) rfl (by simp [Event.message])
  | wrote filled => exact write_told sound told _ _
  | read found => exact read_told told _ _ _
  | fetched found => exact read_told told _ _ _
  | positioned => exact told
  | sought => exact note_told told _ rfl (by simp [Event.message])
  | discarded => exact discard_told told _
  | ended => exact note_told (discard_told told _) _ rfl (by simp [Event.message])
  | tornDown => exact teardown_told sound told

theorem Passes.told (passes : Passes log deeds after) (sound : log.Sound) (told : log.Told) :
    after.Told := by
  induction passes with
  | nil => exact told
  | cons pass _ ih => exact ih (pass.sound sound) (pass.told sound told)

theorem fresh_told {settings : Settings} (valid : settings.check = .ok ()) :
    (fresh settings).Told := by
  refine ⟨?_, ⟨rfl, rfl, rfl⟩⟩
  rw [(fresh_sound valid).2]
  exact .aside rfl .nil

end Log

end CircularLog
