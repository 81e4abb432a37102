import CircularLog.Proofs.Likeness
import CircularLog.Proofs.Writing

namespace CircularLog

variable {β : Type}

def SessionCall.reads : SessionCall → Bool
  | .read _ | .readAll _ | .readAt _ _ | .seekTo _ _ | .seek _ => true
  | _ => false

def StreamCall.reads : StreamCall → Bool
  | .read _ | .readExact _ | .readToEnd | .readToString | .seek _ | .rewind | .position => true
  | _ => false

-- To read exactly nothing does not come to the gate, and any other way to read does.
def StreamCall.looks : StreamCall → Bool
  | .readExact wanted => wanted != 0
  | _ => true

namespace Call

def readsFor (number : Nat) : Call → Bool
  | .session caller call => caller == number && call.reads
  | .stream caller call => caller == number && call.reads
  | _ => false

def looks : Call → Bool
  | .stream _ call => call.looks
  | _ => true

end Call

def Tally.unread (tally : Tally) : Tally :=
  { tally with reads := 0, bytesRead := 0 }

def Tally.withReads (reads bytes : UInt64) (tally : Tally) : Tally :=
  { tally with reads := tally.reads + reads, bytesRead := tally.bytesRead + bytes }

def Snapshot.unread (snapshot : Snapshot) : Snapshot :=
  { snapshot with tally := snapshot.tally.unread }

def Snapshot.withReads (reads bytes : UInt64) (snapshot : Snapshot) : Snapshot :=
  { snapshot with tally := snapshot.tally.withReads reads bytes }

namespace Log

variable {log other : Log}

def unread (log : Log) : Log :=
  { log with tally := log.tally.unread, journal := [] }

-- Some more reads on one side.
def Reread (reads bytes : UInt64) (log other : Log) : Prop :=
  ∃ journal, other = { log with tally := log.tally.withReads reads bytes, journal }

theorem Reread.unread {reads bytes : UInt64} (reread : log.Reread reads bytes other) :
    other.unread = log.unread := by
  obtain ⟨journal, rfl⟩ := reread
  rfl

theorem reread_of_unread (same : other.unread = log.unread) :
    ∃ reads bytes, log.Reread reads bytes other := by
  refine ⟨other.tally.reads - log.tally.reads, other.tally.bytesRead - log.tally.bytesRead,
    other.journal, ?_⟩
  have back : ∀ before after : UInt64, before + (after - before) = after := by
    intro before after
    rw [UInt64.add_comm, UInt64.sub_add_cancel]
  obtain ⟨settings, ring, pending, contributors, generation, tally, nextSession, journal⟩ := log
  obtain ⟨settings', ring', pending', contributors', generation', tally', nextSession', journal'⟩ :=
    other
  obtain ⟨rfl, rfl, rfl, rfl, rfl, tallies, rfl, _⟩ := Log.mk.inj same
  obtain ⟨writes, bytesWritten, reads, bytesRead, others⟩ := tally
  obtain ⟨writes', bytesWritten', reads', bytesRead', others'⟩ := tally'
  obtain ⟨rfl, rfl, _, _, rfl, rfl, rfl, rfl⟩ := Tally.mk.inj tallies
  simp only [Tally.withReads, back]

theorem countRead_withReads (reads bytes : UInt64) (tally : Tally) (size : Nat) :
    (tally.withReads reads bytes).countRead size =
      (tally.countRead size).withReads reads bytes := by
  unfold Tally.countRead
  split
  · rfl
  · simp only [Tally.withReads, UInt64.add_assoc, UInt64.add_comm reads, UInt64.add_comm bytes]

theorem Reread.read {reads bytes : UInt64} (reread : log.Reread reads bytes other)
    (cursor : UInt64) (limit : Nat) (since : Option UInt64) :
    (log.read cursor limit since).1.Reread reads bytes (other.read cursor limit since).1 := by
  obtain ⟨journal, rfl⟩ := reread
  unfold Log.read
  dsimp only [held]
  split
  · exact ⟨journal, rfl⟩
  · split
    · exact ⟨_, rfl⟩
    · rename_i location _
      refine ⟨.read cursor (location.remaining.take limit).length :: journal, ?_⟩
      simp only [note, countRead_withReads]

theorem Reread.write {reads bytes : UInt64} (reread : log.Reread reads bytes other)
    (id : SessionId) (chunk : Bytes) :
    (log.write id chunk).Reread reads bytes (other.write id chunk) := by
  obtain ⟨journal, rfl⟩ := reread
  obtain ⟨_, written⟩ := write_eq log id chunk
  obtain ⟨journal, rewritten⟩ :=
    write_eq { log with tally := log.tally.withReads reads bytes, journal } id chunk
  refine ⟨journal, ?_⟩
  rw [written, rewritten]
  rfl

theorem Reread.discard {reads bytes : UInt64} (reread : log.Reread reads bytes other)
    (id : SessionId) : Same (Reread reads bytes) (log.discard id) (other.discard id) := by
  obtain ⟨journal, rfl⟩ := reread
  by_cases contributor : id ∈ log.contributors
  · have again : id ∈ { log with tally := log.tally.withReads reads bytes, journal }.contributors :=
      contributor
    rw [discard_lost contributor, discard_lost again]
    exact ⟨rfl, _, rfl⟩
  · have again : id ∉ { log with tally := log.tally.withReads reads bytes, journal }.contributors :=
      contributor
    rw [discard_kept contributor, discard_kept again]
    exact ⟨rfl, _, rfl⟩

theorem reread_likeness (reads bytes : UInt64) :
    Likeness (Reread reads bytes) (Snapshot.withReads reads bytes) true where
  dates _ _ := rfl
  settings := by rintro log _ ⟨journal, rfl⟩; rfl
  held := by rintro log _ ⟨journal, rfl⟩; rfl
  generation := by rintro log _ ⟨journal, rfl⟩; rfl
  nextSession := by rintro log _ ⟨journal, rfl⟩; rfl
  snapshot := by rintro log _ ⟨journal, rfl⟩; rfl
  note := by rintro log _ event ⟨journal, rfl⟩; exact ⟨_, rfl⟩
  interrupted := by rintro log _ ⟨journal, rfl⟩; exact ⟨_, rfl⟩
  admitted := by rintro log _ ⟨journal, rfl⟩; exact ⟨_, rfl⟩
  wrote id chunk reread := reread.write id chunk
  read cursor limit since reread := reread.read cursor limit since
  discarded id reread := reread.discard id
  tornDown := by rintro log _ ⟨journal, rfl⟩; exact ⟨rfl, _, rfl⟩

theorem read_unread (log : Log) (cursor : UInt64) (limit : Nat) (since : Option UInt64) :
    (log.read cursor limit since).1.unread = log.unread := by
  unfold read
  split
  · rfl
  · split
    · rfl
    · simp only [unread, note, Tally.countRead, Tally.unread]
      split <;> rfl

end Log

namespace SharedLog

variable {shared other : SharedLog} {handle : Option Handle}

def unread (shared : SharedLog) : SharedLog :=
  shared.adjust Log.unread

theorem unread_iff : other.unread = shared.unread ↔
    other.log.unread = shared.log.unread ∧ other.gate.flags = shared.gate.flags := by
  constructor
  · intro same
    exact ⟨congrArg SharedLog.log same, congrArg (·.gate.flags) same⟩
  · rintro ⟨logs, flags⟩
    have same : (⟨⟨other.log.unread, other.gate.flags⟩⟩ : SharedLog) =
        ⟨⟨shared.log.unread, shared.gate.flags⟩⟩ := by rw [logs, flags]
    exact same

theorem unread_alike (same : other.unread = shared.unread) :
    ∃ reads bytes, shared.Like (Log.Reread reads bytes) other := by
  obtain ⟨logs, flags⟩ := unread_iff.mp same
  obtain ⟨reads, bytes, reread⟩ := Log.reread_of_unread logs
  exact ⟨reads, bytes, reread, flags⟩

theorem Like.unread {reads bytes : UInt64} (alike : shared.Like (Log.Reread reads bytes) other) :
    other.unread = shared.unread :=
  unread_iff.mpr ⟨alike.log.unread, alike.flags⟩

theorem heeded_unread (same : other.unread = shared.unread) (handle : Option Handle) :
    (other.heeded handle).unread = (shared.heeded handle).unread := by
  obtain ⟨logs, flags⟩ := unread_iff.mp same
  cases handle with
  | none => exact same
  | some key =>
    rw [heeded, heeded, flags]
    cases shared.gate.flags.isRaised key with
    | false => exact same
    | true => exact unread_iff.mpr ⟨congrArg Log.countInterrupt logs, congrArg (·.lower key) flags⟩

theorem enter_heeded {act : Log → Log × Except Fault β}
    (looks : ∀ log, (act log).1.unread = log.unread) (shared : SharedLog) (handle : Option Handle) :
    (shared.enter handle act).1.unread = (shared.heeded handle).unread := by
  cases free : handle.any shared.gate.flags.isRaised with
  | false =>
    rw [enter_free free, heeded_free free]
    exact unread_iff.mpr ⟨looks shared.log, rfl⟩
  | true => rw [enter_away free]

theorem read_heeded (shared : SharedLog) (handle : Option Handle) (cursor : UInt64) (limit : Nat)
    (since : Option UInt64) :
    (shared.read handle cursor limit since).1.unread = (shared.heeded handle).unread :=
  enter_heeded (fun log => log.read_unread cursor limit since) shared handle

theorem ask_heeded (shared : SharedLog) (handle : Option Handle)
    (question : Log → Except Fault β) :
    (shared.ask handle question).1.unread = (shared.heeded handle).unread :=
  enter_heeded (fun _ => rfl) shared handle

end SharedLog

def Session.unplaced (session : Session) : Session :=
  { session with cursor := 0, generation := 0 }

theorem Session.unplaced_eq {session other : Session} (same : other.unplaced = session.unplaced) :
    other = { session with cursor := other.cursor, generation := other.generation } := by
  obtain ⟨id, handle, cursor, generation, ended⟩ := session
  obtain ⟨id', handle', cursor', generation', ended'⟩ := other
  obtain ⟨rfl, rfl, _, _, rfl⟩ := Session.mk.inj same
  rfl

def Session.beside (own : Bool) (session : Session) : Session :=
  if own then session.unplaced else session

theorem Session.ended_beside (own : Bool) (session : Session) :
    (session.beside own).ended = session.ended := by
  cases own <;> rfl

namespace Channel

variable {channel other middle after : Channel} {looks own : Bool}

-- A reader may have come to the gate, and nobody else can tell what it did there.
structure Heeds (looks : Bool) (channel after : Channel) : Prop where
  shared : after.shared.unread =
    (if looks then channel.shared.heeded channel.session.handle else channel.shared).unread
  session : after.session.unplaced = channel.session.unplaced

-- Once a flag is lowered, coming again makes no difference.
theorem Heeds.trans (first : channel.Heeds true middle) (second : middle.Heeds looks after) :
    channel.Heeds true after := by
  have named := congrArg Session.handle first.session
  have handle : middle.session.handle = channel.session.handle := named
  have again := SharedLog.heeded_unread first.shared channel.session.handle
  rw [if_pos rfl, SharedLog.heeded_free (SharedLog.heeded_lowered _ _)] at again
  refine ⟨?_, second.session.trans first.session⟩
  cases looks with
  | true =>
    rw [second.shared, handle]
    exact again
  | false =>
    rw [second.shared]
    exact first.shared

theorem Heeds.nothing (channel : Channel) : channel.Heeds false channel :=
  ⟨rfl, rfl⟩

theorem read_heeds (channel : Channel) (limit : Nat) :
    channel.Heeds true (channel.read limit).1 := by
  have heeded := channel.shared.read_heeded channel.session.handle channel.session.cursor limit
    channel.since
  unfold read
  split
  · rename_i made
    rw [made] at heeded
    exact ⟨heeded, rfl⟩
  · rename_i made
    rw [made] at heeded
    exact ⟨heeded, rfl⟩

theorem readAt_heeds (channel : Channel) (cursor : UInt64) (limit : Nat) :
    channel.Heeds true (channel.readAt cursor limit).1 :=
  ⟨channel.shared.read_heeded channel.session.handle cursor limit none, rfl⟩

theorem seekTo_heeds (channel : Channel) (index offset : Nat) :
    channel.Heeds true (channel.seekTo index offset).1 := by
  have heeded := channel.shared.ask_heeded channel.session.handle (·.locate index offset)
  unfold seekTo SharedLog.locate
  split
  · rename_i made
    rw [made] at heeded
    exact ⟨heeded, rfl⟩
  · rename_i made
    rw [made] at heeded
    exact ⟨heeded, rfl⟩

theorem seek_heeds (channel : Channel) (whence : Whence) :
    channel.Heeds true (channel.seek whence).1 := by
  have heeded := channel.shared.ask_heeded channel.session.handle
    fun log => .ok (log.heldBytes, log.generation)
  unfold seek SharedLog.extent
  split
  · rename_i made
    rw [made] at heeded
    exact ⟨heeded, rfl⟩
  · rename_i made
    rw [made] at heeded
    dsimp only
    split
    · exact ⟨heeded, rfl⟩
    · exact ⟨heeded, rfl⟩

theorem persist_heeds {call : Channel → Channel × Except Fault β}
    (heeds : ∀ channel : Channel, channel.Heeds true (call channel).1) (channel : Channel) :
    channel.Heeds true (channel.persist call).1 := by
  have once := heeds channel
  unfold persist
  split
  · rename_i made
    rw [made] at once
    exact once.trans (heeds _)
  · exact once

theorem drain_heeds (channel : Channel) (limit : Nat) (pieces : List Bytes) (budget : Nat) :
    channel.Heeds (budget != 0) (channel.drain limit pieces budget).1 := by
  induction budget generalizing channel pieces with
  | zero => exact .nothing channel
  | succ budget ih =>
    have once := channel.read_heeds limit
    unfold drain
    rcases made : channel.read limit with ⟨after, fault | data⟩
    · rw [made] at once
      exact once
    · rw [made] at once
      dsimp only
      split
      · exact once
      · exact once.trans (ih after _)

theorem fill_heeds (channel : Channel) (pieces : List Bytes) (budget wanted : Nat) :
    channel.Heeds (budget != 0 && wanted != 0) (channel.fill pieces budget wanted).1 := by
  induction budget generalizing channel pieces wanted with
  | zero => cases wanted <;> exact .nothing channel
  | succ budget ih =>
    cases wanted with
    | zero => exact .nothing channel
    | succ wanted =>
      have once := channel.persist_heeds (read_heeds · (wanted + 1))
      unfold fill
      rcases made : channel.persist (·.read (wanted + 1)) with ⟨after, fault | data⟩
      · rw [made] at once
        exact once
      · rw [made] at once
        dsimp only
        split
        · exact once
        · exact once.trans (ih after _ _)

theorem gather_heeds (channel : Channel) (pieces : List Bytes) (budget : Nat) :
    channel.Heeds (budget != 0) (channel.gather pieces budget).1 := by
  induction budget generalizing channel pieces with
  | zero => exact .nothing channel
  | succ budget ih =>
    have once := channel.persist_heeds (read_heeds · channel.shared.log.heldBytes)
    unfold gather
    rcases made : channel.persist (·.read channel.shared.log.heldBytes) with ⟨after, fault | data⟩
    · rw [made] at once
      exact once
    · rw [made] at once
      dsimp only
      split
      · exact once
      · exact once.trans (ih after _)

theorem readToEnd_heeds (channel : Channel) : channel.Heeds true channel.readToEnd.1 := by
  have gathered := channel.gather_heeds [] (channel.shared.log.heldBytes + 1)
  unfold readToEnd
  dsimp only
  split
  · exact gathered
  · exact gathered

theorem answer_heeds (channel : Channel) {call : SessionCall} (reads : call.reads = true) :
    channel.Heeds true (channel.answer call).1 := by
  cases call with
  | read limit => exact channel.read_heeds limit
  | readAll limit => exact channel.drain_heeds limit [] (channel.shared.log.heldBytes + 1)
  | readAt cursor limit => exact channel.readAt_heeds cursor limit
  | seekTo index offset => exact channel.seekTo_heeds index offset
  | seek whence => exact channel.seek_heeds whence
  | _ => cases reads

theorem answerStream_heeds (channel : Channel) {call : StreamCall} (reads : call.reads = true) :
    channel.Heeds call.looks (channel.answerStream call).1 := by
  cases call with
  | read limit => exact channel.read_heeds limit
  | readExact wanted =>
    have filled := channel.fill_heeds [] wanted wanted
    rw [Bool.and_self] at filled
    exact filled
  | readToEnd => exact channel.readToEnd_heeds
  | readToString => exact (readToString_channel channel).symm ▸ channel.readToEnd_heeds
  | seek whence => exact channel.seek_heeds whence
  | rewind => exact channel.seek_heeds (.start 0)
  | position => exact channel.seek_heeds (.current 0)
  | _ => cases reads

theorem release_positioned (cursor generation : UInt64) (handle : Option Handle) :
    Commutes (positioned · cursor generation) id fun channel => channel.release handle := by
  intro channel
  unfold release positioned
  dsimp only
  by_cases ended : channel.session.ended = true
  · rw [if_pos ended, if_pos ended]
    rfl
  · rw [if_neg ended, if_neg ended]
    rcases channel.shared.discard handle channel.session.id with ⟨shared, fault | lost⟩ <;> rfl

-- Only a read, or what moves the cursor for it, asks where the cursor is.
theorem answer_positioned {call : SessionCall} (other : call.reads = false)
    (cursor generation : UInt64) :
    Commutes (positioned · cursor generation) id fun channel => channel.answer call := by
  intro channel
  cases call with
  | write chunk => rfl
  | settings => rfl
  | close =>
    have close := close_commutes (release_positioned cursor generation) fun _ => rfl
    exact congrArg (Prod.map id (Reply.ofResult .count)) (close channel)
  | drop =>
    exact congrArg (·, Reply.done) (drop_commutes (release_positioned cursor generation) channel)
  | _ => cases other

theorem answerStream_positioned {call : StreamCall} (other : call.reads = false)
    (cursor generation : UInt64) :
    Commutes (positioned · cursor generation) id fun channel => channel.answerStream call := by
  intro channel
  cases call with
  | write chunk => rfl
  | writeAll chunk =>
    have write : Commutes (positioned · cursor generation) id (·.write chunk) := fun _ => rfl
    simp only [answerStream, writeAll, persist_commutes write channel]
    rfl
  | flush => rfl
  | _ => cases other

structure Beside (own : Bool) (channel other : Channel) : Prop where
  shared : other.shared.unread = channel.shared.unread
  session : other.session.beside own = channel.session.beside own

theorem Beside.act {act : Channel → Channel × Reply} (beside : channel.Beside own other)
    (alike : ∀ {reads bytes : UInt64} {channel other : Channel},
      channel.Like (Log.Reread reads bytes) true other →
        Same (Like (Log.Reread reads bytes) true) (act channel) (act other))
    (placeless : own = true → ∀ cursor generation,
      Commutes (positioned · cursor generation) id act) :
    Same (Beside own) (act channel) (act other) := by
  obtain ⟨reads, bytes, shared⟩ := SharedLog.unread_alike beside.shared
  have twin : channel.Like (Log.Reread reads bytes) true ⟨other.shared, channel.session⟩ :=
    ⟨shared, rfl, rfl, rfl, rfl, fun _ => rfl⟩
  obtain ⟨told, after⟩ := alike twin
  have same : (act ⟨other.shared, channel.session⟩).1.session = (act channel).1.session :=
    Session.like_iff.mp after.session
  have session := beside.session
  cases own with
  | false =>
    have equal : other.session = channel.session := session
    rw [← equal] at told after same
    exact ⟨told, after.shared.unread, same⟩
  | true =>
    have moved : other = Channel.positioned ⟨other.shared, channel.session⟩ other.session.cursor
        other.session.generation :=
      congrArg (Channel.mk other.shared) (Session.unplaced_eq session)
    have seen := congrArg Session.unplaced same
    rw [moved, placeless rfl other.session.cursor other.session.generation]
    exact ⟨told, after.shared.unread, seen⟩

theorem Beside.reads {act : Channel → Channel × Reply} (beside : channel.Beside true other)
    (heeds : ∀ channel : Channel, channel.Heeds looks (act channel).1) :
    (act channel).1.Beside true (act other).1 := by
  have named := congrArg Session.handle beside.session
  have handle : other.session.handle = channel.session.handle := named
  refine ⟨?_, ?_⟩
  · rw [(heeds other).shared, (heeds channel).shared, handle]
    cases looks with
    | true => exact SharedLog.heeded_unread beside.shared _
    | false => exact beside.shared
  · have back := (heeds other).session.trans (beside.session.trans (heeds channel).session.symm)
    exact back

-- A call of the reader itself, or of somebody else.
theorem Beside.call {act : Channel → Channel × Reply} {reads : Bool}
    (beside : channel.Beside own other)
    (alike : ∀ {more bytes : UInt64} {channel other : Channel},
      channel.Like (Log.Reread more bytes) true other →
        Same (Like (Log.Reread more bytes) true) (act channel) (act other))
    (placeless : reads = false → ∀ cursor generation,
      Commutes (positioned · cursor generation) id act)
    (heeds : reads = true → ∀ channel : Channel, channel.Heeds looks (act channel).1) :
    (act channel).1.Beside own (act other).1 ∧
      ((own && reads) = false → (act other).2 = (act channel).2) := by
  cases reader : own && reads with
  | false =>
    have other : own = true → reads = false := by
      intro own
      simpa [own] using reader
    obtain ⟨told, after⟩ := beside.act alike fun own => placeless (other own)
    exact ⟨after, fun _ => told⟩
  | true =>
    obtain ⟨rfl, reads⟩ := Bool.and_eq_true_iff.mp reader
    exact ⟨beside.reads (heeds reads), nofun⟩

theorem Beside.answer (beside : channel.Beside own other) (call : SessionCall) :
    (channel.answer call).1.Beside own (other.answer call).1 ∧
      ((own && call.reads) = false → (other.answer call).2 = (channel.answer call).2) :=
  beside.call (fun alike => alike.answer (Log.reread_likeness _ _) call) answer_positioned
    fun reads channel => channel.answer_heeds reads

theorem Beside.answerStream (beside : channel.Beside own other) (call : StreamCall) :
    (channel.answerStream call).1.Beside own (other.answerStream call).1 ∧
      ((own && call.reads) = false →
        (other.answerStream call).2 = (channel.answerStream call).2) :=
  beside.call (fun alike => alike.answerStream (Log.reread_likeness _ _) call)
    answerStream_positioned fun reads channel => channel.answerStream_heeds reads

end Channel

theorem Reply.retold_withReads (reads bytes : UInt64) (reply : Reply) :
    (reply.retold (Snapshot.withReads reads bytes)).retold Snapshot.unread =
      reply.retold Snapshot.unread := by
  cases reply <;> rfl

namespace Station

variable {station other : Station} {number : Nat}

-- A station as it is seen by all but one reader: without the place of its session in the log, the
-- count of what was read, and the journal.
def besides (number : Nat) (station : Station) : Station :=
  ⟨station.shared.unread,
    station.sessions.mapIdx fun place session => session.beside (place == number)⟩

theorem besides_session? (same : other.besides number = station.besides number) (caller : Nat) :
    (station.session? caller = none ∧ other.session? caller = none) ∨
      ∃ session twin, station.session? caller = some session ∧
        other.session? caller = some twin ∧
          Channel.Beside (caller == number) ⟨station.shared, session⟩ ⟨other.shared, twin⟩ := by
  have shared := congrArg Station.shared same
  have sessions := congrArg (·.sessions[caller]?) same
  simp only [besides, List.getElem?_mapIdx] at sessions
  unfold Station.session?
  cases here : station.sessions[caller]? with
  | none =>
    rw [here, Option.map_none, Option.map_eq_none_iff] at sessions
    rw [sessions]
    exact .inl ⟨rfl, rfl⟩
  | some session =>
    rw [here, Option.map_some] at sessions
    obtain ⟨twin, there, beside⟩ := Option.map_eq_some_iff.mp sessions
    have ended : twin.ended = session.ended := by
      rw [← Session.ended_beside (caller == number), beside, Session.ended_beside]
    rw [there]
    cases live : session.ended with
    | true => exact .inl ⟨by simp [live], by simp [ended, live]⟩
    | false =>
      exact .inr ⟨session, twin, by simp [live], by simp [ended, live], shared, beside⟩

theorem besides_visit (same : other.besides number = station.besides number) (caller : Nat)
    {act : Channel → Channel × Reply} {reads : Bool}
    (acts : ∀ {channel other : Channel}, channel.Beside (caller == number) other →
      (act channel).1.Beside (caller == number) (act other).1 ∧
        ((caller == number && reads) = false → (act other).2 = (act channel).2)) :
    (other.visit caller act).1.besides number = (station.visit caller act).1.besides number ∧
      ((caller == number && reads) = false →
        (other.visit caller act).2 = (station.visit caller act).2) := by
  rcases besides_session? same caller with ⟨here, there⟩ | ⟨session, twin, here, there, beside⟩
  · rw [visit_none here, visit_none there]
    exact ⟨same, fun _ => rfl⟩
  · have sessions := congrArg Station.sessions same
    obtain ⟨after, told⟩ := acts beside
    rw [visit_some here, visit_some there]
    refine ⟨?_, told⟩
    unfold besides at sessions ⊢
    dsimp only at sessions ⊢
    rw [List.mapIdx_set, List.mapIdx_set, after.shared, after.session, sessions]

-- Whatever is called on both sides, they stay the same but for what the reader did, and all calls
-- but the reads get the same replies.
theorem besides_step (same : other.besides number = station.besides number) (call : Call) :
    (other.step call).1.besides number = (station.step call).1.besides number ∧
      (call.readsFor number = false →
        (other.step call).2.retold Snapshot.unread =
          (station.step call).2.retold Snapshot.unread) := by
  have shared : other.shared.unread = station.shared.unread := congrArg Station.shared same
  have sessions := congrArg Station.sessions same
  obtain ⟨reads, bytes, alike⟩ := SharedLog.unread_alike shared
  have laws := Log.reread_likeness reads bytes
  cases call with
  | openSession =>
    have count : other.sessions.length = station.sessions.length := by
      simpa [besides] using congrArg List.length sessions
    obtain ⟨after, session⟩ := alike.opened laws (some (.session station.sessions.length))
    have opened := Session.like_iff.mp session
    unfold Station.step openSession
    rw [count]
    refine ⟨?_, fun _ => congrArg Reply.session session.id⟩
    unfold besides at sessions ⊢
    dsimp only at sessions ⊢
    rw [List.mapIdx_concat, List.mapIdx_concat, count, sessions]
    exact congrArg₂ Station.mk after.unread
      (congrArg (fun session => _ ++ [Session.beside _ session]) opened)
  | session caller call =>
    obtain ⟨after, told⟩ := besides_visit same caller fun beside => beside.answer call
    exact ⟨after, fun other => congrArg (Reply.retold Snapshot.unread) (told other)⟩
  | stream caller call =>
    obtain ⟨after, told⟩ := besides_visit same caller fun beside => beside.answerStream call
    exact ⟨after, fun other => congrArg (Reply.retold Snapshot.unread) (told other)⟩
  | log handle call =>
    obtain ⟨told, after⟩ := alike.answer laws handle call
    refine ⟨?_, fun _ => ?_⟩
    · exact congrArg₂ Station.mk after.unread sessions
    · have replies := congrArg (Reply.retold Snapshot.unread) told
      rw [Reply.retold_withReads] at replies
      exact replies
  | handle handle call =>
    obtain ⟨told, after⟩ := alike.handled handle call
    exact ⟨congrArg₂ Station.mk after.unread sessions,
      fun _ => congrArg (Reply.retold Snapshot.unread) told⟩
  | burst writers times chunk =>
    have after := alike.burst laws writers times chunk
    exact ⟨congrArg₂ Station.mk after.unread sessions, fun _ => rfl⟩

def finds (number : Nat) (station : Station) (call : Call) : Bool :=
  call.looks && (station.session? number).any
    fun session => session.handle.any station.shared.gate.flags.isRaised

theorem spared_visit {act : Channel → Channel × Reply} {looks : Bool}
    (heeds : ∀ channel : Channel, channel.Heeds looks (act channel).1)
    (unfound : (looks && (station.session? number).any
      fun session => session.handle.any station.shared.gate.flags.isRaised) = false) :
    (station.visit number act).1.besides number = station.besides number := by
  cases present : station.session? number with
  | none => rw [visit_none present]
  | some session =>
    rw [present, Option.any_some] at unfound
    obtain ⟨shared, moved⟩ := heeds ⟨station.shared, session⟩
    have quiet : (if looks then station.shared.heeded session.handle else station.shared) =
        station.shared := by
      cases looks with
      | true => exact SharedLog.heeded_free unfound
      | false => rfl
    have stays := congrArg (List.mapIdx fun place session => session.beside (place == number))
      (set_present present)
    have own : ∀ session : Session, session.beside (number == number) = session.unplaced := by
      intro session
      rw [beq_self_eq_true]
      rfl
    rw [List.mapIdx_set, own] at stays
    rw [visit_some present]
    unfold besides
    dsimp only at shared ⊢
    rw [shared, quiet, List.mapIdx_set, own, moved, stays]

theorem spared_step {call : Call} (reads : call.readsFor number = true)
    (unfound : station.finds number call = false) :
    (station.step call).1.besides number = station.besides number := by
  cases call with
  | session caller call =>
    obtain ⟨own, moves⟩ := Bool.and_eq_true_iff.mp reads
    cases eq_of_beq own
    exact spared_visit (fun channel => channel.answer_heeds moves) unfound
  | stream caller call =>
    obtain ⟨own, moves⟩ := Bool.and_eq_true_iff.mp reads
    cases eq_of_beq own
    exact spared_visit (fun channel => channel.answerStream_heeds moves) unfound
  | _ => cases reads

end Station

-- The calls of a run, and for each whether it is left out.
abbrev Selection := List (Bool × Call)

namespace Selection

def whole (selection : Selection) : List Call :=
  selection.map Prod.snd

def kept (selection : Selection) : List Call :=
  (selection.filter (!·.1)).map Prod.snd

end Selection

-- The replies to all calls but the reads of one session. A snapshot is heard without the count of
-- what was read.
def heard (number : Nat) (calls : List Call) (replies : List Reply) : List Reply :=
  ((calls.zip replies).filter (!·.1.readsFor number)).map (·.2.retold Snapshot.unread)

theorem heard_cons (number : Nat) (call : Call) (calls : List Call) (reply : Reply)
    (replies : List Reply) :
    heard number (call :: calls) (reply :: replies) =
      if call.readsFor number then heard number calls replies
      else reply.retold Snapshot.unread :: heard number calls replies := by
  unfold heard
  rw [List.zip_cons_cons, List.filter_cons]
  cases call.readsFor number <;> rfl

namespace Station

variable {station other : Station} {number : Nat} {selection : Selection}

def spares (number : Nat) : Station → Selection → Bool
  | _, [] => true
  | station, (omitted, call) :: selection =>
    (!omitted || (call.readsFor number && !station.finds number call)) &&
      (station.step call).1.spares number selection

theorem spares_take (spares : station.spares number selection = true) (count : Nat) :
    station.spares number (selection.take count) = true := by
  induction selection generalizing station count with
  | nil => rw [List.take_nil, Station.spares]
  | cons choice selection ih =>
    obtain ⟨first, others⟩ := Bool.and_eq_true_iff.mp spares
    cases count with
    | zero => rfl
    | succ count => exact Bool.and_eq_true_iff.mpr ⟨first, ih others count⟩

theorem run_besides (same : other.besides number = station.besides number)
    (spares : station.spares number selection = true) :
    (other.run selection.kept).1.besides number =
        (station.run selection.whole).1.besides number ∧
      heard number selection.kept (other.run selection.kept).2 =
        heard number selection.whole (station.run selection.whole).2 := by
  induction selection generalizing station other with
  | nil => exact ⟨same, rfl⟩
  | cons choice selection ih =>
    obtain ⟨omitted, call⟩ := choice
    obtain ⟨first, others⟩ := Bool.and_eq_true_iff.mp spares
    have whole : Selection.whole ((omitted, call) :: selection) =
        call :: Selection.whole selection := rfl
    rw [whole]
    simp only [run, heard_cons]
    cases omitted with
    | true =>
      obtain ⟨reads, unfound⟩ := Bool.and_eq_true_iff.mp first
      have kept : Selection.kept ((true, call) :: selection) = Selection.kept selection := rfl
      have stays := spared_step reads (by simpa using unfound)
      rw [kept, if_pos reads]
      exact ih (same.trans stays.symm) others
    | false =>
      have kept : Selection.kept ((false, call) :: selection) =
          call :: Selection.kept selection := rfl
      obtain ⟨after, told⟩ := besides_step same call
      obtain ⟨last, replies⟩ := ih after others
      rw [kept]
      simp only [run, heard_cons]
      refine ⟨last, ?_⟩
      cases reads : call.readsFor number with
      | true => exact replies
      | false => simp only [told reads, replies]

-- Reads of a session that are left out of a run make no difference to the replies to all other
-- calls, nor to the station after each of these, but for what is the reader's own.
theorem readers_do_not_interfere (station : Station) (number : Nat) (selection : Selection)
    (spares : station.spares number selection = true) :
    heard number selection.kept (station.run selection.kept).2 =
        heard number selection.whole (station.run selection.whole).2 ∧
      ∀ count,
        let part : Selection := selection.take count
        (station.run part.kept).1.besides number = (station.run part.whole).1.besides number := by
  refine ⟨(run_besides rfl spares).2, ?_⟩
  intro count part
  exact (run_besides rfl (spares_take spares count)).1

theorem reads_of_the_second_session :
    let start := fresh ⟨1, 59, true, 1⟩
    let selection : Selection := [(false, .openSession), (false, .openSession),
      (false, .session 0 (.write [97, 59])), (true, .session 1 (.read 5)),
      (false, .session 0 (.write [98])), (true, .stream 1 (.seek (.start 0))),
      (false, .stream 1 .readToEnd), (false, .session 1 (.write [59])), (true, .stream 1 .rewind),
      (false, .log none .snapshot), (false, .session 1 .close)]
    let after := start.run selection.whole
    let last := start.run selection.kept
    start.spares 1 selection = true ∧
      after.1.shared.log.tally.reads = 2 ∧ last.1.shared.log.tally.reads = 1 ∧
      heard 1 selection.kept last.2 = heard 1 selection.whole after.2 ∧
      last.1.besides 1 = after.1.besides 1 := by
  intro start selection after last
  have spares : start.spares 1 selection = true := by decide +kernel
  have more : after.1.shared.log.tally.reads = 2 := by decide +kernel
  have fewer : last.1.shared.log.tally.reads = 1 := by decide +kernel
  obtain ⟨told, views⟩ := readers_do_not_interfere start 1 selection spares
  exact ⟨spares, more, fewer, told, views selection.length⟩

end Station

end CircularLog
