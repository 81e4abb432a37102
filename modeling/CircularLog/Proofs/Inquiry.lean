import CircularLog.Proofs.Likeness
import CircularLog.Proofs.Seeking

namespace CircularLog

namespace Channel

theorem seek_here (channel : Channel)
    (free : channel.session.handle.any channel.shared.gate.flags.isRaised = false) :
    channel.seek (.current 0) =
      let total := channel.shared.log.heldBytes
      let cursor := channel.session.cursor
      if cursor.toNat ≤ total then
        (channel.positioned cursor channel.shared.log.generation, .ok cursor)
      else (channel, .error (.invalidArgument (.outsideHeld cursor.toNat total))) := by
  have target : Whence.target channel.session.cursor channel.shared.log.heldBytes (.current 0) =
      channel.session.cursor.toNat := Int.add_zero _
  rw [channel.seek_free free]
  simp only [target, Int.toNat_natCast, UInt64.ofNat_toNat, Int.natCast_nonneg, true_and,
    Int.ofNat_le]

end Channel

namespace Log

theorem write_settings (log : Log) (id : SessionId) (chunk : Bytes) :
    (log.write id chunk).settings = log.settings := by
  obtain ⟨journal, written⟩ := write_eq log id chunk
  rw [written]

theorem discard_settings (log : Log) (id : SessionId) :
    (log.discard id).1.settings = log.settings := by
  unfold discard
  split <;> rfl

-- A log that does not look at generations answers the same however its sessions are dated.
theorem undated_likeness :
    Likeness (fun log other => other = log ∧ log.settings.detectStale = false) id false where
  dates := by rintro _ log ⟨rfl, off⟩ detects; cases off.symm.trans detects
  settings := by rintro _ log ⟨rfl, off⟩; rfl
  held := by rintro _ log ⟨rfl, off⟩; rfl
  generation := by rintro _ log ⟨rfl, off⟩; rfl
  nextSession := by rintro _ log ⟨rfl, off⟩; rfl
  snapshot := by rintro _ log ⟨rfl, off⟩; rfl
  note := by rintro _ log event ⟨rfl, off⟩; exact ⟨rfl, off⟩
  interrupted := by rintro _ log ⟨rfl, off⟩; exact ⟨rfl, off⟩
  admitted := by rintro _ log ⟨rfl, off⟩; exact ⟨rfl, off⟩
  wrote := by
    rintro _ log id chunk ⟨rfl, off⟩
    exact ⟨rfl, log.write_settings id chunk ▸ off⟩
  read := by
    rintro _ log cursor limit since ⟨rfl, off⟩
    exact ⟨rfl, (log.read_still cursor limit since).settings ▸ off⟩
  discarded := by
    rintro _ log id ⟨rfl, off⟩
    exact ⟨rfl, rfl, log.discard_settings id ▸ off⟩
  tornDown := by rintro _ log ⟨rfl, off⟩; exact ⟨rfl, rfl, off⟩

end Log

theorem Reply.retold_id (reply : Reply) : reply.retold id = reply := by
  cases reply <;> rfl

namespace Station

variable {station : Station} {number : Nat} {session : Session}

def renewed (station : Station) (number : Nat) (session : Session) : Station :=
  { station with
    sessions := station.sessions.set number
      { session with generation := station.shared.log.generation } }

theorem renewed_current (present : station.session? number = some session)
    (current : session.generation = station.shared.log.generation) :
    station.renewed number session = station := by
  have sessions := set_present present
  unfold renewed
  rw [← current, sessions]

theorem run_renewed (present : station.session? number = some session)
    (off : station.shared.log.settings.detectStale = false) (calls : List Call) :
    ((station.renewed number session).run calls).2 = (station.run calls).2 := by
  have alike : station.Like (fun log other => other = log ∧ log.settings.detectStale = false) false
      (station.renewed number session) := by
    refine ⟨⟨⟨rfl, off⟩, rfl⟩, ?_⟩
    have seen := congrArg (List.map (Session.seen false)) (set_present present)
    rw [List.map_set] at seen
    rw [renewed, List.map_set]
    exact seen
  obtain ⟨replies, _⟩ := alike.run Log.undated_likeness calls
  rw [replies]
  exact (List.map_congr_left fun reply _ => reply.retold_id).trans (List.map_id _)

theorem step_position (present : station.session? number = some session)
    (free : session.handle.any station.shared.gate.flags.isRaised = false) :
    station.step (.stream number .position) =
      if session.cursor.toNat ≤ station.shared.log.heldBytes then
        (station.renewed number session, .cursor session.cursor)
      else (station, .streamFault (.log (.invalidArgument
        (.outsideHeld session.cursor.toNat station.shared.log.heldBytes)))) := by
  have sought := Channel.seek_here ⟨station.shared, session⟩ free
  refine (visit_some present (·.answerStream .position)).trans ?_
  simp only [Channel.answerStream, Channel.streamPosition, Channel.streamSeek, sought]
  split
  · rfl
  · refine congrArg (·, _) ?_
    exact congrArg (Station.mk station.shared) (set_present present)

theorem step_read_free (present : station.session? number = some session)
    (free : session.handle.any station.shared.gate.flags.isRaised = false) (limit : Nat) :
    (station.step (.session number (.read limit))).2 = .ofResult .bytes
      ((station.shared.log.read session.cursor limit (session.since station.shared.log)).2.map
        Prod.fst) := by
  refine (congrArg Prod.snd (visit_some present (·.answer (.read limit)))).trans ?_
  exact congrArg (Reply.ofResult .bytes) (Channel.read_free free limit)

theorem renewed_present (present : station.session? number = some session) :
    (station.renewed number session).session? number =
      some { session with generation := station.shared.log.generation } :=
  session?_set present station.shared _ rfl

theorem read_renewed (present : station.session? number = some session)
    (free : session.handle.any station.shared.gate.flags.isRaised = false)
    (detects : station.shared.log.settings.detectStale = true)
    (behind : session.generation ≠ station.shared.log.generation) (limit : Nat) :
    let log := station.shared.log
    let call := Call.session number (.read limit)
    (station.step call).2 = .fault (.staleCursor session.generation log.generation) ∧
      ∃ data, ((station.renewed number session).step call).2 = .bytes data ∧
        data <+: (joined log.held).drop session.cursor.toNat := by
  intro log call
  have since : ∀ session : Session, session.since log = some session.generation :=
    fun _ => if_pos detects
  constructor
  · have stale := (log.read_since session.cursor limit session.generation).1 behind
    rw [step_read_free present free, since, stale]
    rfl
  · obtain ⟨⟨data, next⟩, found⟩ := (log.read_since session.cursor limit log.generation).2 rfl
    have read := step_read_free (renewed_present present) free limit
    have same : (station.renewed number session).shared.log = log := rfl
    rw [same, since, found] at read
    exact ⟨data, read, (Log.read_found found).2.1⟩

-- The answer is the cursor if it lies among the bytes held, and the session is then where it is from
-- now on. Nobody is told apart by that but a session that was left behind.
theorem position_is_a_seek (present : station.session? number = some session)
    (free : session.handle.any station.shared.gate.flags.isRaised = false) :
    let log := station.shared.log
    let call := Call.stream number .position
    let after := (station.step call).1
    let reply := (station.step call).2
    (session.cursor.toNat ≤ log.heldBytes →
      reply = .cursor session.cursor ∧ after = station.renewed number session) ∧
    (log.heldBytes < session.cursor.toNat →
      reply = .streamFault (.log (.invalidArgument
        (.outsideHeld session.cursor.toNat log.heldBytes))) ∧ after = station) ∧
    (log.settings.detectStale = false ∨ session.generation = log.generation ∨
        log.heldBytes < session.cursor.toNat →
      ∀ calls, (after.run calls).2 = (station.run calls).2) ∧
    (log.settings.detectStale = true → session.generation ≠ log.generation →
      session.cursor.toNat ≤ log.heldBytes → ∀ limit,
        let read := Call.session number (.read limit)
        (station.step read).2 = .fault (.staleCursor session.generation log.generation) ∧
          ∃ data, (after.step read).2 = .bytes data ∧
            data <+: (joined log.held).drop session.cursor.toNat) := by
  intro log call after reply
  have inside : session.cursor.toNat ≤ log.heldBytes →
      reply = .cursor session.cursor ∧ after = station.renewed number session := by
    intro within
    have step := step_position present free
    rw [if_pos within] at step
    exact ⟨congrArg Prod.snd step, congrArg Prod.fst step⟩
  have outside : log.heldBytes < session.cursor.toNat →
      reply = .streamFault (.log (.invalidArgument
        (.outsideHeld session.cursor.toNat log.heldBytes))) ∧ after = station := by
    intro past
    have step := step_position present free
    rw [if_neg (Nat.not_le.mpr past)] at step
    exact ⟨congrArg Prod.snd step, congrArg Prod.fst step⟩
  refine ⟨inside, outside, ?_, ?_⟩
  · intro harmless calls
    rcases Nat.lt_or_ge log.heldBytes session.cursor.toNat with past | within
    · rw [(outside past).2]
    · rw [(inside within).2]
      rcases harmless with off | current | past
      · exact run_renewed present off calls
      · rw [renewed_current present current]
      · exact absurd within (Nat.not_le.mpr past)
  · intro detects behind within limit
    rw [(inside within).2]
    exact read_renewed present free detects behind limit

theorem position_of_three_readers :
    let start := fresh ⟨1, 59, true, 1⟩
    let station := (start.run [.openSession, .openSession, .session 0 (.write [97, 97, 59]),
      .session 0 (.read 9), .session 1 (.write [98, 59]), .openSession]).1
    let ended : Session := ⟨⟨1⟩, some (.session 0), 3, 0, false⟩
    let begun : Session := ⟨⟨2⟩, some (.session 1), 0, 0, false⟩
    let late : Session := ⟨⟨3⟩, some (.session 2), 0, 1, false⟩
    station.session? 0 = some ended ∧ station.session? 1 = some begun ∧
      station.session? 2 = some late ∧
      (station.step (.stream 0 .position)).1 = station ∧
      (station.step (.stream 1 .position)).2 = .cursor 0 ∧
      (∃ data, ((station.step (.stream 1 .position)).1.step (.session 1 (.read 9))).2 =
        .bytes data) ∧
      ((station.step (.stream 2 .position)).1.run [.session 2 (.read 9)]).2 =
        (station.run [.session 2 (.read 9)]).2 := by
  intro start station ended begun late
  have first : station.session? 0 = some ended := by decide +kernel
  have second : station.session? 1 = some begun := by decide +kernel
  have third : station.session? 2 = some late := by decide +kernel
  have flags : station.shared.gate.flags = {} := by decide +kernel
  have detects : station.shared.log.settings.detectStale = true := by decide +kernel
  have total : station.shared.log.heldBytes = 2 := by decide +kernel
  have generation : station.shared.log.generation = 1 := by decide +kernel
  clear_value station
  have lowered : ∀ session : Session,
      session.handle.any station.shared.gate.flags.isRaised = false := by
    intro session
    rw [flags]
    cases session.handle <;> rfl
  obtain ⟨_, past, _, _⟩ := position_is_a_seek first (lowered ended)
  obtain ⟨within, _, _, renews⟩ := position_is_a_seek second (lowered begun)
  obtain ⟨_, _, harmless, _⟩ := position_is_a_seek third (lowered late)
  rw [total] at past within renews
  rw [generation] at renews harmless
  obtain ⟨_, data, brought, _⟩ := renews detects (by decide) (by decide) 9
  exact ⟨first, second, third, (past (by decide)).2, (within (by decide)).1, ⟨data, brought⟩,
    harmless (.inr (.inl rfl)) _⟩

-- One slot and one session: the second record evicts the first. The session has read the first and
-- asks for its position in vain, or has not and is not told that it was left behind.
theorem position_of_an_evicted_record :
    let start := fresh ⟨1, 59, true, 1⟩
    let first := Call.session 0 (.write [97, 97, 97, 97, 59])
    let second := Call.session 0 (.write [98, 59])
    let read := Call.session 0 (.read 9)
    let position := Call.stream 0 .position
    let ahead := (start.run [.openSession, first, read, second]).1
    let behind := (start.run [.openSession, first, second]).1
    (ahead.session? 0).map Session.cursor = some 5 ∧
      ahead.shared.gate.flags.isRaised (.session 0) = false ∧
      (ahead.step position).2 =
        .streamFault (.log (.invalidArgument (.outsideHeld 5 2))) ∧
      behind.shared.gate.flags.isRaised (.session 0) = false ∧
      (behind.run [read]).2 = [.fault (.staleCursor 0 1)] ∧
      ((behind.step position).1.run [read]).2 = [.bytes [98, 59]] := by
  refine ⟨?_, ?_, ?_, ?_, ?_, ?_⟩
  · decide +kernel
  · decide +kernel
  · rfl
  · decide +kernel
  · rfl
  · rfl

end Station

end CircularLog
