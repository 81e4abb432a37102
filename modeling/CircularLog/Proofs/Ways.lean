import CircularLog.Proofs.Ledger
import CircularLog.Proofs.Seeking

namespace CircularLog

namespace Log

variable {log : Log} {cursor limit : Nat}

theorem piece_past (past : log.heldBytes ≤ cursor) (limit : Nat) : log.piece cursor limit = [] := by
  unfold piece
  rw [Position.locate?_none.mpr past]

theorem piece_place {index offset : Nat} {record : Record}
    (found : log.held[index]? = some record) (inside : offset < record.size) (limit : Nat) :
    log.piece (totalSize (log.held.take index) + offset) limit =
      (record.bytes.drop offset).take limit := by
  have place : Position.locate? log.held (totalSize (log.held.take index) + offset) =
      some ⟨index, offset, record⟩ := Position.locate?_some.mpr ⟨found, inside, rfl⟩
  unfold piece
  rw [place]
  rfl

theorem piece_record {former latter : List Record} {record : Record}
    (held : log.held = former ++ record :: latter) (start : totalSize former ≤ cursor)
    (before : cursor < totalSize former + record.size) (limit : Nat) :
    log.piece cursor limit = (record.bytes.drop (cursor - totalSize former)).take limit := by
  have found : log.held[former.length]? = some record := by simp [held]
  have first : log.held.take former.length = former := by rw [held, List.take_left]
  have piece := log.piece_place found (Nat.sub_lt_left_of_lt_add start before) limit
  rwa [first, Nat.add_sub_cancel' start] at piece

end Log

namespace SharedLog

variable {shared : SharedLog} {handle : Option Handle}

def havingRead (shared : SharedLog) (cursor : UInt64) (limit : Nat) : SharedLog :=
  shared.adjust fun log => (log.read cursor limit none).1

theorem read_free (free : handle.any shared.gate.flags.isRaised = false) (cursor : UInt64)
    (limit : Nat) {since : Option UInt64}
    (current : ∀ positioned, since = some positioned → positioned = shared.log.generation) :
    let data := shared.log.piece cursor.toNat limit
    shared.read handle cursor limit since =
      (shared.havingRead cursor limit, .ok (data, cursor + UInt64.ofNat data.length)) := by
  have found := shared.log.read_piece cursor limit current
  rw [shared.log.read_current cursor limit current] at found
  unfold read
  rw [enter_free free, shared.log.read_current cursor limit current, found]
  rfl

theorem readOut_free (free : handle.any shared.gate.flags.isRaised = false) (cursor : UInt64)
    (limit : Nat) :
    let data := shared.log.piece cursor.toNat limit
    shared.readOut handle cursor limit =
      (shared.havingRead cursor limit, .ok (data, cursor + UInt64.ofNat data.length)) :=
  read_free free cursor limit nofun

theorem readInto_free (free : handle.any shared.gate.flags.isRaised = false) (cursor : UInt64)
    (buffer : Bytes) :
    let data := shared.log.piece cursor.toNat buffer.length
    shared.readInto handle cursor buffer none = (shared.havingRead cursor buffer.length,
      .ok (data.length, cursor + UInt64.ofNat data.length), data ++ buffer.drop data.length) := by
  have told := readOut_free free cursor buffer.length
  unfold readOut at told
  unfold readInto
  rw [told]

end SharedLog

namespace Station

variable {station : Station} {cursor : UInt64}

-- Whichever way so many bytes are read from a cursor, the same data comes and the same is left
-- behind.
structure Brings (station : Station) (cursor : UInt64) (limit : Nat) (data : Bytes) (next : UInt64)
    (after : Station) : Prop where
  into : ∀ handle buffer, handle.any station.shared.gate.flags.isRaised = false →
    buffer.length = limit → station.step (.log handle (.readInto cursor buffer none)) =
      (after, .filled data.length next (data ++ buffer.drop data.length))
  out : ∀ handle, handle.any station.shared.gate.flags.isRaised = false →
    station.step (.log handle (.readOut cursor limit)) = (after, .piece data next)
  aside : ∀ number session, station.session? number = some session →
    session.handle.any station.shared.gate.flags.isRaised = false →
    station.step (.session number (.readAt cursor limit)) = (after, .piece data next)
  onward : ∀ number session, station.session? number = some session →
    session.handle.any station.shared.gate.flags.isRaised = false →
    session.Current station.shared.log → session.cursor = cursor →
    station.step (.session number (.read limit)) =
      ({ after with sessions := station.sessions.set number { session with cursor := next } },
        .bytes data)
  behind : next.toNat = cursor.toNat + data.length
  sessions : after.sessions = station.sessions
  flags : after.shared.gate.flags = station.shared.gate.flags
  still : Log.Still station.shared.log after.shared.log
  tally : after.shared.log.tally = station.shared.log.tally.countRead data.length

theorem brings (station : Station) (fits : station.shared.log.heldBytes < 2 ^ 64) (cursor : UInt64)
    (limit : Nat) :
    let data := station.shared.log.piece cursor.toNat limit
    station.Brings cursor limit data (cursor + UInt64.ofNat data.length)
      { station with shared := station.shared.havingRead cursor limit } where
  into := by
    intro handle buffer free size
    subst size
    have filled := SharedLog.readInto_free free cursor buffer
    simp only [step, SharedLog.answer, filled]
  out := by
    intro handle free
    simp only [step, SharedLog.answer, SharedLog.readOut_free free]
    rfl
  aside := by
    intro number session present free
    refine (visit_some present (·.answer (.readAt cursor limit))).trans ?_
    simp only [Channel.answer, Channel.readAt, SharedLog.readOut_free free]
    exact congrArg (Prod.mk · _) (congrArg (Station.mk _) (set_present present))
  onward := by
    intro number session present free current same
    subst same
    have told := SharedLog.read_free free session.cursor limit current.since
    refine (visit_some present (·.answer (.read limit))).trans ?_
    have since : Channel.since ⟨station.shared, session⟩ = session.since station.shared.log := rfl
    simp only [Channel.answer, Channel.read, since, told]
    rfl
  behind := toNat_behind (station.shared.log.piece_held _ _) ((length_joined _).trans_lt fits)
  sessions := rfl
  flags := rfl
  still := Log.read_still _ _ _ _
  tally := Log.read_tally (station.shared.log.read_piece cursor limit nofun)

theorem seekTo_told {number : Nat} {session : Session} {index offset : Nat}
    (present : station.session? number = some session)
    (fits : station.shared.log.heldBytes < 2 ^ 64)
    (told : (station.step (.session number (.seekTo index offset))).2 = .cursor cursor) :
    ∃ record, station.shared.log.held[index]? = some record ∧ offset < record.size ∧
      cursor.toNat = totalSize (station.shared.log.held.take index) + offset ∧
      (station.step (.session number (.seekTo index offset))).1.shared =
        station.shared.note (.sought session.id index offset cursor) := by
  have visited := visit_some present (·.answer (.seekTo index offset))
  have answered := (congrArg Prod.snd visited).symm.trans told
  obtain ⟨place, sought, same⟩ := Reply.ofResult_cursor answered
  cases same
  obtain ⟨free, place, found, rfl⟩ := Channel.seekTo_told sought
  obtain ⟨record, present, inside, rfl⟩ := Position.cursorOf_ok.mp found
  refine ⟨record, present, inside, ?_, ?_⟩
  · exact UInt64.toNat_ofNat_of_lt' ((Position.cursorOf_found found).trans fits)
  · refine (congrArg (·.1.shared) visited).trans ?_
    simp only [Channel.answer, Channel.seekTo_found free found]
    rfl

-- A session at a place in a record reads on from there, and so does everybody else who is told
-- where.
theorem brings_place {number : Nat} {session : Session} {index offset : Nat}
    (present : station.session? number = some session)
    (fits : station.shared.log.heldBytes < 2 ^ 64)
    (told : (station.step (.session number (.seekTo index offset))).2 = .cursor cursor) :
    let sought := (station.step (.session number (.seekTo index offset))).1
    ∃ record moved, station.shared.log.held[index]? = some record ∧
      sought.session? number = some moved ∧ moved.cursor = cursor ∧
      moved.Current sought.shared.log ∧
      ∀ limit, ∃ next after,
        sought.Brings cursor limit ((record.bytes.drop offset).take limit) next after := by
  intro sought
  obtain ⟨record, found, inside, place, same⟩ := seekTo_told present fits told
  have log : sought.shared.log = station.shared.log.note (.sought session.id index offset cursor) :=
    congrArg SharedLog.log same
  have held : sought.shared.log.held = station.shared.log.held := by
    rw [log]
    rfl
  have generation : sought.shared.log.generation = station.shared.log.generation := by
    rw [log]
    rfl
  refine ⟨record, _, found, step_cursor present told, rfl, .inr generation.symm, ?_⟩
  intro limit
  have fits : sought.shared.log.heldBytes < 2 ^ 64 := by rwa [Log.heldBytes, held]
  have piece :
      sought.shared.log.piece cursor.toNat limit = (record.bytes.drop offset).take limit := by
    rw [← held] at found place
    rw [place]
    exact Log.piece_place found inside limit
  have brought := sought.brings fits cursor limit
  rw [piece] at brought
  exact ⟨_, _, brought⟩

-- What is held lies in memory, so that a 64-bit cursor can name each byte of it.
theorem ways_of_reading_agree (station : Station)
    (fits : station.shared.log.heldBytes < 2 ^ 64) :
    let held := station.shared.log.held
    (∀ cursor limit, ∃ data next after, station.Brings cursor limit data next after ∧
      (totalSize held ≤ cursor.toNat → data = [] ∧ next = cursor) ∧
      ∀ former record latter, held = former ++ record :: latter →
        totalSize former ≤ cursor.toNat → cursor.toNat < totalSize former + record.size →
        data = (record.bytes.drop (cursor.toNat - totalSize former)).take limit) ∧
    ∀ number session index offset cursor, station.session? number = some session →
      (station.step (.session number (.seekTo index offset))).2 = .cursor cursor →
        let sought := (station.step (.session number (.seekTo index offset))).1
        ∃ record moved, held[index]? = some record ∧
          sought.session? number = some moved ∧ moved.cursor = cursor ∧
          moved.Current sought.shared.log ∧
          ∀ limit, ∃ next after,
            sought.Brings cursor limit ((record.bytes.drop offset).take limit) next after := by
  intro held
  constructor
  · intro cursor limit
    refine ⟨_, _, _, station.brings fits cursor limit, ?_, ?_⟩
    · intro past
      rw [Log.piece_past past]
      exact ⟨rfl, UInt64.add_zero cursor⟩
    · intro former record latter parts start before
      exact Log.piece_record parts start before limit
  · intro number session index offset cursor present told
    exact brings_place present fits told

theorem ways_to_a_second_byte :
    let station := ((fresh ⟨2, 59, true, 1⟩).run [.openSession,
      .session 0 (.write [120, 59, 97, 98, 59, 99, 59])]).1
    let seek := Call.session 0 (.seekTo 1 1)
    station.shared.log.heldBytes < 2 ^ 64 ∧
      (∃ next after, station.Brings 1 4 [98, 59] next after ∧ next.toNat = 3 ∧
        station.step (.log none (.readInto 1 [7, 7, 7, 7] none)) =
          (after, .filled 2 next [98, 59, 7, 7]) ∧
        station.step (.log none (.readOut 1 4)) = (after, .piece [98, 59] next) ∧
        station.step (.session 0 (.readAt 1 4)) = (after, .piece [98, 59] next)) ∧
      (∃ next after, station.Brings 5 4 [] next after ∧ next = 5) ∧
      (station.step seek).2 = .cursor 4 ∧
      ∃ after, (station.step seek).1.step (.session 0 (.read 4)) = (after, .bytes [59]) := by
  intro station seek
  have fits : station.shared.log.heldBytes < 2 ^ 64 := by decide +kernel
  have held : station.shared.log.held = [⟨[97, 98, 59]⟩, ⟨[99, 59]⟩] := by decide +kernel
  have flags : station.shared.gate.flags = {} := by decide +kernel
  have present : station.session? 0 = some ⟨⟨1⟩, some (.session 0), 0, 0, false⟩ := by
    decide +kernel
  have told : (station.step seek).2 = .cursor 4 := by
    unfold station seek
    rfl
  have lowered : (station.step seek).1.shared.gate.flags = {} := by decide +kernel
  obtain ⟨brings, places⟩ := ways_of_reading_agree station fits
  rw [held] at brings places
  obtain ⟨data, next, after, way, _, inside⟩ := brings 1 4
  have brought : data = [98, 59] :=
    inside [] ⟨[97, 98, 59]⟩ [⟨[99, 59]⟩] rfl (by decide) (by decide)
  subst brought
  obtain ⟨none, same, last, ended, past, _⟩ := brings 5 4
  obtain ⟨rfl, rfl⟩ := past (by decide)
  obtain ⟨record, moved, found, there, place, current, onward⟩ := places 0 _ 1 1 4 present told
  cases found
  obtain ⟨_, later, sought⟩ := onward 4
  have free : moved.handle.any (station.step seek).1.shared.gate.flags.isRaised = false := by
    rw [lowered]
    cases moved.handle <;> rfl
  refine ⟨fits, ⟨next, after, way, way.behind, ?_, ?_, ?_⟩, ⟨_, last, ended, rfl⟩, told, ?_⟩
  · exact way.into none [7, 7, 7, 7] (by rw [flags]; rfl) rfl
  · exact way.out none (by rw [flags]; rfl)
  · exact way.aside 0 _ present (by rw [flags]; rfl)
  · exact ⟨_, sought.onward 0 moved there free current place⟩

end Station

end CircularLog
