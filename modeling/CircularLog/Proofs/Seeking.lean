import CircularLog.Proofs.Refusals
import CircularLog.Proofs.Sequel
import CircularLog.Proofs.Staleness

namespace CircularLog

namespace Channel

variable {channel : Channel} {index offset : Nat} {cursor : UInt64}

theorem seekTo_refused
    (free : channel.session.handle.any channel.shared.gate.flags.isRaised = false) {fault : Fault}
    (refused : Position.cursorOf channel.shared.log.held index offset = .error fault) :
    channel.seekTo index offset = (channel, .error fault) := by
  simp only [Channel.seekTo, SharedLog.locate, SharedLog.ask, SharedLog.enter_free free, Log.locate,
    refused]
  rfl

theorem seekTo_found
    (free : channel.session.handle.any channel.shared.gate.flags.isRaised = false) {place : Nat}
    (found : Position.cursorOf channel.shared.log.held index offset = .ok place) :
    let cursor := UInt64.ofNat place
    channel.seekTo index offset = (Channel.positioned
      ⟨channel.shared.note (.sought channel.session.id index offset cursor), channel.session⟩ cursor
      channel.shared.log.generation, .ok cursor) := by
  simp only [Channel.seekTo, SharedLog.locate, SharedLog.ask, SharedLog.enter_free free, Log.locate,
    found]
  rfl

theorem seek_free (channel : Channel)
    (free : channel.session.handle.any channel.shared.gate.flags.isRaised = false)
    (whence : Whence) :
    channel.seek whence =
      let total := channel.shared.log.heldBytes
      let target := whence.target channel.session.cursor total
      let cursor := UInt64.ofNat target.toNat
      if 0 ≤ target ∧ target ≤ total then
        (channel.positioned cursor channel.shared.log.generation, .ok cursor)
      else (channel, .error (.invalidArgument (.outsideHeld target total))) := by
  unfold seek SharedLog.extent SharedLog.ask
  rw [SharedLog.enter_free free]
  rfl

theorem seek_ok {whence : Whence} (told : (channel.seek whence).2 = .ok cursor) :
    (channel.seek whence).1.session =
      { channel.session with cursor, generation := channel.shared.log.generation } := by
  cases free : channel.session.handle.any channel.shared.gate.flags.isRaised with
  | true =>
    unfold seek SharedLog.extent SharedLog.ask at told
    rw [SharedLog.enter_away free] at told
    cases told
  | false =>
    rw [channel.seek_free free] at told ⊢
    dsimp only at told ⊢
    split
    · rename_i inside
      rw [if_pos inside] at told
      cases told
      rfl
    · rename_i outside
      rw [if_neg outside] at told
      cases told

theorem seekTo_told (told : (channel.seekTo index offset).2 = .ok cursor) :
    channel.session.handle.any channel.shared.gate.flags.isRaised = false ∧
      ∃ place, Position.cursorOf channel.shared.log.held index offset = .ok place ∧
        cursor = UInt64.ofNat place := by
  cases free : channel.session.handle.any channel.shared.gate.flags.isRaised with
  | true =>
    unfold seekTo SharedLog.locate SharedLog.ask at told
    rw [SharedLog.enter_away free] at told
    cases told
  | false =>
    refine ⟨rfl, ?_⟩
    cases found : Position.cursorOf channel.shared.log.held index offset with
    | error fault =>
      rw [seekTo_refused free found] at told
      cases told
    | ok place =>
      rw [seekTo_found free found] at told
      cases told
      exact ⟨place, rfl, rfl⟩

theorem seekTo_ok (told : (channel.seekTo index offset).2 = .ok cursor) :
    (channel.seekTo index offset).1.session =
      { channel.session with cursor, generation := channel.shared.log.generation } := by
  obtain ⟨free, place, found, rfl⟩ := seekTo_told told
  rw [seekTo_found free found]
  rfl

end Channel

theorem Reply.ofResult_cursor {β : Type} {found : β → Reply} {result : Except Fault β}
    {cursor : UInt64} (told : Reply.ofResult found result = .cursor cursor) :
    ∃ value, result = .ok value ∧ found value = .cursor cursor := by
  cases result with
  | error fault => cases told
  | ok value => exact ⟨value, rfl, told⟩

theorem Channel.answer_cursor {channel : Channel} {call : SessionCall} {cursor : UInt64}
    (told : (channel.answer call).2 = .cursor cursor) :
    (channel.answer call).1.session =
      { channel.session with cursor, generation := channel.shared.log.generation } := by
  cases call with
  | seekTo index offset =>
    obtain ⟨_, found, same⟩ := Reply.ofResult_cursor told
    cases same
    exact seekTo_ok found
  | seek whence =>
    obtain ⟨_, found, same⟩ := Reply.ofResult_cursor told
    cases same
    exact seek_ok found
  | write chunk | read limit | readAt place limit | close =>
    obtain ⟨_, _, other⟩ := Reply.ofResult_cursor told
    cases other
  | readAll limit | settings | drop => cases told

structure Session.Remains (session moved : Session) : Prop where
  id : moved.id = session.id
  handle : moved.handle = session.handle

theorem Visit.remains {log after : Log} {session moved : Session} {deed : Deed}
    (visit : Visit log session deed after moved) : session.Remains moved := by
  cases visit <;> exact ⟨rfl, rfl⟩

namespace Reader

-- A session lies within what is held until something of it is released.
structure Within (reader : Reader) (annals : Annals) (log : Log) (session : Session) : Prop where
  generation : session.generation = UInt64.ofNat reader.releases
  past : reader.releases ≤ annals.releases
  cursor : reader.inTime annals → session.cursor.toNat ≤ log.heldBytes

variable {reader : Reader} {annals : Annals} {log after : Log} {session moved : Session}
  {deed : Deed}

theorem Within.other (within : reader.Within annals log session) (keeps : log.Keeps annals)
    (kept : after.Keeps (annals.follow deed)) :
    reader.Within (annals.follow deed) after session := by
  refine ⟨within.generation, within.past.trans (annals.follow_more deed).2.1, ?_⟩
  intro still
  have stays := still.stays within.past
  exact (within.cursor (still.trans stays)).trans (keeps.grown kept stays).2

theorem toNat_ofNat_le (number : Nat) : (UInt64.ofNat number).toNat ≤ number := by
  rw [UInt64.toNat_ofNat']
  exact Nat.mod_le _ _

theorem Within.read {limit : Nat} {since : Option UInt64} {data : Bytes} {next : UInt64}
    (within : reader.Within annals log session)
    (found : (log.read session.cursor limit since).2 = .ok (data, next)) :
    Within { reader with got := reader.got ++ data } annals log
      { session with cursor := next } := by
  obtain ⟨_, part, rfl⟩ := Log.read_found found
  refine ⟨within.generation, within.past, ?_⟩
  intro still
  have inside := within.cursor still
  have short := part.length_le
  rw [List.length_drop, length_joined] at short
  have moved : (session.cursor + UInt64.ofNat data.length).toNat ≤
      session.cursor.toNat + data.length := by
    rw [UInt64.toNat_add]
    exact (Nat.mod_le _ _).trans (Nat.add_le_add_left (toNat_ofNat_le _) _)
  have total : log.heldBytes = totalSize log.held := rfl
  dsimp only
  omega

theorem Within.start {place start : Nat} (session : Session) (keeps : log.Keeps annals)
    (inside : place ≤ log.heldBytes) :
    Within ⟨start, annals.releases, []⟩ annals log
      { session with cursor := UInt64.ofNat place, generation := log.generation } := by
  exact ⟨keeps.generation, Nat.le_refl _, fun _ => (toNat_ofNat_le place).trans inside⟩

theorem Within.visit (within : reader.Within annals log session) (keeps : log.Keeps annals)
    (sound : log.Sound) (visit : Visit log session deed after moved) :
    (reader.follow annals deed).Within (annals.follow deed) after moved := by
  have kept := visit.pass.keeps sound keeps
  cases visit with
  | aside pass leaves =>
    have same : reader.follow annals deed = reader := by
      cases deed <;> first | rfl | cases leaves
    rw [same]
    exact within.other keeps kept
  | read found => exact (within.read found).other keeps kept
  | positioned inside => exact (Within.start session keeps inside).other keeps kept
  | sought found =>
    have inside := Nat.le_of_lt (Position.cursorOf_found found)
    exact (Within.start session keeps inside).other keeps kept
  | ended =>
    obtain ⟨generation, past, cursor⟩ := within.other keeps kept
    exact ⟨generation, past, cursor⟩

end Reader

namespace Scene

variable {scene after : Scene} {number : Nat} {trace : Trace} {entry : Entry} {entries : List Entry}
  {session : Session}

theorem Pass.remains (pass : Pass scene entry after)
    (present : scene.sessions[number]? = some session) :
    ∃ moved, after.sessions[number]? = some moved ∧ session.Remains moved := by
  cases pass.sight number with
  | opened own absent there => cases absent.symm.trans present
  | visited own found live visit there =>
    cases found.symm.trans present
    exact ⟨_, there, visit.remains⟩
  | elsewhere other same => exact ⟨session, same.trans present, rfl, rfl⟩

theorem Passes.remains (passes : Passes scene entries after)
    (present : scene.sessions[number]? = some session) :
    ∃ moved, after.sessions[number]? = some moved ∧ session.Remains moved := by
  induction passes generalizing session with
  | nil => exact ⟨session, present, rfl, rfl⟩
  | cons pass _ ih =>
    obtain ⟨between, there, first⟩ := pass.remains present
    obtain ⟨moved, last, rest⟩ := ih there
    exact ⟨moved, last, rest.id.trans first.id, rest.handle.trans first.handle⟩

structure Bounded (scene : Scene) (number : Nat) (trace : Trace) : Prop where
  sound : scene.log.Sound
  keeps : scene.log.Keeps trace.annals
  within : ∀ session, scene.sessions[number]? = some session →
    trace.reader.Within trace.annals scene.log session

theorem Pass.bounded (pass : Pass scene entry after) (bounded : scene.Bounded number trace) :
    after.Bounded number (trace.follow number entry) := by
  obtain ⟨sound, keeps, within⟩ := bounded
  have kept := pass.log_pass.keeps sound keeps
  refine ⟨pass.log_pass.sound sound, kept, ?_⟩
  intro session present
  unfold Trace.follow
  cases pass.sight number with
  | opened own absent there =>
    subst own
    cases there.symm.trans present
    rw [if_pos rfl]
    exact (Reader.Within.start ⟨scene.log.admitSession.2, some (.session number), 0,
      scene.log.generation, false⟩ keeps (Nat.zero_le _)).other keeps kept
  | visited own found live visit there =>
    cases there.symm.trans present
    rw [if_pos own]
    exact (within _ found).visit keeps sound visit
  | elsewhere other same =>
    rw [if_neg other]
    exact (within session (same.symm.trans present)).other keeps kept

theorem Passes.bounded (passes : Passes scene entries after)
    (bounded : scene.Bounded number trace) :
    after.Bounded number (entries.foldl (Trace.follow number) trace) := by
  induction passes generalizing trace with
  | nil => exact bounded
  | cons pass _ ih => exact ih (pass.bounded bounded)

end Scene

namespace Station

variable {station : Station} {number : Nat} {session : Session} {whence : Whence} {cursor : UInt64}

-- The station with one session put at a cursor.
def placed (station : Station) (number : Nat) (session : Session) (cursor : UInt64) : Station :=
  { station with
    sessions := station.sessions.set number
      { session with cursor, generation := station.shared.log.generation } }

theorem step_cursor (present : station.session? number = some session) {call : SessionCall}
    (told : (station.step (.session number call)).2 = .cursor cursor) :
    (station.step (.session number call)).1.session? number =
      some { session with cursor, generation := station.shared.log.generation } := by
  have visited := visit_some present (·.answer call)
  have answered : (Channel.answer ⟨station.shared, session⟩ call).2 = .cursor cursor :=
    (congrArg Prod.snd visited).symm.trans told
  have moved := Channel.answer_cursor answered
  have after : (station.step (.session number call)).1 = _ := congrArg Prod.fst visited
  rw [after, moved]
  exact session?_set present _ _ rfl

end Station

end CircularLog
