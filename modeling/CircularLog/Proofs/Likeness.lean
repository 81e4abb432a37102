import CircularLog.Proofs.InStep
import CircularLog.Proofs.Visits

namespace CircularLog

variable {β γ σ : Type}

namespace Log

variable {log other : Log}

theorem read_alike (held : other.held = log.held) (generation : other.generation = log.generation)
    (cursor : UInt64) (limit : Nat) (since : Option UInt64) :
    (other.read cursor limit since).2 = (log.read cursor limit since).2 := by
  unfold read
  rw [held, generation]
  split
  · rfl
  · split <;> rfl

-- Related logs stay related whatever is done to both, and only their snapshots may differ. Where
-- reads look at the generation of a session, the sessions have to be `dated`.
structure Likeness (like : Log → Log → Prop) (told : Snapshot → Snapshot) (dated : Bool) :
    Prop where
  dates {log other : Log} : like log other → log.settings.detectStale = true → dated = true
  settings {log other : Log} : like log other → other.settings = log.settings
  held {log other : Log} : like log other → other.held = log.held
  generation {log other : Log} : like log other → other.generation = log.generation
  nextSession {log other : Log} : like log other → other.nextSession = log.nextSession
  snapshot {log other : Log} : like log other → other.snapshot = told log.snapshot
  note {log other : Log} (event : Event) : like log other → like (log.note event) (other.note event)
  interrupted {log other : Log} : like log other → like log.countInterrupt other.countInterrupt
  admitted {log other : Log} : like log other → like log.admitSession.1 other.admitSession.1
  wrote {log other : Log} (id : SessionId) (chunk : Bytes) :
    like log other → like (log.write id chunk) (other.write id chunk)
  read {log other : Log} (cursor : UInt64) (limit : Nat) (since : Option UInt64) :
    like log other → like (log.read cursor limit since).1 (other.read cursor limit since).1
  discarded {log other : Log} (id : SessionId) :
    like log other → Same like (log.discard id) (other.discard id)
  tornDown {log other : Log} : like log other → Same like log.teardown other.teardown

end Log

variable {like : Log → Log → Prop} {told : Snapshot → Snapshot} {dated : Bool}

namespace SharedLog

variable {shared other : SharedLog}

-- What is left when somebody is sent away: one more interrupt counted, and the flag lowered.
def sentAway (shared : SharedLog) (key : Handle) : SharedLog :=
  ⟨⟨shared.log.countInterrupt, shared.gate.flags.lower key⟩⟩

theorem enter_sentAway {key : Handle} (raised : shared.gate.flags.isRaised key = true)
    (act : Log → Log × Except Fault β) :
    shared.enter (some key) act = (shared.sentAway key, .error .interrupted) := by
  unfold enter Gate.pass
  simp only [Option.any_some, raised, if_true]
  rfl

-- What is left when somebody has come to the gate only to look.
def heeded (shared : SharedLog) : Option Handle → SharedLog
  | none => shared
  | some key => if shared.gate.flags.isRaised key then shared.sentAway key else shared

theorem heeded_free {handle : Option Handle}
    (free : handle.any shared.gate.flags.isRaised = false) :
    shared.heeded handle = shared := by
  cases handle with
  | none => rfl
  | some key => exact if_neg (by simpa using free)

theorem heeded_lowered (shared : SharedLog) (handle : Option Handle) :
    handle.any (shared.heeded handle).gate.flags.isRaised = false := by
  cases handle with
  | none => rfl
  | some key =>
    cases raised : shared.gate.flags.isRaised key with
    | true => simp [heeded, raised, sentAway]
    | false => simp [heeded, raised]

theorem enter_away {handle : Option Handle}
    (raised : handle.any shared.gate.flags.isRaised = true) (act : Log → Log × Except Fault β) :
    shared.enter handle act = (shared.heeded handle, .error .interrupted) := by
  obtain ⟨key, rfl, flag⟩ := (Option.any_eq_true _ _).mp raised
  rw [enter_sentAway flag, heeded, if_pos flag]

structure Like (like : Log → Log → Prop) (shared other : SharedLog) : Prop where
  log : like shared.log other.log
  flags : other.gate.flags = shared.gate.flags

variable (laws : Log.Likeness like told dated)
include laws

-- What is done behind the gate decides what comes of a pass; who is sent away is up to the flags.
theorem Like.enter_tell (alike : shared.Like like other) (handle : Option Handle)
    (act : Log → Log × Except Fault β) (tell : Except Fault β → Except Fault β)
    (plain : tell (.error .interrupted) = .error .interrupted)
    (acts : ∀ {log other : Log}, like log other →
      (act other).2 = tell (act log).2 ∧ like (act log).1 (act other).1) :
    (other.enter handle act).2 = tell (shared.enter handle act).2 ∧
      (shared.enter handle act).1.Like like (other.enter handle act).1 := by
  obtain ⟨log, flags⟩ := alike
  obtain ⟨same, after⟩ := acts log
  cases free : handle.any shared.gate.flags.isRaised with
  | false =>
    rw [enter_free free, enter_free (flags ▸ free)]
    exact ⟨same, after, flags⟩
  | true =>
    obtain ⟨key, rfl, raised⟩ := (Option.any_eq_true _ _).mp free
    rw [enter_sentAway raised, enter_sentAway (flags ▸ raised)]
    exact ⟨plain.symm, laws.interrupted log, congrArg (Flags.lower · key) flags⟩

theorem Like.enter (alike : shared.Like like other) (handle : Option Handle)
    {act : Log → Log × Except Fault β}
    (acts : ∀ {log other : Log}, like log other → Same like (act log) (act other)) :
    Same (Like like) (shared.enter handle act) (other.enter handle act) :=
  alike.enter_tell laws handle act id rfl acts

theorem Like.ask (alike : shared.Like like other) (handle : Option Handle)
    {question : Log → Except Fault β}
    (same : ∀ {log other : Log}, like log other → question other = question log) :
    Same (Like like) (shared.ask handle question) (other.ask handle question) :=
  alike.enter laws handle fun log => ⟨same log, log⟩

theorem Like.heldBytes (alike : shared.Like like other) :
    other.log.heldBytes = shared.log.heldBytes := by
  rw [Log.heldBytes, laws.held alike.log, Log.heldBytes]

theorem Like.note (alike : shared.Like like other) (event : Event) :
    (shared.note event).Like like (other.note event) :=
  ⟨laws.note event alike.log, alike.flags⟩

theorem Like.write (alike : shared.Like like other) (handle : Option Handle) (id : SessionId)
    (chunk : Bytes) :
    Same (Like like) (shared.write handle id chunk) (other.write handle id chunk) := by
  unfold SharedLog.write
  split
  · exact ⟨rfl, alike⟩
  · exact alike.enter laws handle fun log => ⟨rfl, laws.wrote id chunk log⟩

theorem Like.read (alike : shared.Like like other) (handle : Option Handle) (cursor : UInt64)
    (limit : Nat) (since : Option UInt64) :
    Same (Like like) (shared.read handle cursor limit since)
      (other.read handle cursor limit since) := by
  refine alike.enter laws handle fun log => ⟨?_, laws.read cursor limit since log⟩
  exact Log.read_alike (laws.held log) (laws.generation log) cursor limit since

theorem Like.readInto (alike : shared.Like like other) (handle : Option Handle) (cursor : UInt64)
    (buffer : Bytes) (since : Option UInt64) :
    Same (Like like) (shared.readInto handle cursor buffer since)
      (other.readInto handle cursor buffer since) := by
  obtain ⟨_, _, result, made, made', after⟩ :=
    (alike.read laws handle cursor buffer.length since).split
  unfold SharedLog.readInto
  rw [made, made']
  cases result with
  | error fault => exact ⟨rfl, after⟩
  | ok found => exact ⟨rfl, after⟩

theorem Like.locate (alike : shared.Like like other) (handle : Option Handle)
    (index offset : Nat) :
    Same (Like like) (shared.locate handle index offset) (other.locate handle index offset) := by
  apply alike.ask laws handle
  intro log other like
  rw [Log.locate, laws.held like, laws.generation like, Log.locate]

theorem Like.extent (alike : shared.Like like other) (handle : Option Handle) :
    Same (Like like) (shared.extent handle) (other.extent handle) := by
  apply alike.ask laws handle
  intro log other like
  rw [Log.heldBytes, laws.held like, laws.generation like, Log.heldBytes]

theorem Like.discard (alike : shared.Like like other) (handle : Option Handle) (id : SessionId) :
    Same (Like like) (shared.discard handle id) (other.discard handle id) :=
  alike.enter laws handle fun log => (laws.discarded id log).map Except.ok

theorem Like.teardown (alike : shared.Like like other) (handle : Option Handle) :
    Same (Like like) (shared.teardown handle) (other.teardown handle) :=
  alike.enter laws handle fun log => (laws.tornDown log).map Except.ok

end SharedLog

def Session.seen (dated : Bool) (session : Session) : Session :=
  if dated then session else { session with generation := 0 }

structure Session.Like (dated : Bool) (session other : Session) : Prop where
  id : other.id = session.id
  handle : other.handle = session.handle
  cursor : other.cursor = session.cursor
  ended : other.ended = session.ended
  generation : dated = true → other.generation = session.generation

theorem Session.like_iff {session other : Session} :
    session.Like dated other ↔ other.seen dated = session.seen dated := by
  obtain ⟨id, handle, cursor, generation, ended⟩ := session
  obtain ⟨id', handle', cursor', generation', ended'⟩ := other
  cases dated with
  | true =>
    constructor
    · rintro ⟨rfl, rfl, rfl, rfl, same⟩
      exact congrArg (Session.mk _ _ _ · _) (same rfl)
    · rintro ⟨⟩
      exact ⟨rfl, rfl, rfl, rfl, fun _ => rfl⟩
  | false =>
    constructor
    · rintro ⟨rfl, rfl, rfl, rfl, -⟩
      rfl
    · rintro ⟨⟩
      exact ⟨rfl, rfl, rfl, rfl, nofun⟩

namespace Channel

structure Like (like : Log → Log → Prop) (dated : Bool) (channel other : Channel) : Prop where
  shared : channel.shared.Like like other.shared
  session : channel.session.Like dated other.session

variable {channel other : Channel} (laws : Log.Likeness like told dated)
include laws

theorem Like.since (alike : channel.Like like dated other) : other.since = channel.since := by
  unfold Channel.since
  rw [laws.settings alike.shared.log]
  split
  · rename_i detects
    rw [alike.session.generation (laws.dates alike.shared.log detects)]
  · rfl

theorem Like.write (alike : channel.Like like dated other) (chunk : Bytes) :
    Same (Like like dated) (channel.write chunk) (other.write chunk) := by
  unfold Channel.write
  rw [alike.session.id, alike.session.handle]
  obtain ⟨_, _, result, made, made', after⟩ :=
    (alike.shared.write laws channel.session.handle channel.session.id chunk).split
  rw [made, made']
  exact ⟨rfl, after, alike.session⟩

theorem Like.read (alike : channel.Like like dated other) (limit : Nat) :
    Same (Like like dated) (channel.read limit) (other.read limit) := by
  obtain ⟨id, handle, cursor, ended, generation⟩ := alike.session
  unfold Channel.read
  rw [handle, cursor, alike.since laws]
  obtain ⟨_, _, result, made, made', after⟩ :=
    (alike.shared.read laws channel.session.handle channel.session.cursor limit
      channel.since).split
  rw [made, made']
  cases result with
  | error fault => exact ⟨rfl, after, alike.session⟩
  | ok found => exact ⟨rfl, after, id, handle, rfl, ended, generation⟩

theorem Like.readAt (alike : channel.Like like dated other) (cursor : UInt64) (limit : Nat) :
    Same (Like like dated) (channel.readAt cursor limit) (other.readAt cursor limit) := by
  unfold Channel.readAt SharedLog.readOut
  rw [alike.session.handle]
  obtain ⟨_, _, result, made, made', after⟩ :=
    (alike.shared.read laws channel.session.handle cursor limit none).split
  rw [made, made']
  exact ⟨rfl, after, alike.session⟩

theorem Like.seekTo (alike : channel.Like like dated other) (index offset : Nat) :
    Same (Like like dated) (channel.seekTo index offset) (other.seekTo index offset) := by
  obtain ⟨id, handle, _, ended, _⟩ := alike.session
  unfold Channel.seekTo
  rw [handle]
  obtain ⟨_, _, result, made, made', after⟩ :=
    (alike.shared.locate laws channel.session.handle index offset).split
  rw [made, made']
  cases result with
  | error fault => exact ⟨rfl, after, alike.session⟩
  | ok found =>
    dsimp only
    rw [id]
    exact ⟨rfl, after.note laws _, id, handle, rfl, ended, fun _ => rfl⟩

theorem Like.seek (alike : channel.Like like dated other) (whence : Whence) :
    Same (Like like dated) (channel.seek whence) (other.seek whence) := by
  obtain ⟨id, handle, cursor, ended, _⟩ := alike.session
  unfold Channel.seek
  rw [handle]
  obtain ⟨_, _, result, made, made', after⟩ :=
    (alike.shared.extent laws channel.session.handle).split
  rw [made, made']
  cases result with
  | error fault => exact ⟨rfl, after, alike.session⟩
  | ok found =>
    dsimp only
    rw [cursor]
    split
    · exact ⟨rfl, after, id, handle, rfl, ended, fun _ => rfl⟩
    · exact ⟨rfl, after, alike.session⟩

theorem Like.release (alike : channel.Like like dated other) (handle : Option Handle) :
    Same (Like like dated) (channel.release handle) (other.release handle) := by
  obtain ⟨id, same, cursor, ended, generation⟩ := alike.session
  unfold Channel.release
  rw [ended, id]
  split
  · exact ⟨rfl, alike⟩
  · obtain ⟨_, _, result, made, made', after⟩ :=
      (alike.shared.discard laws handle channel.session.id).split
    rw [made, made']
    cases result with
    | error fault => exact ⟨rfl, after, alike.session⟩
    | ok lost => exact ⟨rfl, after.note laws _, id, same, cursor, rfl, generation⟩

theorem Like.drop (alike : channel.Like like dated other) :
    channel.drop.Like like dated other.drop :=
  (alike.release laws none).2

theorem Like.close (alike : channel.Like like dated other) :
    Same (Like like dated) channel.close other.close := by
  unfold Channel.close
  rw [alike.session.handle]
  obtain ⟨_, _, result, made, made', after⟩ :=
    (alike.release laws channel.session.handle).split
  rw [made, made']
  exact ⟨rfl, after.drop laws⟩

theorem Like.reads : ReadsInStep (Like like dated) fun _ => false where
  heldBytes alike := alike.shared.heldBytes laws
  read limit alike := .of_same (alike.read laws limit)

theorem Like.answer (alike : channel.Like like dated other) (call : SessionCall) :
    Same (Like like dated) (channel.answer call) (other.answer call) := by
  cases call with
  | write chunk => exact (alike.write laws chunk).map _
  | read limit => exact (alike.read laws limit).map _
  | readAll limit =>
    exact ((Like.reads laws).readAll alike limit).same.map fun found =>
      Reply.pieces found.1 found.2
  | readAt cursor limit => exact (alike.readAt laws cursor limit).map _
  | seekTo index offset => exact (alike.seekTo laws index offset).map _
  | seek whence => exact (alike.seek laws whence).map _
  | settings => exact ⟨congrArg Reply.settings (laws.settings alike.shared.log), alike⟩
  | close => exact (alike.close laws).map _
  | drop => exact ⟨rfl, alike.drop laws⟩

theorem Like.answerStream (alike : channel.Like like dated other) (call : StreamCall) :
    Same (Like like dated) (channel.answerStream call) (other.answerStream call) := by
  cases call with
  | read limit => exact ((alike.read laws limit).map _).map _
  | readExact wanted => exact ((Like.reads laws).readExact alike wanted).same.map _
  | readToEnd =>
    exact ((Like.reads laws).readToEnd alike).same.map fun found => Reply.collected found.1 found.2
  | readToString => exact ((Like.reads laws).readToString alike).same.map _
  | write chunk => exact ((alike.write laws chunk).map _).map _
  | writeAll chunk =>
    have written := persist_inStep (fun alike => .of_same (Like.write laws alike chunk)) alike
    exact (written.same.map fun result => (result.mapError StreamFault.log).map fun _ => ()).map _
  | flush => exact ⟨rfl, alike⟩
  | seek whence => exact ((alike.seek laws whence).map _).map _
  | rewind => exact (((alike.seek laws (.start 0)).map _).map _).map _
  | position => exact ((alike.seek laws (.current 0)).map _).map _

end Channel

namespace Reply

def retold (told : Snapshot → Snapshot) : Reply → Reply
  | .snapshot found => .snapshot (told found)
  | reply => reply

theorem retold_ofResult {found : β → Reply}
    (plain : ∀ value, (found value).retold told = found value) (result : Except Fault β) :
    (Reply.ofResult found result).retold told = .ofResult found result := by
  cases result with
  | ok value => exact plain value
  | error fault => rfl

theorem retold_ofStream {found : β → Reply}
    (plain : ∀ value, (found value).retold told = found value) (result : Except StreamFault β) :
    (Reply.ofStream found result).retold told = .ofStream found result := by
  cases result with
  | ok value => exact plain value
  | error fault => rfl

end Reply

namespace Channel

theorem answer_retold (channel : Channel) (call : SessionCall) :
    (channel.answer call).2.retold told = (channel.answer call).2 := by
  cases call with
  | readAll limit => rfl
  | settings => rfl
  | drop => rfl
  | _ => exact Reply.retold_ofResult (fun _ => rfl) _

theorem answerStream_retold (channel : Channel) (call : StreamCall) :
    (channel.answerStream call).2.retold told = (channel.answerStream call).2 := by
  cases call with
  | readToEnd => rfl
  | flush => rfl
  | _ =>
    apply Reply.retold_ofStream
    intro value
    rfl

end Channel

namespace SharedLog

variable {shared other : SharedLog} (laws : Log.Likeness like told dated)
include laws

theorem Like.answer (alike : shared.Like like other) (handle : Option Handle) (call : LogCall) :
    (other.answer handle call).2 = (shared.answer handle call).2.retold told ∧
      (shared.answer handle call).1.Like like (other.answer handle call).1 := by
  -- Every answer but a snapshot is the same, and retelling is nothing to it.
  have plain : ∀ {β : Type} {found : β → Reply} {result answer : SharedLog × Except Fault β},
      (∀ value, (found value).retold told = found value) → Same (Like like) result answer →
        (Reply.ofResult found answer.2 = (Reply.ofResult found result.2).retold told ∧
          result.1.Like like answer.1) := by
    intro β found result answer plain same
    rw [Reply.retold_ofResult plain, same.1]
    exact ⟨rfl, same.2⟩
  cases call with
  | write id chunk => exact plain (fun _ => rfl) (alike.write laws handle id chunk)
  | discard id => exact plain (fun _ => rfl) (alike.discard laws handle id)
  | readInto cursor buffer since =>
    obtain ⟨_, _, ⟨result, data⟩, made, made', after⟩ :=
      (alike.readInto laws handle cursor buffer since).split
    simp only [SharedLog.answer, made, made']
    cases result <;> exact ⟨rfl, after⟩
  | readOut cursor limit => exact plain (fun _ => rfl) (alike.read laws handle cursor limit none)
  | locate index offset => exact plain (fun _ => rfl) (alike.locate laws handle index offset)
  | extent => exact plain (fun _ => rfl) (alike.extent laws handle)
  | held =>
    exact plain (fun _ => rfl) (alike.ask laws handle fun log => congrArg Except.ok (laws.held log))
  | snapshot =>
    obtain ⟨same, after⟩ := alike.enter_tell laws handle
      (fun log => (log, Except.ok log.snapshot)) (Except.map told) rfl
      fun log => ⟨congrArg Except.ok (laws.snapshot log), log⟩
    refine ⟨?_, after⟩
    have reply : Reply.ofResult Reply.snapshot (other.snapshot handle).2 =
        .ofResult .snapshot ((shared.snapshot handle).2.map told) := congrArg _ same
    refine reply.trans ?_
    unfold SharedLog.answer
    dsimp only [Prod.map]
    cases (shared.snapshot handle).2 <;> rfl
  | teardown => exact plain (fun _ => rfl) (alike.teardown laws handle)
  | settings => exact ⟨congrArg Reply.settings (laws.settings alike.log), alike⟩

omit laws in
theorem Like.handled (alike : shared.Like like other) (handle : Option Handle) (call : HandleCall) :
    Same (Like like) (shared.handled handle call) (other.handled handle call) := by
  obtain ⟨log, flags⟩ := alike
  cases call with
  | raise => exact ⟨rfl, log, by simp only [SharedLog.handled, flags]⟩
  | take =>
    refine ⟨?_, log, ?_⟩
    · simp only [SharedLog.handled, flags]
    · simp only [SharedLog.handled, flags]
  | isRaised => exact ⟨by simp only [SharedLog.handled, flags], log, flags⟩

theorem Like.opened (alike : shared.Like like other) (handle : Option Handle) :
    (Channel.ofShared shared handle).Like like dated (Channel.ofShared other handle) := by
  refine ⟨⟨laws.admitted alike.log, alike.flags⟩, ?_, rfl, rfl, rfl, ?_⟩
  · exact congrArg SessionId.mk (laws.nextSession alike.log)
  · exact fun _ => laws.generation alike.log

theorem Like.burstOnce (alike : shared.Like like other) (times : Nat) (chunk : Bytes) :
    (shared.burstOnce times chunk).Like like (other.burstOnce times chunk) := by
  have writes : (Nat.repeat (fun channel : Channel => (channel.write chunk).1) times
        (Channel.ofShared shared none)).Like like dated
      (Nat.repeat (fun channel : Channel => (channel.write chunk).1) times
        (Channel.ofShared other none)) := by
    induction times with
    | zero => exact alike.opened laws none
    | succ times ih => exact (ih.write laws chunk).2
  exact (writes.drop laws).shared

theorem Like.burst (alike : shared.Like like other) (writers times : Nat) (chunk : Bytes) :
    (shared.burst writers times chunk).Like like (other.burst writers times chunk) := by
  induction writers with
  | zero => exact alike
  | succ writers ih => exact Like.burstOnce laws ih times chunk

end SharedLog

namespace Station

structure Like (like : Log → Log → Prop) (dated : Bool) (station other : Station) : Prop where
  shared : station.shared.Like like other.shared
  sessions : other.sessions.map (Session.seen dated) = station.sessions.map (Session.seen dated)

variable {station other : Station}

theorem Like.session? (alike : station.Like like dated other) (number : Nat) :
    (station.session? number = none ∧ other.session? number = none) ∨
      ∃ session twin, station.session? number = some session ∧
        other.session? number = some twin ∧ session.Like dated twin := by
  have seen := congrArg (·[number]?) alike.sessions
  simp only [List.getElem?_map] at seen
  unfold Station.session?
  cases here : station.sessions[number]? with
  | none =>
    rw [here, Option.map_none, Option.map_eq_none_iff] at seen
    rw [seen]
    exact .inl ⟨rfl, rfl⟩
  | some session =>
    rw [here, Option.map_some] at seen
    obtain ⟨twin, there, same⟩ := Option.map_eq_some_iff.mp seen
    have like := Session.like_iff.mpr same
    rw [there]
    cases live : session.ended with
    | true => exact .inl ⟨by simp [live], by simp [like.ended, live]⟩
    | false => exact .inr ⟨session, twin, by simp [live], by simp [like.ended, live], like⟩

variable (laws : Log.Likeness like told dated)

theorem Like.visit (alike : station.Like like dated other) (number : Nat)
    {act : Channel → Channel × Reply}
    (plain : ∀ channel, (act channel).2.retold told = (act channel).2)
    (acts : ∀ {channel other : Channel}, channel.Like like dated other →
      Same (Channel.Like like dated) (act channel) (act other)) :
    (other.visit number act).2 = (station.visit number act).2.retold told ∧
      (station.visit number act).1.Like like dated (other.visit number act).1 := by
  rcases alike.session? number with ⟨here, there⟩ | ⟨session, twin, here, there, both⟩
  · rw [visit_none here, visit_none there]
    exact ⟨rfl, alike⟩
  · have pair : (⟨station.shared, session⟩ : Channel).Like like dated ⟨other.shared, twin⟩ :=
      ⟨alike.shared, both⟩
    obtain ⟨same, after⟩ := acts pair
    rw [visit_some here, visit_some there]
    refine ⟨?_, after.shared, ?_⟩
    · rw [plain, same]
    · rw [List.map_set, List.map_set, alike.sessions, Session.like_iff.mp after.session]

include laws

theorem Like.step (alike : station.Like like dated other) (call : Call) :
    (other.step call).2 = (station.step call).2.retold told ∧
      (station.step call).1.Like like dated (other.step call).1 := by
  cases call with
  | openSession =>
    have count : other.sessions.length = station.sessions.length := by
      simpa using congrArg List.length alike.sessions
    obtain ⟨shared, session⟩ :=
      alike.shared.opened laws (some (.session station.sessions.length))
    unfold Station.step openSession
    rw [count]
    refine ⟨congrArg Reply.session session.id, shared, ?_⟩
    simp only [List.map_append, List.map_singleton, alike.sessions, Session.like_iff.mp session]
  | session number call =>
    exact alike.visit number (·.answer_retold call) fun alike => alike.answer laws call
  | stream number call =>
    exact alike.visit number (·.answerStream_retold call) fun alike =>
      alike.answerStream laws call
  | log handle call =>
    obtain ⟨reply, after⟩ := alike.shared.answer laws handle call
    exact ⟨reply, after, alike.sessions⟩
  | handle handle call =>
    obtain ⟨reply, after⟩ := alike.shared.handled handle call
    refine ⟨reply.trans ?_, after, alike.sessions⟩
    cases call <;> rfl
  | burst writers times chunk =>
    exact ⟨rfl, alike.shared.burst laws writers times chunk, alike.sessions⟩

theorem Like.run (alike : station.Like like dated other) (calls : List Call) :
    (other.run calls).2 = (station.run calls).2.map (Reply.retold told) ∧
      (station.run calls).1.Like like dated (other.run calls).1 := by
  induction calls generalizing station other with
  | nil => exact ⟨rfl, alike⟩
  | cons call calls ih =>
    obtain ⟨reply, after⟩ := alike.step laws call
    obtain ⟨replies, last⟩ := ih after
    refine ⟨?_, last⟩
    unfold Station.run
    simp only [List.map_cons, reply, replies]

end Station

end CircularLog
