import CircularLog.Proofs.Drain
import CircularLog.Proofs.Indifference

namespace CircularLog

variable {β γ : Type}

namespace Log

theorem read_behind (log : Log) (cursor : UInt64) (limit : Nat) {positioned : UInt64}
    (behind : positioned ≠ log.generation) :
    log.read cursor limit (some positioned) =
      (log, .error (.staleCursor positioned log.generation)) := by
  simp [read, Option.filter, behind]

end Log

namespace SharedLog

theorem heeded_log (shared : SharedLog) (handle : Option Handle) :
    ∃ tally, (shared.heeded handle).log = { shared.log with tally } := by
  cases free : handle.any shared.gate.flags.isRaised with
  | false => exact ⟨shared.log.tally, by rw [heeded_free free]⟩
  | true =>
    obtain ⟨key, rfl, raised⟩ := (Option.any_eq_true _ _).mp free
    exact ⟨shared.log.tally.countInterrupt, by rw [heeded, if_pos raised]; rfl⟩

theorem enter_congr {shared : SharedLog} {act other : Log → Log × Except Fault β}
    (same : act shared.log = other shared.log) (handle : Option Handle) :
    shared.enter handle act = shared.enter handle other := by
  cases free : handle.any shared.gate.flags.isRaised with
  | false => rw [enter_free free, enter_free free, same]
  | true => rw [enter_away free, enter_away free]

end SharedLog

-- What a session is told that was left behind.
def Session.stale (session : Session) (log : Log) : Fault :=
  .staleCursor session.generation log.generation

def Fault.isStale : Fault → Bool
  | .staleCursor _ _ => true
  | _ => false

namespace Channel

variable {settings : Settings} {channel : Channel}

-- The same channel without detection, and no cause for any.
structure Undetected (settings : Settings) (here there : Channel) : Prop where
  same : there = here.under settings
  current : here.session.Current here.shared.log

def heeded (channel : Channel) : Channel :=
  { channel with shared := channel.shared.heeded channel.session.handle }

theorem heeded_free
    (free : channel.session.handle.any channel.shared.gate.flags.isRaised = false) :
    channel.heeded = channel :=
  congrArg (Channel.mk · channel.session) (SharedLog.heeded_free free)

theorem read_away
    (raised : channel.session.handle.any channel.shared.gate.flags.isRaised = true) (limit : Nat) :
    channel.read limit = (channel.heeded, .error .interrupted) := by
  unfold read SharedLog.read
  rw [SharedLog.enter_away raised]
  rfl

theorem read_refused
    (free : channel.session.handle.any channel.shared.gate.flags.isRaised = false)
    (behind : ¬ channel.session.Current channel.shared.log) (limit : Nat) :
    channel.read limit = (channel, .error (channel.session.stale channel.shared.log)) := by
  obtain ⟨detects, apart⟩ := not_or.mp behind
  have since : channel.since = some channel.session.generation :=
    if_pos (Bool.eq_true_of_not_eq_false detects)
  unfold read SharedLog.read
  rw [SharedLog.enter_free free, since, Log.read_behind _ _ _ apart]
  rfl

theorem read_under (off : settings.detectStale = false) {limit : Nat}
    (here : channel.shared.read channel.session.handle channel.session.cursor limit channel.since =
      channel.shared.read channel.session.handle channel.session.cursor limit none) :
    (channel.under settings).read limit = (channel.read limit).map (under settings) id := by
  obtain ⟨shared, session⟩ := channel
  have nobody : Channel.since ⟨shared.under settings, session⟩ = none := by
    simp [since, SharedLog.under, SharedLog.adjust, SharedLog.log, Log.under, off]
  have there := SharedLog.read_under settings session.handle session.cursor limit none shared
  change read ⟨shared.under settings, session⟩ limit = _
  unfold read
  dsimp only at nobody there here ⊢
  rw [nobody, here, there]
  rcases shared.read session.handle session.cursor limit none with ⟨after, _ | found⟩ <;> rfl

-- Whoever is sent away is told nothing about its place, left behind or not.
theorem read_away_under (off : settings.detectStale = false)
    (raised : channel.session.handle.any channel.shared.gate.flags.isRaised = true) (limit : Nat) :
    (channel.under settings).read limit = (channel.read limit).map (under settings) id := by
  refine read_under off ?_
  unfold SharedLog.read
  rw [SharedLog.enter_away raised, SharedLog.enter_away raised]

theorem reads_undetected (off : settings.detectStale = false) :
    ReadsInStep (Undetected settings) Fault.isStale where
  heldBytes := by
    rintro channel _ ⟨rfl, _⟩
    rfl
  read := by
    rintro channel _ limit ⟨rfl, current⟩
    cases free : channel.session.handle.any channel.shared.gate.flags.isRaised with
    | true =>
      obtain ⟨tally, still⟩ := channel.shared.heeded_log channel.session.handle
      rw [read_away_under off free, read_away free]
      exact ⟨⟨rfl, rfl, still ▸ current⟩, rfl⟩
    | false =>
      have still := channel.shared.log.read_still channel.session.cursor limit channel.since
      have asked : channel.shared.read channel.session.handle channel.session.cursor limit
            channel.since =
          channel.shared.read channel.session.handle channel.session.cursor limit none :=
        SharedLog.enter_congr (Log.read_current _ _ _ current.since) _
      rw [read_under off asked, read_current current free]
      refine ⟨⟨rfl, rfl, ?_⟩, rfl⟩
      exact current.imp (still.settings ▸ ·) (still.generation ▸ ·)

end Channel

namespace Reply

def isStale (reply : Reply) : Bool :=
  reply.fault?.any Fault.isStale

theorem isStale_ofResult {found : β → Reply} (plain : ∀ value, (found value).fault? = none)
    (result : Except Fault β) :
    (Reply.ofResult found result).isStale = (faultOf result).any Fault.isStale := by
  cases result with
  | ok value => exact congrArg (Option.any _) (plain value)
  | error fault => rfl

theorem isStale_ofStream {found : β → Reply} (plain : ∀ value, (found value).fault? = none)
    (result : Except StreamFault β) :
    (Reply.ofStream found result).isStale = (streamFaultOf result).any Fault.isStale := by
  cases result with
  | ok value => exact congrArg (Option.any _) (plain value)
  | error fault => cases fault <;> rfl

end Reply

def SessionCall.failure : SessionCall → Fault → Reply
  | .readAll _, fault => .pieces [] (some fault)
  | _, fault => .fault fault

def StreamCall.failure : StreamCall → Fault → Reply
  | .readToEnd, fault => .collected (.error (.log fault)) []
  | _, fault => .streamFault (.log fault)

namespace Channel

variable {settings : Settings} {channel : Channel}

theorem InStep.reply {fault? : γ → Option Fault} {here there : Channel × γ}
    (inStep : InStep (Undetected settings) Fault.isStale fault? here there) (tell : γ → Reply)
    (plain : ∀ told, (tell told).under settings = tell told)
    (stale : ∀ told, (tell told).isStale = (fault? told).any Fault.isStale) :
    there.map id tell = (here.map id tell).map (under settings) (Reply.under settings) ∧
      (here.map id tell).2.isStale = false := by
  obtain ⟨after, _, answer, rfl, rfl, related, barred⟩ := inStep.split
  refine ⟨?_, (stale _).trans barred⟩
  rw [related.same]
  exact congrArg (Prod.mk _) (plain _).symm

theorem answer_undetected (off : settings.detectStale = false)
    (current : channel.session.Current channel.shared.log) {call : SessionCall}
    (readsOn : call.readsOn = true) :
    (channel.under settings).answer call =
        (channel.answer call).map (under settings) (Reply.under settings) ∧
      (channel.answer call).2.isStale = false := by
  have reads := reads_undetected off
  have undetected : Undetected settings channel (channel.under settings) := ⟨rfl, current⟩
  cases call with
  | read limit =>
    exact (reads.read limit undetected).reply _ (Reply.under_ofResult settings fun _ => rfl)
      (Reply.isStale_ofResult fun _ => rfl)
  | readAll limit =>
    exact (reads.readAll undetected limit).reply (fun found => Reply.pieces found.1 found.2)
      (fun _ => rfl) (fun _ => rfl)
  | _ => cases readsOn

theorem answerStream_undetected (off : settings.detectStale = false)
    (current : channel.session.Current channel.shared.log) {call : StreamCall}
    (readsOn : call.readsOn = true) :
    (channel.under settings).answerStream call =
        (channel.answerStream call).map (under settings) (Reply.under settings) ∧
      (channel.answerStream call).2.isStale = false := by
  have reads := reads_undetected off
  have undetected : Undetected settings channel (channel.under settings) := ⟨rfl, current⟩
  cases call with
  | read limit =>
    refine (reads.read limit undetected).reply
      (fun result => .ofStream .bytes (result.mapError .log)) ?_ ?_
    · exact fun result => Reply.under_ofStream settings (fun _ => rfl) _
    · rintro (fault | data) <;> rfl
  | readExact wanted =>
    exact (reads.readExact undetected wanted).reply _
      (Reply.under_ofStream settings fun _ => rfl) (Reply.isStale_ofStream fun _ => rfl)
  | readToEnd =>
    refine (reads.readToEnd undetected).reply (fun found => Reply.collected found.1 found.2)
      (fun _ => rfl) ?_
    rintro ⟨(_ | _ | _) | _, data⟩ <;> rfl
  | readToString =>
    exact (reads.readToString undetected).reply _
      (Reply.under_ofStream settings fun _ => rfl) (Reply.isStale_ofStream fun _ => rfl)
  | _ => cases readsOn

-- A call is answered the same without detection, or refused because of it.
inductive Outcome (settings : Settings) (readsOn single : Bool) (failure : Fault → Reply)
    (channel : Channel) (here there : Channel × Reply) : Prop where
  | alike (same : there = here.map (under settings) (Reply.under settings))
      (plain : (readsOn && here.2.isStale) = false) :
      Outcome settings readsOn single failure channel here there
  | refused (reads : readsOn = true) (behind : ¬ channel.session.Current channel.shared.log)
      (told : here = (channel.heeded, failure (channel.session.stale channel.shared.log)))
      (once : single = true →
        channel.session.handle.any channel.shared.gate.flags.isRaised = false)
      (spared : there.2.isStale = false) :
      Outcome settings readsOn single failure channel here there

-- The call that is made again finds the session where it was.
theorem persist_refused (behind : ¬ channel.session.Current channel.shared.log) (limit : Nat) :
    channel.persist (·.read limit) =
      (channel.heeded, .error (channel.session.stale channel.shared.log)) := by
  unfold persist
  dsimp only
  cases free : channel.session.handle.any channel.shared.gate.flags.isRaised with
  | false =>
    rw [read_refused free behind, heeded_free free]
    rfl
  | true =>
    obtain ⟨tally, log⟩ := channel.shared.heeded_log channel.session.handle
    have still : channel.heeded.shared.log = { channel.shared.log with tally } := log
    have remains : ¬ channel.heeded.session.Current channel.heeded.shared.log := still ▸ behind
    have lowered := channel.shared.heeded_lowered channel.session.handle
    rw [read_away free]
    refine (read_refused lowered remains limit).trans ?_
    rw [still]
    rfl

theorem answer_spared (off : settings.detectStale = false) (channel : Channel) {call : SessionCall}
    (readsOn : call.readsOn = true) : ((channel.under settings).answer call).2.isStale = false := by
  have current : (channel.under settings).session.Current (channel.under settings).shared.log :=
    .inl off
  exact (answer_undetected off current readsOn).2

theorem answerStream_spared (off : settings.detectStale = false) (channel : Channel)
    {call : StreamCall} (readsOn : call.readsOn = true) :
    ((channel.under settings).answerStream call).2.isStale = false := by
  have current : (channel.under settings).session.Current (channel.under settings).shared.log :=
    .inl off
  exact (answerStream_undetected off current readsOn).2

theorem answer_read_refused
    (free : channel.session.handle.any channel.shared.gate.flags.isRaised = false)
    (behind : ¬ channel.session.Current channel.shared.log) (limit : Nat) :
    channel.answer (.read limit) =
      (channel, .fault (channel.session.stale channel.shared.log)) := by
  simp only [answer, read_refused free behind]
  rfl

theorem answerStream_read_refused
    (free : channel.session.handle.any channel.shared.gate.flags.isRaised = false)
    (behind : ¬ channel.session.Current channel.shared.log) (limit : Nat) :
    channel.answerStream (.read limit) =
      (channel, .streamFault (.log (channel.session.stale channel.shared.log))) := by
  simp only [answerStream, streamRead, read_refused free behind]
  rfl

theorem answerStream_read_served
    (free : channel.session.handle.any channel.shared.gate.flags.isRaised = false)
    (current : channel.session.Current channel.shared.log) (limit : Nat) :
    (channel.answerStream (.read limit)).2 =
      .bytes (channel.shared.log.piece channel.session.cursor.toNat limit) := by
  simp only [answerStream, streamRead, read_current current free]
  rfl

-- Of a session left behind the first read decides: it is sent away on both sides, or refused here.
theorem answer_behind (off : settings.detectStale = false)
    (behind : ¬ channel.session.Current channel.shared.log) {call : SessionCall}
    (readsOn : call.readsOn = true) :
    Outcome settings call.readsOn call.single call.failure channel (channel.answer call)
      ((channel.under settings).answer call) := by
  cases free : channel.session.handle.any channel.shared.gate.flags.isRaised with
  | true =>
    cases call with
    | read limit =>
      have away := read_away free limit
      have same := read_away_under off free limit
      refine .alike ?_ ?_
      · simp only [answer, same, away]
        rfl
      · simp only [answer, away]
        rfl
    | readAll limit =>
      have away := read_away free limit
      have same := read_away_under off free limit
      refine .alike ?_ ?_
      · simp only [answer, readAll, drain, same, away]
        rfl
      · simp only [answer, readAll, drain, away]
        rfl
    | _ => cases readsOn
  | false =>
    refine .refused readsOn behind ?_ (fun _ => free) (answer_spared off channel readsOn)
    rw [heeded_free free]
    cases call with
    | read limit => exact answer_read_refused free behind limit
    | readAll limit =>
      simp only [answer, readAll, drain, read_refused free behind]
      rfl
    | _ => cases readsOn

theorem answerStream_behind (off : settings.detectStale = false)
    (behind : ¬ channel.session.Current channel.shared.log) {call : StreamCall}
    (readsOn : call.readsOn = true) :
    Outcome settings call.readsOn call.single call.failure channel (channel.answerStream call)
      ((channel.under settings).answerStream call) := by
  have persisted := persist_refused behind
  have spared := answerStream_spared off channel readsOn
  cases call with
  | read limit =>
    cases free : channel.session.handle.any channel.shared.gate.flags.isRaised with
    | true =>
      have away := read_away free limit
      have same := read_away_under off free limit
      refine .alike ?_ ?_
      · simp only [answerStream, streamRead, same, away]
        rfl
      · simp only [answerStream, streamRead, away]
        rfl
    | false =>
      refine .refused rfl behind ?_ (fun _ => free) spared
      rw [heeded_free free]
      exact answerStream_read_refused free behind limit
  | readExact wanted =>
    cases wanted with
    | zero => exact .alike rfl rfl
    | succ wanted =>
      refine .refused rfl behind ?_ nofun spared
      simp only [answerStream, readExact, fill, persisted]
      rfl
  | readToEnd =>
    refine .refused rfl behind ?_ nofun spared
    simp only [answerStream, readToEnd, gather, persisted]
    rfl
  | readToString =>
    refine .refused rfl behind ?_ nofun spared
    simp only [answerStream, readToString, readToEnd, gather, persisted]
    rfl
  | _ => cases readsOn

theorem answer_outcome (off : settings.detectStale = false) (channel : Channel)
    (call : SessionCall) :
    Outcome settings call.readsOn call.single call.failure channel (channel.answer call)
      ((channel.under settings).answer call) := by
  by_cases readsOn : call.readsOn = true
  · by_cases current : channel.session.Current channel.shared.log
    · obtain ⟨same, plain⟩ := answer_undetected off current readsOn
      exact .alike same (by rw [plain, Bool.and_false])
    · exact answer_behind off current readsOn
  · have other : call.readsOn = false := Bool.eq_false_of_not_eq_true readsOn
    exact .alike (answer_under settings other channel) (by rw [other, Bool.false_and])

theorem answerStream_outcome (off : settings.detectStale = false) (channel : Channel)
    (call : StreamCall) :
    Outcome settings call.readsOn call.single call.failure channel (channel.answerStream call)
      ((channel.under settings).answerStream call) := by
  by_cases readsOn : call.readsOn = true
  · by_cases current : channel.session.Current channel.shared.log
    · obtain ⟨same, plain⟩ := answerStream_undetected off current readsOn
      exact .alike same (by rw [plain, Bool.and_false])
    · exact answerStream_behind off current readsOn
  · have other : call.readsOn = false := Bool.eq_false_of_not_eq_true readsOn
    exact .alike (answerStream_under settings other channel) (by rw [other, Bool.false_and])

end Channel

namespace Call

def readsOn : Call → Bool
  | .session _ call => call.readsOn
  | .stream _ call => call.readsOn
  | _ => false

def failure : Call → Fault → Reply
  | .session _ call => call.failure
  | .stream _ call => call.failure
  | _ => .fault

def caller? : Call → Option Nat
  | .session number _ | .stream number _ => some number
  | _ => none

def leftBehind (call : Call) (reply : Reply) : Bool :=
  call.readsOn && reply.isStale

theorem failure_isStale (call : Call) (session : Session) (log : Log) :
    (call.failure (session.stale log)).isStale = true := by
  cases call with
  | session number call => cases call <;> rfl
  | stream number call => cases call <;> rfl
  | _ => rfl

theorem failure_into (call : Call) (fault : Fault) (buffer : Bytes) :
    (call.failure fault).into buffer = buffer := by
  cases call with
  | session number call => cases call <;> rfl
  | stream number call => cases call <;> rfl
  | _ => rfl

end Call

namespace Station

variable {settings : Settings} {station : Station}

def under (settings : Settings) (station : Station) : Station :=
  { station with shared := station.shared.under settings }

def heeded (station : Station) (handle : Option Handle) : Station :=
  { station with shared := station.shared.heeded handle }

-- A call is answered the same without detection, or it is a read of a session left behind.
inductive Outcome (settings : Settings) (station : Station) (call : Call)
    (here there : Station × Reply) : Prop where
  | alike (same : there = here.map (under settings) (Reply.under settings))
      (plain : call.leftBehind here.2 = false) : Outcome settings station call here there
  | refused {number : Nat} {session : Session} (left : call.leftBehind here.2 = true)
      (caller : call.caller? = some number)
      (present : station.session? number = some session)
      (behind : ¬ session.Current station.shared.log)
      (told : here =
        (station.heeded session.handle, call.failure (session.stale station.shared.log)))
      (once : call.single = true →
        session.handle.any station.shared.gate.flags.isRaised = false)
      (spared : there.2.isStale = false) : Outcome settings station call here there

theorem visit_outcome (call : Call) {number : Nat} (caller : call.caller? = some number)
    {act : Channel → Channel × Reply}
    (acts : ∀ channel, Channel.Outcome settings call.readsOn call.single call.failure channel
      (act channel) (act (channel.under settings))) :
    Outcome settings station call (station.visit number act)
      ((station.under settings).visit number act) := by
  cases present : station.session? number with
  | none =>
    have absent : (station.under settings).session? number = none := present
    rw [visit_none present, visit_none absent]
    exact .alike rfl (Bool.and_false _)
  | some session =>
    have there : (station.under settings).session? number = some session := present
    have outcome := acts ⟨station.shared, session⟩
    rw [visit_some present, visit_some there]
    cases outcome with
    | alike same plain =>
      refine .alike ?_ plain
      exact congrArg (fun after : Channel × Reply =>
        (Station.mk after.1.shared (station.sessions.set number after.1.session), after.2)) same
    | refused reads behind told once spared =>
      rw [told]
      refine .refused ?_ caller present behind ?_ once spared
      · exact Bool.and_eq_true_iff.mpr ⟨reads, call.failure_isStale session station.shared.log⟩
      · simp only [Channel.heeded, set_present present]
        rfl

theorem step_outcome (off : settings.detectStale = false) (station : Station) (call : Call) :
    Outcome settings station call (station.step call) ((station.under settings).step call) := by
  cases call with
  | openSession => exact .alike rfl rfl
  | session number call =>
    exact visit_outcome (.session number call) rfl (Channel.answer_outcome off · call)
  | stream number call =>
    exact visit_outcome (.stream number call) rfl (Channel.answerStream_outcome off · call)
  | log handle call =>
    refine .alike ?_ rfl
    have answered := SharedLog.answer_under settings handle call station.shared
    exact congrArg (fun after : SharedLog × Reply =>
      (Station.mk after.1 station.sessions, after.2)) answered
  | handle handle call =>
    refine .alike ?_ rfl
    have handled := SharedLog.handled_under settings handle call station.shared
    exact congrArg (fun after : SharedLog × Reply =>
      (Station.mk after.1 station.sessions, after.2)) handled
  | burst writers times chunk =>
    refine .alike ?_ rfl
    have burst := SharedLog.burst_under settings writers times chunk station.shared
    exact congrArg (fun after => (Station.mk after station.sessions, Reply.done)) burst

-- Up to the first read that is refused both runs are one run, told under other settings.
theorem run_undetected (off : settings.detectStale = false) {calls : List Call}
    (current : ∀ pair ∈ calls.zip (station.run calls).2, pair.1.leftBehind pair.2 = false) :
    (station.under settings).run calls =
      (station.run calls).map (under settings) (List.map (Reply.under settings)) := by
  induction calls generalizing station with
  | nil => rfl
  | cons call calls ih =>
    obtain ⟨first, others⟩ := List.forall_mem_cons.mp current
    cases station.step_outcome off call with
    | alike same plain =>
      have rest : ((station.step call).1.under settings).run calls =
          ((station.step call).1.run calls).map (under settings)
            (List.map (Reply.under settings)) := ih others
      simp only [run, same, Prod.map, rest, List.map_cons]
    | refused left caller present behind told once spared => cases left.symm.trans first

theorem visit_still {number : Nat} {session : Session}
    (present : station.session? number = some session) (act : Channel → Channel × Reply)
    {reply : Reply}
    (told : act ⟨station.shared, session⟩ = (⟨station.shared, session⟩, reply)) :
    station.visit number act = (station, reply) := by
  rw [visit_some present, told, set_present present]

theorem step_reading {number : Nat} {session : Session}
    (present : station.session? number = some session)
    (free : session.handle.any station.shared.gate.flags.isRaised = false) (size : Nat) :
    ∀ read ∈ [Call.session number (.read size), .stream number (.read size)],
      (¬ session.Current station.shared.log →
        station.step read = (station, read.failure (session.stale station.shared.log))) ∧
      (session.Current station.shared.log →
        (station.step read).2 = .bytes (station.shared.log.piece session.cursor.toNat size)) := by
  refine List.forall_mem_cons.mpr ⟨⟨?_, ?_⟩, List.forall_mem_singleton.mpr ⟨?_, ?_⟩⟩
  · intro behind
    exact visit_still present (·.answer (.read size)) (Channel.answer_read_refused free behind size)
  · intro current
    exact congrArg Prod.snd (step_read present current free size)
  · intro behind
    exact visit_still present (·.answerStream (.read size))
      (Channel.answerStream_read_refused free behind size)
  · intro current
    refine (congrArg Prod.snd (visit_some present (·.answerStream (.read size)))).trans ?_
    exact Channel.answerStream_read_served free current size

-- Two logs that differ in nothing but detection do the same until a read is refused for it. To the
-- session refused nothing has happened, and without detection it reads on from the same cursor.
theorem detection_is_conservative {settings : Settings} (valid : settings.check = .ok ()) :
    let detecting : Settings := { settings with detectStale := true }
    let plain : Settings := { settings with detectStale := false }
    ∃ start twin, create detecting = .ok start ∧ create plain = .ok twin ∧ ∀ calls,
      let here := (start.run calls).1
      let there := (twin.run calls).1
      (∀ pair ∈ calls.zip (start.run calls).2, pair.1.leftBehind pair.2 = false) →
        (twin.run calls).2 = (start.run calls).2.map (Reply.under plain) ∧
        there = here.under plain ∧
        ∀ call, call.leftBehind (here.step call).2 = true → ∃ number session,
          let stale := session.stale here.shared.log
          let asker := here.heeded session.handle
          call.caller? = some number ∧
          here.session? number = some session ∧ there.session? number = some session ∧
          here.step call = (asker, call.failure stale) ∧ (call.single = true → asker = here) ∧
          (∀ buffer, (call.failure stale).into buffer = buffer) ∧
          (there.step call).2.isStale = false ∧
          ∀ size, ∀ read ∈ [Call.session number (.read size), .stream number (.read size)],
            asker.step read = (asker, read.failure stale) ∧
            ((asker.under plain).step read).2 =
              .bytes (here.shared.log.piece session.cursor.toNat size) := by
  intro detecting plain
  have off : plain.detectStale = false := rfl
  refine ⟨_, _, create_eq valid, create_eq valid, ?_⟩
  intro calls here there current
  have ran : ((fresh detecting).under plain).run calls =
      ((fresh detecting).run calls).map (under plain) (List.map (Reply.under plain)) :=
    run_undetected off current
  have same : there = here.under plain := congrArg Prod.fst ran
  refine ⟨congrArg Prod.snd ran, same, ?_⟩
  intro call left
  cases here.step_outcome off call with
  | alike _ spared => cases left.symm.trans spared
  | @refused number session _ caller present behind told once spared =>
    have lowered := here.shared.heeded_lowered session.handle
    obtain ⟨tally, log⟩ := here.shared.heeded_log session.handle
    refine ⟨number, session, caller, present, same ▸ present, told, ?_, ?_, same ▸ spared, ?_⟩
    · intro single
      exact congrArg (Station.mk · here.sessions) (SharedLog.heeded_free (once single))
    · exact call.failure_into _
    · intro size read reading
      have asked : (here.heeded session.handle).session? number = some session := present
      have waits : ((here.heeded session.handle).under plain).session? number = some session :=
        present
      have still : (here.heeded session.handle).shared.log = { here.shared.log with tally } := log
      have detected := (step_reading asked lowered size read reading).1
      have undetected := (step_reading waits lowered size read reading).2 (.inl off)
      have same : ((here.heeded session.handle).under plain).shared.log =
          { here.shared.log with tally, settings := plain } := congrArg (Log.under plain) log
      rw [still] at detected
      rw [same] at undetected
      exact ⟨detected behind, undetected⟩

theorem detection_of_an_eviction :
    let settings : Settings := ⟨1, 59, true, 1⟩
    let calls : List Call := [.openSession, .session 0 (.write [97, 59]), .openSession,
      .session 1 (.read 1), .session 0 (.write [98, 99, 59]), .log none .settings]
    let call : Call := .session 1 (.read 5)
    settings.check = .ok () ∧ ∃ start twin,
      create { settings with detectStale := true } = .ok start ∧
      create { settings with detectStale := false } = .ok twin ∧
      let here := (start.run calls).1
      let there := (twin.run calls).1
      there.cursors = here.cursors ∧ here.step call = (here, .fault (.staleCursor 0 1)) ∧
        (there.step call).2 = .bytes [99, 59] := by
  intro settings calls call
  have valid : settings.check = .ok () := rfl
  obtain ⟨start, twin, created, twinned, conserves⟩ := detection_is_conservative valid
  have same : start = fresh settings := Except.ok.inj (created.symm.trans (create_eq valid))
  have current : ∀ pair ∈ calls.zip (start.run calls).2, pair.1.leftBehind pair.2 = false := by
    rw [same]
    decide +kernel
  have left : call.leftBehind ((start.run calls).1.step call).2 = true := by
    rw [same]
    decide +kernel
  have reader : (start.run calls).1.session? 1 = some ⟨⟨2⟩, some (.session 1), 1, 0, false⟩ := by
    rw [same]
    decide +kernel
  have generation : (start.run calls).1.shared.log.generation = 1 := by
    rw [same]
    decide +kernel
  have piece : (start.run calls).1.shared.log.piece 1 5 = [99, 59] := by
    rw [same]
    decide +kernel
  obtain ⟨_, agree, refusals⟩ := conserves calls current
  obtain ⟨number, session, caller, present, _, told, single, _, _, reads⟩ := refusals call left
  obtain rfl : 1 = number := Option.some.inj caller
  obtain rfl := Option.some.inj (reader.symm.trans present)
  have stays := single rfl
  obtain ⟨_, found⟩ := reads 5 call (List.mem_cons_self ..)
  refine ⟨valid, start, twin, created, twinned, ?_, ?_, ?_⟩
  · rw [agree]
    rfl
  · rw [told, stays, Session.stale, generation]
    rfl
  · rw [stays, ← agree] at found
    rw [found]
    exact congrArg Reply.bytes piece

end Station

end CircularLog
