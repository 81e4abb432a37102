import CircularLog.Proofs.Likeness
import CircularLog.Proofs.Writing

namespace CircularLog

variable {β γ δ σ : Type}

def SessionCall.waits : SessionCall → Bool
  | .write chunk => !chunk.isEmpty
  | .read _ | .readAt _ _ | .seekTo _ _ | .seek _ => true
  | _ => false

def StreamCall.waits : StreamCall → Bool
  | .write chunk => !chunk.isEmpty
  | .read _ | .seek _ | .rewind | .position => true
  | _ => false

def LogCall.waits : LogCall → Bool
  | .write _ chunk => !chunk.isEmpty
  | .settings => false
  | _ => true

-- One operation and no more. A close makes up for its interrupt with a drop.
def SessionCall.single : SessionCall → Bool
  | .readAll _ | .close => false
  | _ => true

def StreamCall.single : StreamCall → Bool
  | .readExact _ | .readToEnd | .readToString | .writeAll _ => false
  | _ => true

theorem SessionCall.single_of_waits {call : SessionCall} (waits : call.waits = true) :
    call.single = true := by
  cases call <;> first | rfl | cases waits

theorem StreamCall.single_of_waits {call : StreamCall} (waits : call.waits = true) :
    call.single = true := by
  cases call <;> first | rfl | cases waits

def Call.single : Call → Bool
  | .session _ call => call.single
  | .stream _ call => call.single
  | .handle _ _ | .burst _ _ _ => false
  | .openSession | .log _ _ => true

-- How a call says that it was refused.
def Call.refusal : Call → Fault → Reply
  | .stream _ _, fault => .streamFault (.log fault)
  | .log _ (.readInto _ buffer _), fault => .unfilled fault buffer
  | _, fault => .fault fault

def Call.attempt (key : Handle) : Call → Call
  | .log none call => .log (some key) call
  | call => call

def Call.takes (buffer : Bytes) : Call → Prop
  | .log _ (.readInto _ given _) => given = buffer
  | _ => True

namespace Reply

def fault? : Reply → Option Fault
  | .fault problem | .unfilled problem _ | .streamFault (.log problem) => some problem
  | .pieces _ problem => problem
  | .collected (.error (.log problem)) _ => some problem
  | _ => none

-- A buffer of the caller when a reply has come. The bytes read stand at its front.
def into (buffer : Bytes) : Reply → Bytes
  | .bytes data | .piece data _ => data ++ buffer.drop data.length
  | .filled _ _ after | .unfilled _ after => after
  | _ => buffer

end Reply

@[simp] theorem Call.refusal_fault? (call : Call) (fault : Fault) :
    (call.refusal fault).fault? = some fault := by
  unfold refusal
  split <;> rfl

@[simp] theorem Call.refusal_attempt (key : Handle) (call : Call) :
    (call.attempt key).refusal = call.refusal := by
  unfold attempt
  split
  · rename_i call
    cases call <;> rfl
  · rfl

theorem Call.refusal_into {call : Call} {buffer : Bytes} (takes : call.takes buffer)
    (fault : Fault) : (call.refusal fault).into buffer = buffer := by
  unfold refusal
  split
  · rfl
  · exact takes
  · rfl

-- Where a call takes place: the log in it, and the place with another log put in.
structure Seat (σ : Type) where
  shared : σ → SharedLog
  put : σ → SharedLog → σ
  shared_put : ∀ before after, shared (put before after) = after
  put_shared : ∀ before, put before (shared before) = before

-- How refusals are told, and which answers are none.
structure Voice (γ : Type) where
  refusal : Fault → γ
  plain : γ → Prop

def SharedLog.seat : Seat SharedLog :=
  ⟨id, fun _ shared => shared, fun _ _ => rfl, fun _ => rfl⟩

def Channel.seat : Seat Channel :=
  ⟨Channel.shared, fun channel shared => { channel with shared }, fun _ _ => rfl, fun _ => rfl⟩

def Station.seat : Seat Station :=
  ⟨Station.shared, fun station shared => { station with shared }, fun _ _ => rfl, fun _ => rfl⟩

def Voice.result (β : Type) : Voice (Except Fault β) :=
  ⟨.error, fun result => ∃ found, result = .ok found⟩

def Voice.stream (β : Type) : Voice (Except StreamFault β) :=
  ⟨fun fault => .error (.log fault), fun result => ∃ found, result = .ok found⟩

def Voice.reply (refusal : Fault → Reply) : Voice Reply :=
  ⟨refusal, fun reply => reply.fault? = none⟩

structure SharedLog.Undisturbed (shared after : SharedLog) : Prop where
  interrupts : after.log.tally.interrupts = shared.log.tally.interrupts
  flags : after.gate.flags = shared.gate.flags

-- A caller at the gate is sent away by its flag, or let in and then refused or served.
inductive Reception (seat : Seat σ) (voice : Voice γ) (handle : Option Handle) (before : σ) :
    σ × γ → Prop where
  | sentAway {key : Handle} (named : handle = some key)
      (raised : (seat.shared before).gate.flags.isRaised key = true) :
      Reception seat voice handle before
        (seat.put before ((seat.shared before).sentAway key), voice.refusal .interrupted)
  | refused {fault : Fault}
      (free : handle.any (seat.shared before).gate.flags.isRaised = false)
      (other : fault ≠ .interrupted) :
      Reception seat voice handle before (before, voice.refusal fault)
  | served {after : σ} {answer : γ}
      (free : handle.any (seat.shared before).gate.flags.isRaised = false)
      (plain : voice.plain answer)
      (undisturbed : (seat.shared before).Undisturbed (seat.shared after)) :
      Reception seat voice handle before (after, answer)

namespace Reception

variable {seat : Seat σ} {handle : Option Handle} {before : σ}

theorem tell {voice : Voice γ} {other : Voice δ} {tell : γ → δ} {result : σ × γ}
    (reception : Reception seat voice handle before result)
    (refusal : ∀ fault, tell (voice.refusal fault) = other.refusal fault)
    (plain : ∀ answer, voice.plain answer → other.plain (tell answer)) :
    Reception seat other handle before (result.map id tell) := by
  cases reception with
  | sentAway named raised =>
    rw [Prod.map, refusal]
    exact .sentAway named raised
  | refused free kind =>
    rw [Prod.map, refusal]
    exact .refused free kind
  | served free told undisturbed => exact .served free (plain _ told) undisturbed

theorem inside {voice : Voice γ} {result : SharedLog × γ}
    (reception : Reception SharedLog.seat voice handle (seat.shared before) result) :
    Reception seat voice handle before (seat.put before result.1, result.2) := by
  cases reception with
  | sentAway named raised => exact .sentAway named raised
  | refused free other =>
    simp only [seat.put_shared]
    exact .refused free other
  | served free plain undisturbed =>
    refine .served free plain ?_
    rw [seat.shared_put]
    exact undisturbed

theorem reply {found : β → Reply} {result : σ × Except Fault β}
    (reception : Reception seat (.result β) handle before result)
    (plain : ∀ value, (found value).fault? = none) :
    Reception seat (.reply .fault) handle before (result.map id (.ofResult found)) := by
  refine reception.tell (fun _ => rfl) ?_
  rintro _ ⟨value, rfl⟩
  exact plain value

theorem stream {result : σ × Except Fault β}
    (reception : Reception seat (.result β) handle before result) :
    Reception seat (.stream β) handle before (result.map id (Except.mapError StreamFault.log)) := by
  refine reception.tell (fun _ => rfl) ?_
  rintro _ ⟨value, rfl⟩
  exact ⟨value, rfl⟩

theorem streamReply {found : β → Reply} {result : σ × Except StreamFault β}
    (reception : Reception seat (.stream β) handle before result)
    (plain : ∀ value, (found value).fault? = none) :
    Reception seat (.reply fun fault => .streamFault (.log fault)) handle before
      (result.map id (.ofStream found)) := by
  refine reception.tell (fun _ => rfl) ?_
  rintro _ ⟨value, rfl⟩
  exact plain value

end Reception

namespace Log

inductive Settles (log : Log) : Log × Except Fault β → Prop where
  | refused {fault : Fault} (other : fault ≠ .interrupted) : Settles log (log, .error fault)
  | served {after : Log} {found : β}
      (interrupts : after.tally.interrupts = log.tally.interrupts) :
      Settles log (after, .ok found)

variable {log : Log}

theorem write_interrupts (log : Log) (id : SessionId) (chunk : Bytes) :
    (log.write id chunk).tally.interrupts = log.tally.interrupts := by
  obtain ⟨journal, written⟩ := write_eq log id chunk
  rw [written]
  rfl

theorem read_settles (log : Log) (cursor : UInt64) (limit : Nat) (since : Option UInt64) :
    log.Settles (log.read cursor limit since) := by
  unfold read
  split
  · exact .refused nofun
  · split
    · exact .served rfl
    · refine .served ?_
      simp only [note, Tally.countRead]
      split <;> rfl

theorem locate_settles (log : Log) (index offset : Nat) :
    log.Settles (log, log.locate index offset) := by
  cases result : log.locate index offset with
  | error fault =>
    obtain ⟨cause, rfl⟩ := locate_fault result
    exact .refused nofun
  | ok found => exact .served rfl

theorem discard_interrupts (log : Log) (id : SessionId) :
    (log.discard id).1.tally.interrupts = log.tally.interrupts := by
  by_cases contributor : id ∈ log.contributors
  · simp [discard_lost contributor, note, Tally.countDiscard]
  · simp [discard_kept contributor]

theorem teardown_interrupts (log : Log) :
    log.teardown.1.tally.interrupts = log.tally.interrupts :=
  rfl

end Log

namespace SharedLog

variable {handle : Option Handle}

theorem enter_reception (shared : SharedLog) (handle : Option Handle)
    (act : Log → Log × Except Fault β) (settles : shared.log.Settles (act shared.log)) :
    Reception seat (.result β) handle shared (shared.enter handle act) := by
  cases free : handle.any shared.gate.flags.isRaised with
  | true =>
    obtain ⟨key, rfl, raised⟩ := (Option.any_eq_true _ _).mp free
    rw [enter_sentAway raised]
    exact .sentAway rfl raised
  | false =>
    rw [enter_free free]
    generalize act shared.log = result at settles
    cases settles with
    | refused other => exact .refused free other
    | served interrupts => exact .served free ⟨_, rfl⟩ ⟨interrupts, rfl⟩

theorem write_reception (shared : SharedLog) (handle : Option Handle) (id : SessionId)
    (chunk : Bytes) :
    Reception seat (.result Nat) (if !chunk.isEmpty then handle else none) shared
      (shared.write handle id chunk) := by
  unfold write
  cases chunk.isEmpty with
  | true => exact .served rfl ⟨_, rfl⟩ ⟨rfl, rfl⟩
  | false => exact shared.enter_reception handle _ (.served (shared.log.write_interrupts id chunk))

theorem read_reception (shared : SharedLog) (handle : Option Handle) (cursor : UInt64)
    (limit : Nat) (since : Option UInt64) :
    Reception seat (.result _) handle shared (shared.read handle cursor limit since) :=
  shared.enter_reception handle _ (shared.log.read_settles cursor limit since)

theorem locate_reception (shared : SharedLog) (handle : Option Handle) (index offset : Nat) :
    Reception seat (.result _) handle shared (shared.locate handle index offset) :=
  shared.enter_reception handle (fun log => (log, log.locate index offset))
    (shared.log.locate_settles index offset)

theorem discard_reception (shared : SharedLog) (handle : Option Handle) (id : SessionId) :
    Reception seat (.result Nat) handle shared (shared.discard handle id) :=
  shared.enter_reception handle _ (.served (shared.log.discard_interrupts id))

theorem answer_reception (shared : SharedLog) (handle : Option Handle) (call : LogCall) :
    Reception seat (.reply (Call.log handle call).refusal) (if call.waits then handle else none)
      shared (shared.answer handle call) := by
  cases call with
  | write id chunk => exact (shared.write_reception handle id chunk).reply fun _ => rfl
  | discard id => exact (shared.discard_reception handle id).reply fun _ => rfl
  | readInto cursor buffer since =>
    have reception := shared.read_reception handle cursor buffer.length since
    simp only [answer, readInto]
    generalize shared.read handle cursor buffer.length since = result at reception
    cases reception with
    | sentAway named raised => exact .sentAway named raised
    | refused free other => exact .refused free other
    | served free plain undisturbed =>
      obtain ⟨⟨data, next⟩, rfl⟩ := plain
      exact .served free rfl undisturbed
  | readOut cursor limit =>
    exact (shared.read_reception handle cursor limit none).reply fun _ => rfl
  | locate index offset =>
    exact (shared.locate_reception handle index offset).reply fun _ => rfl
  | settings => exact .served rfl rfl ⟨rfl, rfl⟩
  | teardown =>
    exact (shared.enter_reception handle _ (.served shared.log.teardown_interrupts)).reply
      fun _ => rfl
  | _ => exact (shared.enter_reception handle _ (.served rfl)).reply fun _ => rfl

end SharedLog

namespace Channel

theorem write_reception (channel : Channel) (chunk : Bytes) :
    Reception seat (.result Nat) (if !chunk.isEmpty then channel.session.handle else none) channel
      (channel.write chunk) :=
  (channel.shared.write_reception channel.session.handle channel.session.id chunk).inside

theorem read_reception (channel : Channel) (limit : Nat) :
    Reception seat (.result Bytes) channel.session.handle channel (channel.read limit) := by
  have reception := channel.shared.read_reception channel.session.handle channel.session.cursor
    limit channel.since
  unfold Channel.read
  generalize channel.shared.read _ _ _ _ = result at reception
  cases reception with
  | sentAway named raised => exact .sentAway named raised
  | refused free other => exact .refused free other
  | served free plain undisturbed =>
    obtain ⟨⟨data, next⟩, rfl⟩ := plain
    exact .served free ⟨_, rfl⟩ undisturbed

theorem readAt_reception (channel : Channel) (cursor : UInt64) (limit : Nat) :
    Reception seat (.result _) channel.session.handle channel (channel.readAt cursor limit) :=
  (channel.shared.read_reception channel.session.handle cursor limit none).inside

theorem seekTo_reception (channel : Channel) (index offset : Nat) :
    Reception seat (.result UInt64) channel.session.handle channel
      (channel.seekTo index offset) := by
  have reception := channel.shared.locate_reception channel.session.handle index offset
  unfold seekTo
  generalize channel.shared.locate _ _ _ = result at reception
  cases reception with
  | sentAway named raised => exact .sentAway named raised
  | refused free other => exact .refused free other
  | served free plain undisturbed =>
    obtain ⟨⟨cursor, generation⟩, rfl⟩ := plain
    exact .served free ⟨_, rfl⟩ ⟨undisturbed.interrupts, undisturbed.flags⟩

theorem seek_reception (channel : Channel) (whence : Whence) :
    Reception seat (.result UInt64) channel.session.handle channel (channel.seek whence) := by
  obtain ⟨shared, session⟩ := channel
  unfold seek SharedLog.extent SharedLog.ask
  cases free : session.handle.any shared.gate.flags.isRaised with
  | true =>
    obtain ⟨key, named, raised⟩ := (Option.any_eq_true _ _).mp free
    rw [named, SharedLog.enter_sentAway raised]
    exact .sentAway rfl raised
  | false =>
    rw [SharedLog.enter_free free]
    dsimp only
    split
    · exact .served free ⟨_, rfl⟩ ⟨rfl, rfl⟩
    · exact .refused free nofun

theorem drop_reception (channel : Channel) {voice : Voice γ} {answer : γ}
    (plain : voice.plain answer) :
    Reception seat voice none channel (channel.drop, answer) := by
  refine .served rfl plain ?_
  unfold drop release
  split
  · exact ⟨rfl, rfl⟩
  · exact ⟨channel.shared.log.discard_interrupts channel.session.id, rfl⟩

theorem answer_reception (channel : Channel) {call : SessionCall} (single : call.single = true) :
    Reception seat (.reply .fault) (if call.waits then channel.session.handle else none) channel
      (channel.answer call) := by
  cases call with
  | write chunk => exact (channel.write_reception chunk).reply fun _ => rfl
  | read limit => exact (channel.read_reception limit).reply fun _ => rfl
  | readAll limit => cases single
  | readAt cursor limit => exact (channel.readAt_reception cursor limit).reply fun _ => rfl
  | seekTo index offset => exact (channel.seekTo_reception index offset).reply fun _ => rfl
  | seek whence => exact (channel.seek_reception whence).reply fun _ => rfl
  | settings => exact .served rfl rfl ⟨rfl, rfl⟩
  | close => cases single
  | drop => exact channel.drop_reception rfl

theorem answerStream_reception (channel : Channel) {call : StreamCall}
    (single : call.single = true) :
    Reception seat (.reply fun fault => .streamFault (.log fault))
      (if call.waits then channel.session.handle else none) channel
      (channel.answerStream call) := by
  cases call with
  | read limit => exact (channel.read_reception limit).stream.streamReply fun _ => rfl
  | write chunk => exact (channel.write_reception chunk).stream.streamReply fun _ => rfl
  | flush => exact .served rfl rfl ⟨rfl, rfl⟩
  | seek whence => exact (channel.seek_reception whence).stream.streamReply fun _ => rfl
  | rewind =>
    have rewound : Reception seat (.stream Unit) channel.session.handle channel channel.rewind := by
      refine (channel.seek_reception (.start 0)).stream.tell (fun _ => rfl) ?_
      rintro _ ⟨value, rfl⟩
      exact ⟨(), rfl⟩
    exact rewound.streamReply fun _ => rfl
  | position => exact (channel.seek_reception (.current 0)).stream.streamReply fun _ => rfl
  | _ => cases single

end Channel

namespace Station

variable {station : Station}

def handle? (station : Station) : Call → Option Handle
  | .session number call =>
    (station.session? number).bind fun session => if call.waits then session.handle else none
  | .stream number call =>
    (station.session? number).bind fun session => if call.waits then session.handle else none
  | .log handle call => if call.waits then handle else none
  | _ => none

def sentAway (station : Station) (key : Handle) : Station :=
  { station with shared := station.shared.sentAway key }

theorem visit_reception (number : Nat) (act : Channel → Channel × Reply)
    (looks : Session → Option Handle) {refusal : Fault → Reply}
    (acts : ∀ channel, Reception Channel.seat (.reply refusal) (looks channel.session) channel
      (act channel)) :
    Reception seat (.reply refusal) ((station.session? number).bind looks) station
      (station.visit number act) := by
  cases present : station.session? number with
  | none =>
    rw [visit_none present]
    exact .served rfl rfl ⟨rfl, rfl⟩
  | some session =>
    have stays := set_present present
    have reception := acts ⟨station.shared, session⟩
    rw [visit_some present]
    generalize act ⟨station.shared, session⟩ = result at reception
    cases reception with
    | sentAway named raised =>
      simp only [Channel.seat, stays]
      exact .sentAway named raised
    | refused free other =>
      simp only [stays]
      exact .refused free other
    | served free plain undisturbed => exact .served free plain undisturbed

theorem step_reception (station : Station) {call : Call} (single : call.single = true) :
    Reception seat (.reply call.refusal) (station.handle? call) station (station.step call) := by
  cases call with
  | openSession => exact .served rfl rfl ⟨rfl, rfl⟩
  | session number call =>
    exact visit_reception number (·.answer call)
      (fun session => if call.waits then session.handle else none)
      fun channel => channel.answer_reception single
  | stream number call =>
    exact visit_reception number (·.answerStream call)
      (fun session => if call.waits then session.handle else none)
      fun channel => channel.answerStream_reception single
  | log handle call => exact (station.shared.answer_reception handle call).inside
  | handle handle call => cases single
  | burst writers times chunk => cases single

theorem waits_of_flag {session? : Option Session} {waits : Bool} {key : Handle}
    (named : (session?.bind fun session => if waits then session.handle else none) = some key) :
    waits = true := by
  cases waits with
  | true => rfl
  | false => cases session? <;> cases named

theorem single_of_handle? {call : Call} {key : Handle} (named : station.handle? call = some key) :
    call.single = true := by
  cases call with
  | session number call => exact SessionCall.single_of_waits (waits_of_flag named)
  | stream number call => exact StreamCall.single_of_waits (waits_of_flag named)
  | log handle call => rfl
  | _ => cases named

theorem step_sentAway {call : Call} {key : Handle} (named : station.handle? call = some key)
    (raised : station.shared.gate.flags.isRaised key = true) :
    station.step call = (station.sentAway key, call.refusal .interrupted) := by
  have reception := station.step_reception (single_of_handle? named)
  generalize station.step call = result at reception
  rw [named] at reception
  cases reception with
  | sentAway same _ =>
    cases same
    rfl
  | refused free other => cases raised.symm.trans free
  | served free plain undisturbed => cases raised.symm.trans free

-- A session that comes to the gate with its flag raised.
theorem step_raised {number : Nat} {session : Session}
    (present : station.session? number = some session)
    (raised : session.handle.any station.shared.gate.flags.isRaised = true) {call : SessionCall}
    (waits : call.waits = true) :
    ∃ key, session.handle = some key ∧ station.step (.session number call) =
      (station.sentAway key, (Call.session number call).refusal .interrupted) := by
  obtain ⟨key, named, flag⟩ := (Option.any_eq_true _ _).mp raised
  have looks : station.handle? (.session number call) = some key := by
    simp [handle?, present, waits, named]
  exact ⟨key, named, step_sentAway looks flag⟩

end Station

def Tally.withInterrupts (more : Nat) (tally : Tally) : Tally :=
  { tally with interrupts := tally.interrupts + UInt64.ofNat more }

def Snapshot.withInterrupts (more : Nat) (snapshot : Snapshot) : Snapshot :=
  { snapshot with tally := snapshot.tally.withInterrupts more }

namespace Log

def withInterrupts (more : Nat) (log : Log) : Log :=
  { log with tally := log.tally.withInterrupts more }

variable (more : Nat) (log : Log)

theorem countInterrupt_withInterrupts :
    (log.withInterrupts more).countInterrupt = log.countInterrupt.withInterrupts more := by
  simp only [countInterrupt, withInterrupts, Tally.countInterrupt, Tally.withInterrupts,
    UInt64.add_assoc, UInt64.add_comm 1]

theorem commit_withInterrupts (id : SessionId) (record : Record) :
    (log.withInterrupts more).commit id record = (log.commit id record).withInterrupts more := by
  simp only [commit, withInterrupts]
  rcases log.ring.push record with ⟨ring, _ | oldest⟩ <;> rfl

theorem commits_withInterrupts (id : SessionId) (records : List Record) :
    records.foldl (commit id) (log.withInterrupts more) =
      (records.foldl (commit id) log).withInterrupts more := by
  induction records generalizing log with
  | nil => rfl
  | cons record records ih => simp only [List.foldl_cons, commit_withInterrupts, ih]

theorem write_withInterrupts (id : SessionId) (chunk : Bytes) :
    (log.withInterrupts more).write id chunk = (log.write id chunk).withInterrupts more := by
  have same : (log.withInterrupts more).pending = log.pending := rfl
  unfold write
  rw [same]
  rcases log.pending.append chunk with ⟨pending, _ | records⟩
  · rfl
  · have committed := commits_withInterrupts more
      { log with pending, contributors := if pending.isEmpty then [] else [id] } id records
    exact congrArg (fun after : Log => { after with tally := after.tally.countWrite chunk.length })
      committed

theorem read_withInterrupts (cursor : UInt64) (limit : Nat) (since : Option UInt64) :
    ((log.withInterrupts more).read cursor limit since).1 =
      (log.read cursor limit since).1.withInterrupts more := by
  unfold read
  simp only [withInterrupts]
  split
  · rfl
  · simp only [held]
    split
    · rfl
    · simp only [note, Tally.countRead, Tally.withInterrupts]
      split <;> rfl

theorem discard_withInterrupts (id : SessionId) :
    (log.withInterrupts more).discard id =
      ((log.discard id).1.withInterrupts more, (log.discard id).2) := by
  have same : (log.withInterrupts more).contributors = log.contributors := rfl
  by_cases contributor : id ∈ log.contributors
  · rw [discard_lost contributor, discard_lost (same ▸ contributor)]
    rfl
  · rw [discard_kept contributor, discard_kept (same ▸ contributor)]

-- No operation asks how often somebody was interrupted.
theorem withInterrupts_likeness :
    Likeness (fun log other => other = log.withInterrupts more) (·.withInterrupts more) true where
  dates _ _ := rfl
  settings := by rintro log _ rfl; rfl
  held := by rintro log _ rfl; rfl
  generation := by rintro log _ rfl; rfl
  nextSession := by rintro log _ rfl; rfl
  snapshot := by rintro log _ rfl; rfl
  note := by rintro log _ event rfl; rfl
  interrupted := by rintro log _ rfl; exact log.countInterrupt_withInterrupts more
  admitted := by rintro log _ rfl; rfl
  wrote := by rintro log _ id chunk rfl; exact log.write_withInterrupts more id chunk
  read := by
    rintro log _ cursor limit since rfl
    exact log.read_withInterrupts more cursor limit since
  discarded := by
    rintro log _ id rfl
    rw [discard_withInterrupts]
    exact ⟨rfl, rfl⟩
  tornDown := by rintro log _ rfl; exact ⟨rfl, rfl⟩

end Log

namespace Station

variable {station : Station}

def withInterrupts (more : Nat) (station : Station) : Station :=
  { station with shared := station.shared.adjust (·.withInterrupts more) }

@[simp] theorem withInterrupts_zero (station : Station) : station.withInterrupts 0 = station := by
  simp [withInterrupts, SharedLog.adjust, Log.withInterrupts, Tally.withInterrupts]

theorem step_withInterrupts (more : Nat) (station : Station) (call : Call) :
    (station.withInterrupts more).step call = ((station.step call).1.withInterrupts more,
      (station.step call).2.retold (·.withInterrupts more)) := by
  have alike : station.Like (fun log other => other = log.withInterrupts more) true
      (station.withInterrupts more) := ⟨⟨rfl, rfl⟩, rfl⟩
  obtain ⟨reply, ⟨log, flags⟩, sessions⟩ :=
    alike.step (Log.withInterrupts_likeness more) call
  rcases made : (station.withInterrupts more).step call with ⟨⟨⟨⟨log', flags'⟩⟩, sessions'⟩, reply'⟩
  rw [made] at reply log flags sessions
  have seen : Session.seen true = id := rfl
  simp only [seen, List.map_id] at sessions
  cases reply
  cases log
  cases flags
  cases sessions
  rfl

def enters (station : Station) (key : Handle) (call : Call) : Bool :=
  station.handle? (call.attempt key) == some key && !station.shared.gate.flags.isRaised key

end Station

theorem Flags.lower_raise {κ : Type} [DecidableEq κ] {flags : Flags κ} {key : κ}
    (lowered : flags.isRaised key = false) : (flags.raise key).lower key = flags := by
  have absent : key ∉ flags.raised := by simpa [isRaised] using lowered
  have others : flags.raised.filter (· != key) = flags.raised := by
    rw [List.filter_eq_self]
    intro other inside
    exact bne_iff_ne.mpr fun same => absent (same ▸ inside)
  simp [raise, lower, absent, others]

-- A run of which some calls are tried in vain first, each with the flag that it looks at.
abbrev Plan := List (Option Handle × Call)

namespace Plan

def calls (plan : Plan) : List Call :=
  plan.map Prod.snd

def attempts (plan : Plan) : Nat :=
  plan.countP (·.1.isSome)

def retried : Plan → List Call
  | [] => []
  | (none, call) :: plan => call :: retried plan
  | (some key, call) :: plan =>
    .handle (some key) .raise :: call.attempt key :: call :: retried plan

-- The replies to them, made of the replies to the calls alone. Only a snapshot shows the interrupts
-- that the attempts so far have added.
def replies (more : Nat) : Plan → List Reply → List Reply
  | (none, _) :: plan, reply :: others =>
    reply.retold (·.withInterrupts more) :: replies more plan others
  | (some _, call) :: plan, reply :: others =>
    .flag true :: call.refusal .interrupted :: reply.retold (·.withInterrupts (more + 1)) ::
      replies (more + 1) plan others
  | _, _ => []

end Plan

namespace Station

variable {station : Station}

def admits : Station → Plan → Bool
  | _, [] => true
  | station, (chosen, call) :: plan =>
    chosen.all (station.enters · call) && (station.step call).1.admits plan

theorem sentAway_raised (station : Station) (key : Handle) (more : Nat)
    (lowered : station.shared.gate.flags.isRaised key = false) :
    ((station.withInterrupts more).step (.handle (some key) .raise)).1.sentAway key =
      station.withInterrupts (more + 1) := by
  have flags := Flags.lower_raise lowered
  simp [step, SharedLog.handled, sentAway, SharedLog.sentAway, withInterrupts, SharedLog.adjust,
    SharedLog.log, flags, Log.withInterrupts, Log.countInterrupt, Tally.withInterrupts,
    Tally.countInterrupt, UInt64.add_assoc]

theorem run_attempt {key : Handle} {call : Call} (more : Nat)
    (enters : station.enters key call = true) (calls : List Call) :
    (station.withInterrupts more).run (.handle (some key) .raise :: call.attempt key :: calls) =
      let rest := (station.withInterrupts (more + 1)).run calls
      (rest.1, .flag true :: call.refusal .interrupted :: rest.2) := by
  obtain ⟨own, lowered⟩ := Bool.and_eq_true_iff.mp enters
  have named : ((station.withInterrupts more).step (.handle (some key) .raise)).1.handle?
      (call.attempt key) = some key := eq_of_beq own
  have raised : ((station.withInterrupts more).step
      (.handle (some key) .raise)).1.shared.gate.flags.isRaised key = true := by
    simp [step, SharedLog.handled]
  have counted := station.sentAway_raised key more (by simpa using lowered)
  simp only [run, step_sentAway named raised, counted, Call.refusal_attempt]
  rfl

theorem run_retried {plan : Plan} (more : Nat) (admits : station.admits plan = true) :
    (station.withInterrupts more).run plan.retried =
      ((station.run plan.calls).1.withInterrupts (more + plan.attempts),
        plan.replies more (station.run plan.calls).2) := by
  induction plan generalizing station more with
  | nil => rfl
  | cons choice plan ih =>
    obtain ⟨chosen, call⟩ := choice
    obtain ⟨first, others⟩ := Bool.and_eq_true_iff.mp admits
    cases chosen with
    | none =>
      simp only [Plan.retried, run, step_withInterrupts, ih more others]
      rfl
    | some key =>
      have rest := ih (more + 1) others
      simp only [Plan.retried, run_attempt more first, run, step_withInterrupts, rest]
      simp [Plan.calls, Plan.replies, Plan.attempts, run, Nat.add_assoc, Nat.add_comm 1]

-- A call that is refused leaves all as it was, and one that is interrupted all but the count of it
-- and its flag. So a call may be tried in vain before it is made.
theorem refusals_leave_no_trace (station : Station) :
    (∀ call, call.single = true →
      let after := (station.step call).1
      let reply := (station.step call).2
      (∀ fault, reply.fault? = some fault → fault ≠ .interrupted → after = station) ∧
      (reply.fault? = some .interrupted → ∃ key, station.handle? call = some key ∧
        station.shared.gate.flags.isRaised key = true ∧ after = station.sentAway key) ∧
      (reply.fault? ≠ some .interrupted → station.shared.Undisturbed after.shared) ∧
      ∀ fault buffer, reply.fault? = some fault → call.takes buffer →
        reply.into buffer = buffer) ∧
    ∀ plan, station.admits plan = true →
      (station.run plan.retried).1 = (station.run plan.calls).1.withInterrupts plan.attempts ∧
      (station.run plan.retried).2 = plan.replies 0 (station.run plan.calls).2 := by
  constructor
  · intro call single after reply
    have reception := station.step_reception single
    have made : station.step call = (after, reply) := rfl
    rw [made] at reception
    clear_value after reply
    cases reception with
    | sentAway named raised =>
      have told := call.refusal_fault? .interrupted
      refine ⟨?_, ?_, ?_, ?_⟩
      · intro fault same other
        cases told.symm.trans same
        exact absurd rfl other
      · exact fun _ => ⟨_, named, raised, rfl⟩
      · exact fun other => absurd told other
      · exact fun fault buffer _ takes => Call.refusal_into takes _
    | @refused fault free other =>
      have told := call.refusal_fault? fault
      refine ⟨fun _ _ _ => rfl, ?_, ?_, ?_⟩
      · intro same
        cases told.symm.trans same
        exact absurd rfl other
      · exact fun _ => ⟨rfl, rfl⟩
      · exact fun _ buffer _ takes => Call.refusal_into takes _
    | served free plain undisturbed =>
      have none : reply.fault? = none := plain
      rw [none]
      exact ⟨nofun, nofun, fun _ => undisturbed, nofun⟩
  · intro plan admits
    have runs := run_retried 0 admits
    rw [withInterrupts_zero, Nat.zero_add] at runs
    rw [runs]
    exact ⟨rfl, rfl⟩

theorem attempts_of_one_slot :
    let plan : Plan := [(none, .openSession), (some (.session 0), .session 0 (.write [97, 59])),
      (some (.named "extra"), .log none .snapshot), (some (.session 0), .session 0 (.seek (.start 1)))]
    let start := fresh ⟨1, 59, true, 1⟩
    let before := (start.run plan.calls).1
    let call := Call.session 0 (.seek (.start 9))
    start.admits plan = true ∧ (start.run plan.retried).1 = before.withInterrupts 3 ∧
      call.single = true ∧
      (before.step call).2.fault? = some (.invalidArgument (.outsideHeld 9 2)) ∧
      (before.step call).1 = before := by
  intro plan start before call
  have admits : start.admits plan = true := by decide +kernel
  have told : (before.step call).2.fault? = some (.invalidArgument (.outsideHeld 9 2)) := by
    decide +kernel
  obtain ⟨_, retries⟩ := start.refusals_leave_no_trace
  obtain ⟨refusals, _⟩ := before.refusals_leave_no_trace
  exact ⟨admits, (retries plan admits).1, rfl, told, (refusals call rfl).1 _ told nofun⟩

end Station

end CircularLog
