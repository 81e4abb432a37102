import CircularLog.Proofs.Likeness

namespace CircularLog

variable {β γ : Type}

namespace Log

def under (settings : Settings) (log : Log) : Log :=
  { log with settings }

variable (settings : Settings)

theorem commit_under (writer : SessionId) (log : Log) (record : Record) :
    (log.under settings).commit writer record = (log.commit writer record).under settings := by
  simp only [commit, under]
  rcases log.ring.push record with ⟨ring, _ | oldest⟩ <;> rfl

theorem commits_under (writer : SessionId) (log : Log) (records : List Record) :
    records.foldl (commit writer) (log.under settings) =
      (records.foldl (commit writer) log).under settings := by
  induction records generalizing log with
  | nil => rfl
  | cons record records ih => simp only [List.foldl_cons, commit_under, ih]

-- No operation of the log itself looks at the settings.
theorem write_under (writer : SessionId) (chunk : Bytes) (log : Log) :
    (log.under settings).write writer chunk = (log.write writer chunk).under settings := by
  have same : (log.under settings).pending = log.pending := rfl
  unfold write
  rw [same]
  rcases log.pending.append chunk with ⟨pending, _ | records⟩
  · rfl
  · have committed := commits_under settings writer
      { log with pending, contributors := if pending.isEmpty then [] else [writer] } records
    exact congrArg (fun after : Log => { after with tally := after.tally.countWrite chunk.length })
      committed

theorem read_under (cursor : UInt64) (limit : Nat) (since : Option UInt64) :
    Commutes (under settings) id fun log => log.read cursor limit since := by
  intro log
  unfold read
  dsimp only [under, held]
  split
  · rfl
  · split <;> rfl

theorem discard_under (writer : SessionId) :
    Commutes (under settings) id fun log => log.discard writer := by
  intro log
  unfold discard
  dsimp only [under]
  split <;> rfl

end Log

namespace SharedLog

def under (settings : Settings) (shared : SharedLog) : SharedLog :=
  shared.adjust (·.under settings)

variable (settings : Settings)

theorem enter_under {act : Log → Log × Except Fault β}
    (commutes : Commutes (Log.under settings) id act) (handle : Option Handle) :
    Commutes (under settings) id fun shared => shared.enter handle act := by
  intro shared
  have same : (shared.under settings).gate.flags = shared.gate.flags := rfl
  have log : (shared.under settings).log = shared.log.under settings := rfl
  dsimp only
  cases free : handle.any shared.gate.flags.isRaised with
  | false =>
    rw [enter_free free, enter_free (same ▸ free), log, commutes shared.log]
    rfl
  | true =>
    obtain ⟨key, rfl, raised⟩ := (Option.any_eq_true _ _).mp free
    rw [enter_sentAway raised, enter_sentAway (same ▸ raised)]
    rfl

theorem ask_under (question : Log → Except Fault β)
    (same : ∀ log : Log, question (log.under settings) = question log) (handle : Option Handle) :
    Commutes (under settings) id fun shared => shared.ask handle question :=
  enter_under settings (fun log => congrArg (Prod.mk (log.under settings)) (same log)) handle

theorem write_under (handle : Option Handle) (writer : SessionId) (chunk : Bytes) :
    Commutes (under settings) id fun shared => shared.write handle writer chunk := by
  intro shared
  unfold write
  split
  · rfl
  · exact enter_under settings
      (fun log => congrArg (·, _) (log.write_under settings writer chunk)) handle shared

theorem read_under (handle : Option Handle) (cursor : UInt64) (limit : Nat)
    (since : Option UInt64) :
    Commutes (under settings) id fun shared => shared.read handle cursor limit since :=
  enter_under settings (Log.read_under settings cursor limit since) handle

theorem teardown_under (handle : Option Handle) :
    Commutes (under settings) id fun shared => shared.teardown handle :=
  enter_under settings (fun _ => rfl) handle

theorem discard_under (handle : Option Handle) (writer : SessionId) :
    Commutes (under settings) id fun shared => shared.discard handle writer :=
  enter_under settings (Commutes.map (Log.discard_under settings writer) _ fun _ => rfl) handle

end SharedLog

namespace Channel

def under (settings : Settings) (channel : Channel) : Channel :=
  { channel with shared := channel.shared.under settings }

variable (settings : Settings)

theorem write_under (chunk : Bytes) :
    Commutes (under settings) id fun channel => channel.write chunk := by
  intro channel
  have written := SharedLog.write_under settings channel.session.handle channel.session.id chunk
    channel.shared
  simp only [write, under, written]
  rfl

theorem readAt_under (cursor : UInt64) (limit : Nat) :
    Commutes (under settings) id fun channel => channel.readAt cursor limit := by
  intro channel
  have fetched := SharedLog.read_under settings channel.session.handle cursor limit none
    channel.shared
  simp only [readAt, SharedLog.readOut, under, fetched]
  rfl

theorem seekTo_under (index offset : Nat) :
    Commutes (under settings) id fun channel => channel.seekTo index offset := by
  intro channel
  have located := SharedLog.ask_under settings (·.locate index offset) (fun _ => rfl)
    channel.session.handle channel.shared
  simp only [seekTo, SharedLog.locate, under, located]
  rcases channel.shared.ask channel.session.handle (·.locate index offset) with ⟨_, _ | _⟩ <;> rfl

theorem seek_under (whence : Whence) :
    Commutes (under settings) id fun channel => channel.seek whence := by
  rintro ⟨shared, session⟩
  have extent := SharedLog.ask_under settings (fun log => .ok (log.heldBytes, log.generation))
    (fun _ => rfl) session.handle shared
  change seek ⟨shared.under settings, session⟩ whence = _
  unfold seek SharedLog.extent
  dsimp only at extent ⊢
  rw [extent]
  rcases shared.ask session.handle fun log => .ok (log.heldBytes, log.generation) with
    ⟨_, _ | ⟨total, generation⟩⟩
  · rfl
  · by_cases inside : 0 ≤ whence.target session.cursor total ∧
        whence.target session.cursor total ≤ total
    · simp only [Prod.map, id, if_pos inside]
      rfl
    · simp only [Prod.map, id, if_neg inside]
      rfl

theorem release_under (handle : Option Handle) :
    Commutes (under settings) id fun channel => channel.release handle := by
  intro channel
  have discarded := SharedLog.discard_under settings handle channel.session.id channel.shared
  cases ended : channel.session.ended with
  | true => simp [release, under, ended]
  | false =>
    simp only [release, under, ended, Bool.false_eq_true, if_false, discarded]
    rcases channel.shared.discard handle channel.session.id with ⟨_, _ | _⟩ <;> rfl

theorem drop_under (channel : Channel) :
    (channel.under settings).drop = channel.drop.under settings :=
  drop_commutes (release_under settings) channel

end Channel

namespace Reply

def under (given : Settings) : Reply → Reply
  | .settings _ => .settings given
  | reply => reply

theorem under_ofResult (settings : Settings) {found : β → Reply}
    (plain : ∀ value, (found value).under settings = found value) (result : Except Fault β) :
    (Reply.ofResult found result).under settings = .ofResult found result := by
  cases result with
  | ok value => exact plain value
  | error fault => rfl

theorem under_ofStream (settings : Settings) {found : β → Reply}
    (plain : ∀ value, (found value).under settings = found value)
    (result : Except StreamFault β) :
    (Reply.ofStream found result).under settings = .ofStream found result := by
  cases result with
  | ok value => exact plain value
  | error fault => rfl

end Reply

-- The calls that are made of reads from the cursor.
def SessionCall.readsOn : SessionCall → Bool
  | .read _ | .readAll _ => true
  | _ => false

def StreamCall.readsOn : StreamCall → Bool
  | .read _ | .readExact _ | .readToEnd | .readToString => true
  | _ => false

namespace Channel

-- The calls that are not made of reads do not look at the settings, but for telling them.
theorem answer_under (settings : Settings) {call : SessionCall} (other : call.readsOn = false) :
    Commutes (under settings) (Reply.under settings) fun channel => channel.answer call := by
  cases call with
  | write chunk =>
    exact (write_under settings chunk).map _ (Reply.under_ofResult settings fun _ => rfl)
  | readAt cursor limit =>
    exact (readAt_under settings cursor limit).map _ (Reply.under_ofResult settings fun _ => rfl)
  | seekTo index offset =>
    exact (seekTo_under settings index offset).map _ (Reply.under_ofResult settings fun _ => rfl)
  | seek whence =>
    exact (seek_under settings whence).map _ (Reply.under_ofResult settings fun _ => rfl)
  | settings => exact fun _ => rfl
  | close =>
    have close := close_commutes (release_under settings) fun _ => rfl
    exact close.map _ (Reply.under_ofResult settings fun _ => rfl)
  | drop => exact fun channel => congrArg (·, Reply.done) (drop_under settings channel)
  | _ => cases other

theorem stream_under {settings : Settings} {act : Channel → Channel × Except Fault β}
    (commutes : Commutes (under settings) id act)
    (tell : Except Fault β → Except StreamFault γ) (found : γ → Reply)
    (plain : ∀ value, (found value).under settings = found value) :
    Commutes (under settings) (Reply.under settings) fun channel =>
      (act channel).map id fun result => .ofStream found (tell result) :=
  commutes.map _ fun _ => Reply.under_ofStream settings plain _

theorem answerStream_under (settings : Settings) {call : StreamCall}
    (other : call.readsOn = false) :
    Commutes (under settings) (Reply.under settings) fun channel => channel.answerStream call := by
  cases call with
  | write chunk =>
    exact stream_under (write_under settings chunk) (·.mapError .log) .count fun _ => rfl
  | writeAll chunk =>
    exact stream_under (persist_commutes (write_under settings chunk))
      (fun result => (result.mapError .log).map fun _ => ()) (fun _ => .done) fun _ => rfl
  | flush => exact fun _ => rfl
  | seek whence =>
    exact stream_under (seek_under settings whence) (·.mapError .log) .cursor fun _ => rfl
  | rewind =>
    exact stream_under (seek_under settings (.start 0))
      (fun result => (result.mapError .log).map fun _ => ()) (fun _ => .done) fun _ => rfl
  | position =>
    exact stream_under (seek_under settings (.current 0)) (·.mapError .log) .cursor fun _ => rfl
  | _ => cases other

end Channel

namespace SharedLog

variable (settings : Settings)

theorem answer_under (handle : Option Handle) (call : LogCall) :
    Commutes (under settings) (Reply.under settings) fun shared => shared.answer handle call := by
  cases call with
  | write writer chunk =>
    exact (write_under settings handle writer chunk).map _
      (Reply.under_ofResult settings fun _ => rfl)
  | discard writer =>
    exact (discard_under settings handle writer).map _ (Reply.under_ofResult settings fun _ => rfl)
  | readInto cursor buffer since =>
    intro shared
    have fetched := read_under settings handle cursor buffer.length since shared
    dsimp only at fetched
    simp only [answer, readInto, fetched]
    rcases shared.read handle cursor buffer.length since with ⟨after, _ | found⟩ <;> rfl
  | readOut cursor limit =>
    exact (read_under settings handle cursor limit none).map _
      (Reply.under_ofResult settings fun _ => rfl)
  | locate index offset =>
    exact (ask_under settings (·.locate index offset) (fun _ => rfl) handle).map _
      (Reply.under_ofResult settings fun _ => rfl)
  | extent =>
    exact (ask_under settings (fun log => .ok (log.heldBytes, log.generation)) (fun _ => rfl)
      handle).map _ (Reply.under_ofResult settings fun _ => rfl)
  | held =>
    exact (ask_under settings (fun log => .ok log.held) (fun _ => rfl) handle).map _
      (Reply.under_ofResult settings fun _ => rfl)
  | snapshot =>
    exact (ask_under settings (fun log => .ok log.snapshot) (fun _ => rfl) handle).map _
      (Reply.under_ofResult settings fun _ => rfl)
  | teardown =>
    exact (teardown_under settings handle).map _ (Reply.under_ofResult settings fun _ => rfl)
  | settings => exact fun _ => rfl

theorem handled_under (handle : Option Handle) (call : HandleCall) :
    Commutes (under settings) (Reply.under settings) fun shared => shared.handled handle call := by
  cases call <;> exact fun _ => rfl

theorem burstOnce_under (times : Nat) (chunk : Bytes) (shared : SharedLog) :
    (shared.under settings).burstOnce times chunk =
      (shared.burstOnce times chunk).under settings := by
  have writes : Nat.repeat (fun channel : Channel => (channel.write chunk).1) times
        (Channel.ofShared (shared.under settings) none) =
      (Nat.repeat (fun channel : Channel => (channel.write chunk).1) times
        (Channel.ofShared shared none)).under settings := by
    induction times with
    | zero => rfl
    | succ times ih =>
      refine (congrArg (fun channel : Channel => (channel.write chunk).1) ih).trans ?_
      exact congrArg Prod.fst (Channel.write_under settings chunk _)
  unfold burstOnce
  dsimp only
  rw [writes, Channel.drop_under]
  rfl

theorem burst_under (writers times : Nat) (chunk : Bytes) (shared : SharedLog) :
    (shared.under settings).burst writers times chunk =
      (shared.burst writers times chunk).under settings := by
  unfold burst
  induction writers with
  | zero => rfl
  | succ writers ih =>
    exact (congrArg (burstOnce times chunk) ih).trans (burstOnce_under settings times chunk _)

end SharedLog

end CircularLog
