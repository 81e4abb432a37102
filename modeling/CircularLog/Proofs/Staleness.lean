import CircularLog.Proofs.Annals
import CircularLog.Proofs.Calm

namespace CircularLog

def Deed.positions : Deed → Bool
  | .opened _ | .positioned _ => true
  | _ => false

-- What a session has read since it was last positioned: where that was in all that was ever
-- committed, after how many releases, and the bytes.
structure Reader where
  start : Nat := 0
  releases : Nat := 0
  got : Bytes := []
  deriving DecidableEq, Repr

namespace Reader

def follow (reader : Reader) (annals : Annals) : Deed → Reader
  | .opened _ => ⟨annals.gone, annals.releases, []⟩
  | .positioned cursor => ⟨annals.gone + cursor.toNat, annals.releases, []⟩
  | .read data => { reader with got := reader.got ++ data }
  | _ => reader

def inTime (reader : Reader) (annals : Annals) : Prop :=
  reader.releases = annals.releases

-- The cursor is trusted until the next release.
structure Tracks (reader : Reader) (annals : Annals) (log : Log) (session : Session) : Prop where
  generation : session.generation = UInt64.ofNat reader.releases
  past : reader.releases ≤ annals.releases
  got : reader.got <+: (joined annals.committed).drop reader.start
  cursor : reader.inTime annals →
    annals.gone + session.cursor.toNat = reader.start + reader.got.length ∧
      session.cursor.toNat ≤ log.heldBytes

variable {reader : Reader} {annals : Annals} {log after : Log} {session moved : Session}
  {deed : Deed}

theorem inTime.stays (still : reader.inTime (annals.follow deed))
    (past : reader.releases ≤ annals.releases) :
    (annals.follow deed).releases = annals.releases := by
  have later := (annals.follow_more deed).2.1
  unfold inTime at still
  omega

theorem Tracks.other (tracks : reader.Tracks annals log session) (keeps : log.Keeps annals)
    (kept : after.Keeps (annals.follow deed)) :
    reader.Tracks (annals.follow deed) after session := by
  obtain ⟨⟨more, longer⟩, later, _⟩ := annals.follow_more deed
  refine ⟨tracks.generation, Nat.le_trans tracks.past later, ?_, ?_⟩
  · rw [← longer, joined_append, List.drop_append]
    exact tracks.got.trans (List.prefix_append _ _)
  · intro still
    have stays := still.stays tracks.past
    obtain ⟨place, inside⟩ := tracks.cursor (still.trans stays)
    obtain ⟨gone, grown⟩ := keeps.grown kept stays
    exact ⟨gone ▸ place, inside.trans grown⟩

theorem ofNat_inj {left right : Nat} (small : left < 2 ^ 64) (little : right < 2 ^ 64)
    (same : UInt64.ofNat left = UInt64.ofNat right) : left = right := by
  have words := congrArg UInt64.toNat same
  rwa [UInt64.toNat_ofNat_of_lt' small, UInt64.toNat_ofNat_of_lt' little] at words

theorem Tracks.start {place : Nat} (session : Session) (keeps : log.Keeps annals)
    (small : place < 2 ^ 64) (inside : place ≤ log.heldBytes) :
    Tracks ⟨annals.gone + (UInt64.ofNat place).toNat, annals.releases, []⟩ annals log
      { session with cursor := UInt64.ofNat place, generation := log.generation } := by
  refine ⟨keeps.generation, Nat.le_refl _, List.nil_prefix, fun _ => ⟨rfl, ?_⟩⟩
  rwa [UInt64.toNat_ofNat_of_lt' small]

theorem Tracks.read {limit : Nat} {data : Bytes} {next : UInt64}
    (tracks : reader.Tracks annals log session) (keeps : log.Keeps annals)
    (few : annals.releases < 2 ^ 64) (fits : log.heldBytes < 2 ^ 64)
    (found : (log.read session.cursor limit (some session.generation)).2 = .ok (data, next)) :
    Tracks { reader with got := reader.got ++ data } annals log
      { session with cursor := next } := by
  obtain ⟨named, part, rfl⟩ := Log.read_found found
  have current := (tracks.generation.symm.trans (named _ rfl)).trans keeps.generation
  have inTime : reader.inTime annals :=
    ofNat_inj (Nat.lt_of_le_of_lt tracks.past few) few current
  obtain ⟨place, inside⟩ := tracks.cursor inTime
  have short : data.length ≤ log.heldBytes - session.cursor.toNat := by
    have length := part.length_le
    rwa [List.length_drop, length_joined] at length
  have moved : (session.cursor + UInt64.ofNat data.length).toNat =
      session.cursor.toNat + data.length := by
    have small : data.length < 2 ^ 64 := by omega
    rw [UInt64.toNat_add, UInt64.toNat_ofNat_of_lt' small, Nat.mod_eq_of_lt (by omega)]
  refine ⟨tracks.generation, tracks.past, ?_, ?_⟩
  · obtain ⟨rest, whole⟩ := tracks.got
    have onward : rest = (joined annals.committed).drop (annals.gone + session.cursor.toNat) := by
      rw [place, ← List.drop_drop, ← whole, List.drop_left]
    rw [← whole, List.prefix_append_right_inj, onward, ← List.drop_drop, ← keeps.bytes]
    exact part
  · intro _
    rw [moved, List.length_append, ← Nat.add_assoc, ← Nat.add_assoc, place]
    exact ⟨rfl, by omega⟩

theorem Tracks.visit (tracks : reader.Tracks annals log session) (keeps : log.Keeps annals)
    (sound : log.Sound) (detects : log.settings.detectStale = true)
    (few : annals.releases < 2 ^ 64) (fits : deed.keepsCursors = false → log.heldBytes < 2 ^ 64)
    (visit : Visit log session deed after moved) :
    (reader.follow annals deed).Tracks (annals.follow deed) after moved := by
  have kept := visit.pass.keeps sound keeps
  cases visit with
  | aside pass leaves =>
    have same : reader.follow annals deed = reader := by
      cases deed <;> first | rfl | cases leaves
    rw [same]
    exact tracks.other keeps kept
  | read found =>
    have named : session.since log = some session.generation := if_pos detects
    rw [named] at found kept ⊢
    exact (tracks.read keeps few (fits rfl) found).other keeps kept
  | positioned inside =>
    have start := Tracks.start session keeps (Nat.lt_of_le_of_lt inside (fits rfl)) inside
    exact start.other keeps kept
  | sought found =>
    have inside := Position.cursorOf_found found
    have start := Tracks.start session keeps (inside.trans (fits rfl)) (Nat.le_of_lt inside)
    exact start.other keeps kept
  | ended =>
    obtain ⟨generation, past, got, cursor⟩ := tracks.other keeps kept
    exact ⟨generation, past, got, cursor⟩

def Follows (reader : Reader) (annals : Annals) (log : Log) : Option Session → Prop
  | none => reader = {}
  | some session => reader.Tracks annals log session

theorem Follows.other {session? : Option Session} (follows : reader.Follows annals log session?)
    (keeps : log.Keeps annals) (kept : after.Keeps (annals.follow deed)) :
    reader.Follows (annals.follow deed) after session? := by
  cases session? with
  | none => exact follows
  | some session => exact Tracks.other follows keeps kept

theorem Follows.got {session? : Option Session} (follows : reader.Follows annals log session?) :
    reader.got <+: (joined annals.committed).drop reader.start := by
  cases session? with
  | none =>
    obtain rfl : reader = {} := follows
    exact List.nil_prefix
  | some session => exact Tracks.got follows

end Reader

-- What is known of one session and of the log it is open on.
structure Trace where
  annals : Annals := {}
  reader : Reader := {}
  deriving DecidableEq, Repr

def Trace.follow (number : Nat) (trace : Trace) (entry : Entry) : Trace where
  annals := trace.annals.follow entry.2
  reader :=
    if entry.1 = some number then trace.reader.follow trace.annals entry.2 else trace.reader

-- A session that nobody puts anywhere remembers when it was put where it is.
theorem Trace.follow_unmoved {number : Nat} {trace : Trace} {entries : List Entry}
    (unmoved : entries.all (fun entry => entry.1 != some number || !entry.2.positions) = true) :
    (entries.foldl (follow number) trace).reader.releases = trace.reader.releases := by
  induction entries generalizing trace with
  | nil => rfl
  | cons entry entries ih =>
    obtain ⟨first, others⟩ := Bool.and_eq_true_iff.mp unmoved
    refine (ih others).trans ?_
    obtain ⟨who, deed⟩ := entry
    unfold follow
    dsimp only at first ⊢
    split
    · rename_i same
      cases deed <;> first | rfl | simp [same, Deed.positions] at first
    · rfl

theorem Trace.releases_le (number : Nat) (trace : Trace) (entries : List Entry) :
    trace.annals.releases ≤ (entries.foldl (follow number) trace).annals.releases := by
  induction entries generalizing trace with
  | nil => exact Nat.le_refl _
  | cons entry entries ih =>
    have more := (trace.annals.follow_more entry.2).2.1
    exact more.trans (ih (trace.follow number entry))

namespace Scene

variable {scene after : Scene} {number : Nat} {trace : Trace} {entry : Entry} {entries : List Entry}

structure Traced (scene : Scene) (number : Nat) (trace : Trace) : Prop where
  sound : scene.log.Sound
  detects : scene.log.settings.detectStale = true
  keeps : scene.log.Keeps trace.annals
  reader : trace.reader.Follows trace.annals scene.log scene.sessions[number]?

theorem Pass.traced (pass : Pass scene entry after) (traced : scene.Traced number trace)
    (few : trace.annals.releases < 2 ^ 64)
    (fits : entry.2.keepsCursors = false → scene.log.heldBytes < 2 ^ 64) :
    after.Traced number (trace.follow number entry) := by
  obtain ⟨sound, detects, keeps, reader⟩ := traced
  have kept := pass.log_pass.keeps sound keeps
  have others := reader.other keeps kept
  refine ⟨pass.log_pass.sound sound, pass.log_pass.settings ▸ detects, kept, ?_⟩
  unfold Trace.follow
  cases pass.sight number with
  | opened own absent there =>
    subst own
    have zero : 0 < 2 ^ 64 := by decide
    rw [if_pos rfl, there]
    exact Reader.Tracks.other (Reader.Tracks.start ⟨scene.log.admitSession.2,
      some (.session number), 0, scene.log.generation, false⟩ keeps zero (Nat.zero_le _)) keeps kept
  | visited own present live visit there =>
    rw [present] at reader
    rw [if_pos own, there]
    exact Reader.Tracks.visit reader keeps sound detects few fits visit
  | elsewhere other same =>
    rw [if_neg other, same]
    exact others

theorem Passes.traced (passes : Passes scene entries after) (traced : scene.Traced number trace)
    (few : (entries.foldl (Trace.follow number) trace).annals.releases < 2 ^ 64)
    (fits : scene.log.heldBytes < 2 ^ 64) (calm : Calm entries) :
    after.Traced number (entries.foldl (Trace.follow number) trace) := by
  -- The bound is one on the first scene. It lasts as long as the records do, and where they change it
  -- is not asked for.
  rcases calm with keeps | rests
  · induction passes generalizing trace with
    | nil => exact traced
    | @cons scene middle after entry entries pass _ ih =>
      have fewer := Nat.lt_of_le_of_lt (trace.releases_le number (entry :: entries)) few
      obtain ⟨kept, keeps⟩ := Bool.and_eq_true_iff.mp keeps
      have same := pass.log_pass.heldBytes_kept kept
      exact ih (pass.traced traced fewer fun _ => fits) few (same ▸ fits) keeps
  · clear fits
    induction passes generalizing trace with
    | nil => exact traced
    | @cons scene middle after entry entries pass _ ih =>
      have fewer := Nat.lt_of_le_of_lt (trace.releases_le number (entry :: entries)) few
      obtain ⟨rest, rests⟩ := Bool.and_eq_true_iff.mp rests
      exact ih (pass.traced traced fewer fun moves => nomatch rest.symm.trans moves) few rests

end Scene

namespace Station

variable {station : Station} {number : Nat} {trace : Trace}

theorem run_traced {calls : List Call} (traced : station.scene.Traced number trace)
    (few : ((station.history calls).foldl (Trace.follow number) trace).annals.releases < 2 ^ 64)
    (fits : ∀ count, (station.run (calls.take count)).1.shared.log.heldBytes < 2 ^ 64) :
    (station.run calls).1.scene.Traced number
      ((station.history calls).foldl (Trace.follow number) trace) := by
  induction calls generalizing station trace with
  | nil => exact traced
  | cons call calls ih =>
    unfold history at few ⊢
    rw [List.foldl_append] at few ⊢
    have fewer := Nat.lt_of_le_of_lt (Trace.releases_le number _ _) few
    have made := (step_passes station call).traced traced fewer (fits 0) (deeds_calm station call)
    exact ih made few fun count => fits (count + 1)

def traceOf (station : Station) (number : Nat) (calls : List Call) : Trace :=
  (station.history calls).foldl (Trace.follow number) {}

theorem traceOf_append (station : Station) (number : Nat) (calls more : List Call) :
    station.traceOf number (calls ++ more) =
      ((station.run calls).1.history more).foldl (Trace.follow number)
        (station.traceOf number calls) := by
  unfold traceOf
  rw [history_append, List.foldl_append]

end Station

namespace Channel

variable {channel : Channel}

theorem read_free (free : channel.session.handle.any channel.shared.gate.flags.isRaised = false)
    (limit : Nat) :
    (channel.read limit).2 = (channel.shared.log.read channel.session.cursor limit
      channel.since).2.map Prod.fst := by
  unfold Channel.read SharedLog.read
  rw [SharedLog.enter_free free]
  rcases (channel.shared.log.read channel.session.cursor limit channel.since).2 with
    fault | ⟨data, next⟩
  · rfl
  · rfl

end Channel

theorem Reply.ofResult_fault {β : Type} {found : β → Reply} {result : Except Fault β}
    {fault : Fault} (told : Reply.ofResult found result = .fault fault)
    (never : ∀ value, found value ≠ .fault fault) : result = .error fault := by
  cases result with
  | error problem =>
    cases told
    rfl
  | ok value => exact absurd told (never value)

def SessionCall.namesPlace : SessionCall → Bool
  | .readAt _ _ | .seekTo _ _ | .seek _ => true
  | _ => false

namespace Channel

variable {channel : Channel} {fault : Fault}

theorem readAt_fault {cursor : UInt64} {limit : Nat}
    (failed : (channel.readAt cursor limit).2 = .error fault) : fault = .interrupted := by
  rcases made : channel.shared.readOut channel.session.handle cursor limit with ⟨after, result⟩
  have same : (channel.readAt cursor limit).2 = result := by
    unfold readAt
    rw [made]
  rcases SharedLog.enter_cases made with ⟨_, found⟩ | ⟨_, found⟩
  · rw [same, found] at failed
    cases failed
    rfl
  · rw [same, found] at failed
    obtain ⟨_, _, named, _⟩ := Log.read_fault failed
    cases named

theorem seekTo_fault {index offset : Nat}
    (failed : (channel.seekTo index offset).2 = .error fault) :
    fault = .interrupted ∨ ∃ cause, fault = .invalidArgument cause := by
  unfold seekTo at failed
  rcases made : channel.shared.locate channel.session.handle index offset with ⟨_, fault | found⟩
  · rw [made] at failed
    cases failed
    rcases SharedLog.enter_cases made with ⟨_, result⟩ | ⟨_, result⟩
    · cases result
      exact .inl rfl
    · exact .inr (Log.locate_fault result.symm)
  · rw [made] at failed
    cases failed

theorem seek_fault {whence : Whence} (failed : (channel.seek whence).2 = .error fault) :
    fault = .interrupted ∨ ∃ cause, fault = .invalidArgument cause := by
  unfold seek at failed
  rcases made : channel.shared.extent channel.session.handle with ⟨_, fault | found⟩
  · rw [made] at failed
    cases failed
    rcases SharedLog.enter_cases made with ⟨_, result⟩ | ⟨_, result⟩
    · cases result
      exact .inl rfl
    · cases result
  · rw [made] at failed
    dsimp only at failed
    split at failed
    · cases failed
    · cases failed
      exact .inr ⟨_, rfl⟩

theorem named_place_not_stale {call : SessionCall} (names : call.namesPlace = true)
    (old new : UInt64) : (channel.answer call).2 ≠ .fault (.staleCursor old new) := by
  intro told
  cases call with
  | readAt cursor limit =>
    have failed := Reply.ofResult_fault told nofun
    cases readAt_fault failed
  | seekTo index offset =>
    have failed := Reply.ofResult_fault told nofun
    rcases seekTo_fault failed with other | ⟨_, other⟩
    · cases other
    · cases other
  | seek whence =>
    have failed := Reply.ofResult_fault told nofun
    rcases seek_fault failed with other | ⟨_, other⟩
    · cases other
    · cases other
  | _ => cases names

end Channel

namespace Station

variable {station : Station} {number : Nat} {trace : Trace} {session : Session}

theorem read_told (traced : station.scene.Traced number trace)
    (few : trace.annals.releases < 2 ^ 64) (present : station.session? number = some session)
    (free : session.handle.any station.shared.gate.flags.isRaised = false) (limit : Nat) :
    let result := (Channel.read ⟨station.shared, session⟩ limit).2
    (trace.reader.releases < trace.annals.releases ∧
        ∃ old new, result = .error (.staleCursor old new) ∧ old < new) ∨
      (trace.reader.releases = trace.annals.releases ∧ ∃ data, result = .ok data) := by
  intro result
  obtain ⟨_, detects, keeps, reader⟩ := traced
  have held : station.scene.sessions[number]? = some session := (session?_some present).1
  rw [held] at reader
  have named : Channel.since ⟨station.shared, session⟩ = some session.generation := if_pos detects
  have told : result = (station.scene.log.read session.cursor limit
      (Channel.since ⟨station.shared, session⟩)).2.map Prod.fst := Channel.read_free free limit
  rw [named] at told
  obtain ⟨behind, inTime⟩ :=
    station.scene.log.read_since session.cursor limit session.generation
  -- Generations are words, but no two releases were given the same one.
  have small := Nat.lt_of_le_of_lt reader.past few
  rcases Nat.lt_or_eq_of_le reader.past with less | same
  · have other : session.generation ≠ station.scene.log.generation := by
      rw [reader.generation, keeps.generation]
      intro same
      exact Nat.ne_of_lt less (Reader.ofNat_inj small few same)
    rw [behind other] at told
    refine .inl ⟨less, _, _, told, ?_⟩
    rw [reader.generation, keeps.generation, UInt64.lt_iff_toNat_lt,
      UInt64.toNat_ofNat_of_lt' small, UInt64.toNat_ofNat_of_lt' few]
    exact less
  · have current : session.generation = station.scene.log.generation := by
      rw [reader.generation, keeps.generation, same]
    obtain ⟨found, read⟩ := inTime current
    rw [read] at told
    exact .inr ⟨same, found.1, told⟩

theorem read_got (present : station.session? number = some session) {limit : Nat} {data : Bytes}
    (found : (Channel.read ⟨station.shared, session⟩ limit).2 = .ok data) :
    ((station.history [.session number (.read limit)]).foldl (Trace.follow number) trace).reader.got =
      trace.reader.got ++ data := by
  have deeds : station.deeds (.session number (.read limit)) = [(some number, .read data)] := by
    have visited := visitDeeds_some present (·.readDeeds limit)
    simp only [Channel.readDeeds, found] at visited
    exact visited
  unfold history history
  rw [deeds, List.append_nil, List.foldl_cons, List.foldl_nil, Trace.follow, if_pos rfl]
  rfl

theorem read_replied (traced : station.scene.Traced number trace)
    (few : trace.annals.releases < 2 ^ 64) (present : station.session? number = some session)
    (free : session.handle.any station.shared.gate.flags.isRaised = false) (limit : Nat) :
    let call := Call.session number (.read limit)
    let reply := (station.step call).2
    ((∃ old new, reply = .fault (.staleCursor old new)) ↔
        trace.reader.releases < trace.annals.releases) ∧
      (∀ old new, reply = .fault (.staleCursor old new) → old < new) ∧
      ∀ data, reply = .bytes data →
        ((station.history [call]).foldl (Trace.follow number) trace).reader.got =
          trace.reader.got ++ data := by
  intro call reply
  have replied : reply = .ofResult .bytes (Channel.read ⟨station.shared, session⟩ limit).2 :=
    congrArg Prod.snd (visit_some present (·.answer (.read limit)))
  rcases read_told traced few present free limit with
    ⟨less, old, new, told, ordered⟩ | ⟨same, data, told⟩
  · rw [told] at replied
    refine ⟨⟨fun _ => less, fun _ => ⟨old, new, replied⟩⟩, ?_, ?_⟩
    · intro _ _ stale
      cases replied.symm.trans stale
      exact ordered
    · intro _ brought
      cases replied.symm.trans brought
  · rw [told] at replied
    refine ⟨⟨?_, fun less => absurd same (Nat.ne_of_lt less)⟩, ?_, ?_⟩
    · rintro ⟨_, _, stale⟩
      cases replied.symm.trans stale
    · intro _ _ stale
      cases replied.symm.trans stale
    · intro _ brought
      cases replied.symm.trans brought
      exact read_got present told

theorem named_place_replied (station : Station) (number : Nat) {call : SessionCall}
    (names : call.namesPlace = true) (old new : UInt64) :
    (station.step (.session number call)).2 ≠ .fault (.staleCursor old new) := by
  intro told
  cases present : station.session? number with
  | none =>
    have absent := congrArg Prod.snd (visit_none present (·.answer call))
    cases absent.symm.trans told
  | some session =>
    have reply := congrArg Prod.snd (visit_some present (·.answer call))
    exact Channel.named_place_not_stale names old new (reply.symm.trans told)

-- A session reads consecutive bytes until records are released, and from then on it is told that it
-- was left behind. What is held lies in memory, so that a 64-bit cursor can name each byte of it.
theorem reads_are_consecutive {settings : Settings} (valid : settings.check = .ok ())
    (detects : settings.detectStale = true) :
    ∃ start, create settings = .ok start ∧ ∀ calls number,
      (∀ count, (start.run (calls.take count)).1.shared.log.heldBytes < 2 ^ 64) →
      (start.traceOf number calls).annals.releases < 2 ^ 64 →
        let after := (start.run calls).1
        let trace := start.traceOf number calls
        let bytes := joined trace.annals.committed
        joined after.shared.log.held = bytes.drop trace.annals.gone ∧
        trace.reader.got = (bytes.drop trace.reader.start).take trace.reader.got.length ∧
        (∀ session limit, after.session? number = some session →
          session.handle.any after.shared.gate.flags.isRaised = false →
            let call := Call.session number (.read limit)
            let reply := (after.step call).2
            ((∃ old new, reply = .fault (.staleCursor old new)) ↔
              trace.reader.releases < trace.annals.releases) ∧
            (∀ old new, reply = .fault (.staleCursor old new) → old < new) ∧
            ∀ data, reply = .bytes data →
              (start.traceOf number (calls ++ [call])).reader.got = trace.reader.got ++ data) ∧
        (∀ more, (after.history more).all
            (fun entry => entry.1 != some number || !entry.2.positions) = true →
          trace.reader.releases < trace.annals.releases →
            let later := start.traceOf number (calls ++ more)
            later.reader.releases < later.annals.releases) ∧
        ∀ call old new, call.namesPlace = true →
          (after.step (.session number call)).2 ≠ .fault (.staleCursor old new) := by
  refine ⟨_, create_eq valid, ?_⟩
  intro calls number fits few
  obtain ⟨sound, empty⟩ := Log.fresh_sound valid
  have begins : (fresh settings).scene.Traced number {} := ⟨sound, detects, ⟨empty, rfl⟩, rfl⟩
  have traced := run_traced begins few fits
  refine ⟨traced.keeps.bytes, List.prefix_iff_eq_take.mp traced.reader.got, ?_, ?_, ?_⟩
  · intro session limit present free
    simp only [traceOf_append]
    exact read_replied traced few present free limit
  · intro more unmoved behind
    dsimp only
    rw [traceOf_append, Trace.follow_unmoved unmoved]
    exact behind.trans_le (Trace.releases_le number _ _)
  · intro call old new names
    exact named_place_replied _ number names old new

-- One slot: the second record releases the first, and a reader of the first is left behind.
theorem reader_of_one_slot :
    let settings : Settings := ⟨1, 59, true, 1⟩
    let calls : List Call := [.openSession, .openSession, .session 1 (.write [97, 59]),
      .session 0 (.read 1), .session 1 (.write [98, 59])]
    settings.check = .ok () ∧ settings.detectStale = true ∧
      ∃ start, create settings = .ok start ∧
        (∀ count, (start.run (calls.take count)).1.shared.log.heldBytes < 2 ^ 64) ∧
        (start.traceOf 0 calls).annals.releases < 2 ^ 64 ∧
        (start.traceOf 0 calls).reader.got = [97] ∧
        ∃ old new, ((start.run calls).1.step (.session 0 (.read 0))).2 =
          .fault (.staleCursor old new) := by
  intro settings calls
  have valid : settings.check = .ok () := rfl
  obtain ⟨start, created, consecutive⟩ := reads_are_consecutive valid rfl
  have same : start = fresh settings :=
    Except.ok.inj (created.symm.trans (create_eq valid))
  have fits : ∀ count, (start.run (calls.take count)).1.shared.log.heldBytes < 2 ^ 64 := by
    have upTo : ∀ count ≤ 5, (start.run (calls.take count)).1.shared.log.heldBytes < 2 ^ 64 := by
      rw [same]
      decide +kernel
    intro count
    rw [List.take_eq_take_min]
    exact upTo _ (Nat.min_le_right _ _)
  have few : (start.traceOf 0 calls).annals.releases < 2 ^ 64 := by
    rw [same]
    decide +kernel
  have got : (start.traceOf 0 calls).reader.got = [97] := by
    rw [same]
    decide +kernel
  have behind :
      (start.traceOf 0 calls).reader.releases < (start.traceOf 0 calls).annals.releases := by
    rw [same]
    decide +kernel
  have present : (start.run calls).1.session? 0 = some ⟨⟨1⟩, some (.session 0), 1, 0, false⟩ := by
    rw [same]
    decide +kernel
  have free :
      (some (Handle.session 0)).any (start.run calls).1.shared.gate.flags.isRaised = false := by
    rw [same]
    decide +kernel
  obtain ⟨_, _, told, _⟩ := consecutive calls 0 fits few
  obtain ⟨stale, _⟩ := told _ 0 present free
  exact ⟨valid, rfl, start, created, fits, few, got, stale.mpr behind⟩

end Station

end CircularLog
