import CircularLog.Proofs.Chunking
import Mathlib.Data.List.Nodup

namespace CircularLog

theorem Pending.isEmpty_eq (pending : Pending) : pending.isEmpty = pending.bytes.isEmpty := by
  rw [isEmpty, bytes, List.isEmpty_reverse]

theorem mem_writers {chunk : Bytes} (filled : chunk ≠ []) {id other : SessionId} :
    other ∈ (chunk.map (Prod.mk id)).map Prod.fst ↔ other = id := by
  obtain ⟨byte, inside⟩ := List.exists_mem_of_ne_nil chunk filled
  rw [List.map_map, List.mem_map]
  constructor
  · rintro ⟨_, _, same⟩
    exact same.symm
  · intro same
    exact ⟨byte, inside, same.symm⟩

theorem Reading.follow_chunk {pending : Pending} {reading : Reading (SessionId × UInt8)}
    (same : pending.bytes = reading.tail.map Prod.snd) (id : SessionId) (chunk : Bytes) :
    let read := ((chunk.map (Prod.mk id)).map Token.item).foldl
      (follow (·.2 == pending.terminator)) reading
    let committed := (pending.append chunk).2.records
    read.tail.map Prod.snd = (pending.append chunk).1.bytes ∧
      ((committed = [] ∧ read.tail = reading.tail ++ chunk.map (Prod.mk id)) ∨
        (committed ≠ [] ∧ ∀ writer ∈ read.tail.map Prod.fst, writer = id)) := by
  intro read committed
  have bytes : ((chunk.map (Prod.mk id)).map Token.item).map (Token.map Prod.snd) =
      chunk.map Token.item := by
    simp [Token.map, Function.comp_def]
  -- With the writers left out it is the reading of plain bytes, which takes a chunk at once.
  have erased := foldl_map (· == pending.terminator) Prod.snd
    ((chunk.map (Prod.mk id)).map Token.item) reading
  have begins : pending.bytes = (reading.map Prod.snd).tail := same
  rw [bytes, follow_append begins] at erased
  have count : read.records.length = reading.records.length + committed.length := by
    have lengths := congrArg (fun reading => reading.records.length) erased
    simp only [map, List.length_append, List.length_map] at lengths
    exact lengths.symm
  refine ⟨(congrArg Reading.tail erased).symm, ?_⟩
  rcases follow_items (·.2 == pending.terminator) (chunk.map (Prod.mk id)) reading with
    ⟨none, joined⟩ | ⟨more, rest⟩
  · refine .inl ⟨List.eq_nil_of_length_eq_zero ?_, joined⟩
    exact Nat.add_eq_left.mp (count.symm.trans none)
  · refine .inr ⟨?_, ?_⟩
    · intro empty
      rw [empty] at count
      exact Nat.ne_of_gt more count
    · intro writer inside
      obtain ⟨item, held, rfl⟩ := List.mem_map.mp inside
      obtain ⟨byte, _, rfl⟩ := List.mem_map.mp (rest.subset held)
      rfl

namespace Log

variable {log after : Log} {deed : Deed} {reading : Reading (SessionId × UInt8)}

structure Owned (log : Log) (reading : Reading (SessionId × UInt8)) : Prop where
  bytes : log.pending.bytes = reading.tail.map Prod.snd
  unique : log.contributors.Nodup
  owners : ∀ id, id ∈ log.contributors ↔ id ∈ reading.tail.map Prod.fst

theorem Owned.none_iff (owned : log.Owned reading) :
    log.contributors = [] ↔ log.pending.bytes = [] := by
  rw [owned.bytes, List.map_eq_nil_iff]
  constructor
  · intro none
    have nobody := owned.owners
    rw [none] at nobody
    exact List.map_eq_nil_iff.mp (List.eq_nil_iff_forall_not_mem.mpr fun id inside =>
      List.not_mem_nil ((nobody id).mpr inside))
  · intro none
    apply List.eq_nil_iff_forall_not_mem.mpr
    intro id inside
    have owner := (owned.owners id).mp inside
    rw [none] at owner
    exact List.not_mem_nil owner

theorem Owned.size_positive (owned : log.Owned reading) {id : SessionId}
    (contributor : id ∈ log.contributors) : 0 < log.pending.size := by
  rw [Pending.size, List.length_pos_iff]
  intro none
  have empty : log.pending.bytes = [] := by rw [Pending.bytes, none, List.reverse_nil]
  rw [owned.none_iff.mpr empty] at contributor
  exact List.not_mem_nil contributor

theorem Still.owned (same : Still log after) (owned : log.Owned reading) : after.Owned reading :=
  ⟨same.pending ▸ owned.bytes, same.contributors ▸ owned.unique, same.contributors ▸ owned.owners⟩

theorem write_owned (sound : log.Sound) (owned : log.Owned reading) (id : SessionId) {chunk : Bytes}
    (filled : chunk ≠ []) :
    (log.write id chunk).Owned (((chunk.map (Prod.mk id)).map Token.item).foldl
      (Reading.follow (·.2 == log.settings.terminator)) reading) := by
  obtain ⟨journal, written⟩ := write_eq log id chunk
  obtain ⟨tail, owners⟩ := Reading.follow_chunk owned.bytes id chunk
  rw [sound.terminator] at tail owners
  generalize ((chunk.map (Prod.mk id)).map Token.item).foldl
    (Reading.follow (·.2 == log.settings.terminator)) reading = read at *
  dsimp only at written tail owners
  generalize (log.pending.append chunk).1 = pending at *
  generalize (log.pending.append chunk).2.records = committed at *
  -- A write that completes nothing adds an owner; any other leaves its session as the only one, or
  -- nobody where it leaves nothing behind its last terminator.
  rcases owners with ⟨rfl, joined⟩ | ⟨some, mine⟩
  · rw [List.isEmpty_nil, if_pos rfl] at written
    rw [written]
    refine ⟨tail.symm, List.Nodup.insert owned.unique, ?_⟩
    intro other
    rw [List.mem_insert_iff, owned.owners, joined, List.map_append, List.mem_append,
      mem_writers filled, or_comm]
  · rw [List.isEmpty_eq_false_iff.mpr some, if_neg Bool.false_ne_true, Pending.isEmpty_eq, ← tail,
      List.isEmpty_map] at written
    rw [written]
    cases left : read.tail with
    | nil =>
      refine ⟨tail.symm, List.nodup_nil, ?_⟩
      intro other
      rw [left]
      exact Iff.rfl
    | cons item items =>
      rw [left] at mine
      have first : item.1 = id := mine item.1 List.mem_cons_self
      refine ⟨tail.symm, List.nodup_singleton id, ?_⟩
      intro other
      rw [left, List.isEmpty_cons, if_neg Bool.false_ne_true, List.mem_singleton]
      constructor
      · rintro rfl
        exact first ▸ List.mem_cons_self
      · exact mine other

theorem discard_owned (owned : log.Owned reading) (id : SessionId) :
    (log.discard id).1.Owned
      (if (log.discard id).2 = 0 then reading else { reading with tail := [] }) := by
  by_cases contributor : id ∈ log.contributors
  · have positive := owned.size_positive contributor
    rw [discard_lost contributor, if_neg (Nat.ne_of_gt positive)]
    exact ⟨rfl, List.nodup_nil, fun _ => Iff.rfl⟩
  · rw [discard_kept contributor]
    exact owned

theorem Pass.owned (pass : Pass log deed after) (sound : log.Sound) (owned : log.Owned reading) :
    after.Owned ((deed.tokens Prod.mk).foldl
      (Reading.follow (·.2 == log.settings.terminator)) reading) := by
  cases pass.change with
  | still keeps same =>
    rw [Deed.tokens_of_keeps keeps]
    exact same.owned owned
  | @wrote id chunk filled =>
    have written := write_owned sound owned id filled
    rwa [List.map_map] at written
  | gaveUp gives same =>
    rw [Reading.follow_gaveUp gives]
    exact same.owned (discard_owned owned _)
  | tornDown => exact ⟨rfl, List.nodup_nil, fun _ => Iff.rfl⟩

theorem fresh_owned {settings : Settings} : (fresh settings).Owned {} :=
  ⟨rfl, List.nodup_nil, fun _ => Iff.rfl⟩

-- What is left after a discard: all of the record under way is lost, or nothing has changed.
structure GivesUp (log : Log) (owns : Prop) (lost : Nat) (after : Log) : Prop where
  lost_iff : 0 < lost ↔ owns
  whole : owns → lost = log.pending.bytes.length ∧ after.pending.bytes = [] ∧
    after.contributors = []
  nothing : ¬ owns → lost = 0 ∧ after.pending = log.pending ∧
    after.contributors = log.contributors
  ring : after.ring = log.ring

theorem discard_gives_up (owned : log.Owned reading) (id : SessionId) :
    log.GivesUp (id ∈ reading.tail.map Prod.fst) (log.discard id).2 (log.discard id).1 := by
  rw [← owned.owners id]
  by_cases contributor : id ∈ log.contributors
  · rw [discard_lost contributor]
    have positive := owned.size_positive contributor
    have size : log.pending.size = log.pending.bytes.length := (List.length_reverse).symm
    exact ⟨⟨fun _ => contributor, fun _ => positive⟩, fun _ => ⟨size, rfl, rfl⟩,
      fun other => absurd contributor other, rfl⟩
  · rw [discard_kept contributor]
    refine ⟨⟨?_, fun owns => absurd owns contributor⟩, fun owns => absurd owns contributor,
      fun _ => ⟨rfl, rfl, rfl⟩, rfl⟩
    intro positive
    exact absurd positive (Nat.lt_irrefl 0)

end Log

section

variable {reading : Reading (SessionId × UInt8)}

theorem SharedLog.discard_gives_up {shared : SharedLog} {handle : Option Handle}
    (free : handle.any shared.gate.flags.isRaised = false) (owned : shared.log.Owned reading)
    (id : SessionId) :
    ∃ lost, (shared.discard handle id).2 = .ok lost ∧
      shared.log.GivesUp (id ∈ reading.tail.map Prod.fst) lost
        (shared.discard handle id).1.log := by
  unfold discard
  rw [enter_free free]
  exact ⟨_, rfl, shared.log.discard_gives_up owned id⟩

theorem SharedLog.discard_raised {shared : SharedLog} {handle : Option Handle}
    (raised : handle.any shared.gate.flags.isRaised = true) (id : SessionId) :
    (shared.discard handle id).1.log = shared.log.countInterrupt ∧
      (shared.discard handle id).2 = .error .interrupted :=
  enter_raised raised _

namespace Channel

variable {channel : Channel}

theorem release_gives_up {handle : Option Handle} (live : channel.session.ended = false)
    (free : handle.any channel.shared.gate.flags.isRaised = false)
    (owned : channel.shared.log.Owned reading) :
    (channel.release handle).1.session.ended = true ∧
      ∃ lost, channel.releaseDeeds handle = [.ended channel.session.id lost] ∧
        channel.shared.log.GivesUp (channel.session.id ∈ reading.tail.map Prod.fst) lost
          (channel.release handle).1.shared.log := by
  unfold releaseDeeds release
  rw [live, if_neg Bool.false_ne_true, if_neg Bool.false_ne_true]
  obtain ⟨lost, told, gives⟩ := SharedLog.discard_gives_up free owned channel.session.id
  rcases made : channel.shared.discard handle channel.session.id with ⟨after, result⟩
  rw [made] at told gives
  cases told
  exact ⟨rfl, lost, rfl, gives.lost_iff, gives.whole, gives.nothing, gives.ring⟩

theorem release_raised {handle : Option Handle} (live : channel.session.ended = false)
    (raised : handle.any channel.shared.gate.flags.isRaised = true) :
    (channel.release handle).1.session = channel.session ∧
      channel.releaseDeeds handle = [.interrupted] ∧
      (channel.release handle).1.shared.log = channel.shared.log.countInterrupt := by
  unfold releaseDeeds release
  rw [live, if_neg Bool.false_ne_true, if_neg Bool.false_ne_true]
  obtain ⟨log, told⟩ := SharedLog.discard_raised raised channel.session.id
  rcases made : channel.shared.discard handle channel.session.id with ⟨after, result⟩
  rw [made] at log told
  cases told
  exact ⟨rfl, rfl, log⟩

theorem release_ended (handle : Option Handle) (gone : channel.session.ended = true) :
    (channel.release handle).1 = channel ∧ channel.releaseDeeds handle = [] := by
  unfold releaseDeeds release
  rw [gone]
  exact ⟨rfl, rfl⟩

-- An interrupted close is made up for by the drop that follows it.
theorem close_gives_up (live : channel.session.ended = false)
    (owned : channel.shared.log.Owned reading) :
    ∃ lost, channel.closeDeeds.getLast? = some (.ended channel.session.id lost) ∧
      channel.shared.log.GivesUp (channel.session.id ∈ reading.tail.map Prod.fst) lost
        channel.close.1.shared.log := by
  have dropped :
      channel.close.1 = ((channel.release channel.session.handle).1.release none).1 := rfl
  unfold closeDeeds
  rw [dropped]
  cases free : channel.session.handle.any channel.shared.gate.flags.isRaised with
  | false =>
    obtain ⟨gone, lost, deeds, gives⟩ := release_gives_up live free owned
    obtain ⟨same, none⟩ := release_ended none gone
    rw [deeds, none, same]
    exact ⟨lost, rfl, gives⟩
  | true =>
    obtain ⟨same, deeds, log⟩ := release_raised live free
    have still : (channel.release channel.session.handle).1.shared.log.Owned reading := by
      rw [log]
      exact ⟨owned.bytes, owned.unique, owned.owners⟩
    have unended : (channel.release channel.session.handle).1.session.ended = false :=
      (congrArg Session.ended same).trans live
    have nobody : (none : Option Handle).any
        (channel.release channel.session.handle).1.shared.gate.flags.isRaised = false := rfl
    obtain ⟨_, lost, ended, gives⟩ := release_gives_up unended nobody still
    rw [deeds, ended, same]
    rw [same, log] at gives
    exact ⟨lost, rfl, gives.lost_iff, gives.whole, gives.nothing, gives.ring⟩

end Channel

end

def Deed.isEnd : Deed → Bool
  | .ended _ _ => true
  | _ => false

-- A byte delivered, with its place in all that was delivered and the session that wrote it.
structure Stamp where
  place : Nat
  writer : SessionId
  byte : UInt8
  deriving DecidableEq, Repr

def authored (entries : List Entry) : List (Token (SessionId × UInt8)) :=
  entries.flatMap fun entry => entry.2.tokens Prod.mk

def stamped : Nat → List (Token (SessionId × UInt8)) → List (Token Stamp)
  | _, [] => []
  | place, token :: tokens =>
    token.map (fun (writer, byte) => ⟨place, writer, byte⟩) :: stamped (place + 1) tokens

theorem stamped_append (place : Nat) (first others : List (Token (SessionId × UInt8))) :
    stamped place (first ++ others) =
      stamped place first ++ stamped (place + first.length) others := by
  induction first generalizing place with
  | nil => rfl
  | cons token first ih =>
    rw [List.cons_append, stamped, stamped, ih, List.length_cons, List.cons_append,
      Nat.add_right_comm, Nat.add_assoc]

theorem stamped_lost (place : Nat) (first others : List (Token (SessionId × UInt8))) :
    stamped place (first ++ .lost :: others) =
      stamped place first ++ .lost :: stamped (place + first.length + 1) others := by
  rw [stamped_append]
  rfl

theorem stamped_erased (place : Nat) (tokens : List (Token (SessionId × UInt8))) :
    (stamped place tokens).map (·.map fun stamp => (stamp.writer, stamp.byte)) = tokens := by
  induction tokens generalizing place with
  | nil => rfl
  | cons token tokens ih =>
    rw [stamped, List.map_cons, ih]
    cases token <;> rfl

theorem stamped_places (place : Nat) (tokens : List (Token (SessionId × UInt8))) :
    ((Token.items (stamped place tokens)).map Stamp.place).Pairwise (· < ·) ∧
      ∀ stamp ∈ Token.items (stamped place tokens), place ≤ stamp.place := by
  induction tokens generalizing place with
  | nil => exact ⟨.nil, nofun⟩
  | cons token tokens ih =>
    obtain ⟨ordered, later⟩ := ih (place + 1)
    have others : ∀ stamp ∈ Token.items (stamped (place + 1) tokens), place < stamp.place := later
    cases token with
    | item mark =>
      refine ⟨.cons ?_ ordered, ?_⟩
      · exact List.forall_mem_map.mpr others
      · intro stamp inside
        rcases List.mem_cons.mp inside with rfl | inside
        · exact Nat.le_refl _
        · exact Nat.le_of_lt (others stamp inside)
    | lost => exact ⟨ordered, fun stamp inside => Nat.le_of_lt (others stamp inside)⟩
    | cleared => exact ⟨ordered, fun stamp inside => Nat.le_of_lt (others stamp inside)⟩

theorem stamped_unique (place : Nat) (tokens : List (Token (SessionId × UInt8))) :
    (Token.items (stamped place tokens)).Nodup :=
  List.Nodup.of_map _ ((stamped_places place tokens).1.imp Nat.ne_of_lt)

theorem items_lost {α : Type} (first others : List (Token α)) :
    Token.items (first ++ .lost :: others) = Token.items first ++ Token.items others := by
  unfold Token.items
  rw [List.filterMap_append, List.filterMap_cons_none rfl]

-- What some entries delivered, read with the origin of each byte.
def readingOf (terminator : UInt8) (entries : List Entry) : Reading Stamp :=
  Reading.of (·.byte == terminator) (stamped 0 (authored entries))

theorem readingOf_authored (terminator : UInt8) (entries : List Entry) :
    (readingOf terminator entries).map (fun stamp => (stamp.writer, stamp.byte)) =
      Reading.of (·.2 == terminator) (authored entries) := by
  have erased := Reading.foldl_map (fun item : SessionId × UInt8 => item.2 == terminator)
    (fun stamp : Stamp => (stamp.writer, stamp.byte)) (stamped 0 (authored entries)) {}
  rw [stamped_erased] at erased
  exact erased.symm

theorem Deed.tokens_bytes (deed : Deed) :
    deed.tokens (fun _ byte => byte) = (deed.tokens Prod.mk).map (·.map Prod.snd) := by
  cases deed with
  | wrote id chunk committed evicted => simp [tokens, Token.map]
  | discarded id lost => simp only [tokens]; split <;> rfl
  | ended id lost => simp only [tokens]; split <;> rfl
  | _ => rfl

theorem readingOf_bytes (terminator : UInt8) (station : Station) (calls : List Call) :
    (readingOf terminator (station.history calls)).map Stamp.byte =
      Reading.of (· == terminator) (station.delivered calls) := by
  have delivered : station.delivered calls =
      (authored (station.history calls)).map (·.map Prod.snd) := by
    unfold Station.delivered authored
    rw [List.map_flatMap]
    simp only [Deed.tokens_bytes]
  have authors := congrArg (Reading.map Prod.snd)
    (readingOf_authored terminator (station.history calls))
  rw [Reading.map_map] at authors
  refine authors.trans ?_
  rw [delivered]
  exact (Reading.foldl_map (· == terminator) Prod.snd (authored (station.history calls)) {}).symm

def endings (number : Nat) (entries : List Entry) : Nat :=
  entries.countP fun entry => entry.1 == some number && entry.2.isEnd

theorem endings_append (number : Nat) (first others : List Entry) :
    endings number (first ++ others) = endings number first + endings number others :=
  List.countP_append

theorem endings_other {number : Nat} {entry : Entry}
    (other : entry.1 ≠ some number ∨ entry.2.isEnd = false) : endings number [entry] = 0 := by
  rcases other with other | other
  · simp [endings, other]
  · simp [endings, other]

theorem endings_own (number : Nat) (deed : Deed) :
    endings number [(some number, deed)] = if deed.isEnd = true then 1 else 0 := by
  simp [endings, List.countP_singleton]

theorem Visit.ended_eq {log after : Log} {session moved : Session} {deed : Deed}
    (live : session.ended = false) (visit : Visit log session deed after moved) :
    moved.ended = deed.isEnd := by
  cases visit with
  | aside pass leaves => cases deed <;> first | exact live | cases leaves
  | read found => exact live
  | positioned inside => exact live
  | sought found => exact live
  | ended => rfl

namespace Scene

variable {scene after : Scene} {entry : Entry} {entries : List Entry}

def endCount (scene : Scene) (number : Nat) : Nat :=
  if (scene.sessions[number]?).any (·.ended) then 1 else 0

theorem endCount_le (scene : Scene) (number : Nat) : scene.endCount number ≤ 1 := by
  unfold endCount
  split
  · exact Nat.le_refl 1
  · exact Nat.zero_le 1

theorem Pass.endCount_eq (pass : Pass scene entry after) (number : Nat) :
    after.endCount number = scene.endCount number + endings number [entry] := by
  unfold endCount
  cases pass.sight number with
  | opened own absent there =>
    rw [own, absent, there, endings_other (.inr rfl)]
    rfl
  | visited own present live visit there =>
    obtain ⟨_, deed⟩ := entry
    obtain rfl := own
    rw [present, there, endings_own]
    simp [live, visit.ended_eq live]
  | elsewhere other same =>
    rw [same, endings_other (.inl other)]
    rfl

theorem Passes.endCount_eq (passes : Passes scene entries after) (number : Nat) :
    after.endCount number = scene.endCount number + endings number entries := by
  induction passes with
  | nil => rfl
  | @cons scene middle after entry entries pass _ ih =>
    have parts : endings number (entry :: entries) =
        endings number [entry] + endings number entries := endings_append number [entry] entries
    rw [ih, pass.endCount_eq, parts, Nat.add_assoc]

end Scene

theorem Log.Pass.ended_lost {log after : Log} {id : SessionId} {lost : Nat}
    (pass : Pass log (.ended id lost) after) : lost = (log.discard id).2 := by
  cases pass
  rfl

namespace Station

variable {settings : Settings} {start : Station} {calls : List Call}

theorem ended_never_committed (sound : start.shared.log.Sound) (empty : start.shared.log.Owned {})
    {former latter : List Entry} {who : Option Nat} {id : SessionId} {lost : Nat}
    (history : start.history calls = former ++ (who, .ended id lost) :: latter) {stamp : Stamp}
    (underWay : stamp ∈ (readingOf start.shared.log.settings.terminator former).tail)
    (wrote : stamp.writer = id) :
    ∀ record ∈ (readingOf start.shared.log.settings.terminator (start.history calls)).all,
      stamp ∉ record := by
  have passes := run_passes start calls
  rw [history] at passes ⊢
  obtain ⟨middle, before, rest⟩ := passes.split
  have owned := before.log_passes.read Log.Pass.owned sound empty
  rw [List.flatMap_map] at owned
  have contributor : id ∈ middle.log.contributors := by
    refine (owned.owners id).mpr ?_
    have authors := readingOf_authored start.shared.log.settings.terminator former
    have tail := congrArg (fun reading => reading.tail.map Prod.fst) authors
    refine tail ▸ List.mem_map.mpr ⟨(stamp.writer, stamp.byte), ?_, wrote⟩
    exact List.mem_map_of_mem underWay
  -- The end of a contributor gives something up, so it stands in the reading as a loss.
  have all : lost ≠ 0 := by
    cases rest with
    | cons pass _ =>
      have whole := pass.log_pass.ended_lost
      rw [Log.discard_lost contributor] at whole
      exact whole ▸ Nat.ne_of_gt (owned.size_positive contributor)
  have tokens : authored (former ++ (who, .ended id lost) :: latter) =
      authored former ++ .lost :: authored latter := by
    have one : Deed.tokens Prod.mk (.ended id lost) = [Token.lost] := if_neg all
    unfold authored
    rw [List.flatMap_append, List.flatMap_cons, one]
    rfl
  have unique := stamped_unique 0 (authored former ++ .lost :: authored latter)
  unfold readingOf
  rw [tokens]
  rw [stamped_lost] at unique ⊢
  rw [items_lost] at unique
  exact Reading.lost_for_good unique underWay

theorem run_owned (valid : settings.check = .ok ()) (calls : List Call) :
    let start := fresh settings
    (start.run calls).1.shared.log.Owned
      (Reading.of (·.2 == settings.terminator) (authored (start.history calls))) := by
  intro start
  have owned := (run_passes start calls).log_passes.read Log.Pass.owned
    (Log.fresh_sound valid).1 Log.fresh_owned
  rwa [List.flatMap_map] at owned

theorem run_committed (valid : settings.check = .ok ()) (calls : List Call) :
    let start := fresh settings
    (start.history calls).flatMap (·.2.committed) =
      (readingOf settings.terminator (start.history calls)).all.map
        fun record => ⟨record.map Stamp.byte⟩ := by
  intro start
  have all := (run_passes start calls).log_passes.all_committed (Log.fresh_sound valid).1
    (Log.fresh_follows valid)
  rw [List.flatMap_map, List.flatMap_map] at all
  have bytes := congrArg Reading.all (readingOf_bytes settings.terminator start calls)
  rw [Reading.all_map] at bytes
  have same := congrArg (List.map Record.mk) (bytes.trans all)
  rw [List.map_map] at same
  refine Eq.trans ?_ same.symm
  rw [Reading.all_fresh, List.nil_append, List.map_map]
  exact (List.map_id _).symm

variable {station : Station} {reading : Reading (SessionId × UInt8)}

theorem discard_gives_up {handle : Option Handle}
    (free : handle.any station.shared.gate.flags.isRaised = false)
    (owned : station.shared.log.Owned reading) (id : SessionId) :
    ∃ lost, (station.step (.log handle (.discard id))).2 = .count lost ∧
      station.shared.log.GivesUp (id ∈ reading.tail.map Prod.fst) lost
        (station.step (.log handle (.discard id))).1.shared.log := by
  obtain ⟨lost, told, gives⟩ := SharedLog.discard_gives_up free owned id
  exact ⟨lost, congrArg (Reply.ofResult .count) told, gives⟩

theorem end_gives_up {number : Nat} {session : Session} {call : SessionCall}
    (present : station.session? number = some session) (ends : call = .close ∨ call = .drop)
    (owned : station.shared.log.Owned reading) :
    ∃ lost, (station.deeds (.session number call)).getLast? =
        some (some number, .ended session.id lost) ∧
      station.shared.log.GivesUp (session.id ∈ reading.tail.map Prod.fst) lost
        (station.step (.session number call)).1.shared.log := by
  have live : (⟨station.shared, session⟩ : Channel).session.ended = false :=
    (session?_some present).2
  have nobody : (none : Option Handle).any station.shared.gate.flags.isRaised = false := rfl
  have deeds : station.deeds (.session number call) = _ := visitDeeds_some present (·.deeds call)
  have step : station.step (.session number call) = _ := visit_some present (·.answer call)
  rw [deeds, step, List.getLast?_map]
  rcases ends with rfl | rfl
  · obtain ⟨lost, last, gives⟩ := Channel.close_gives_up live owned
    exact ⟨lost, congrArg (Option.map _) last, gives⟩
  · obtain ⟨_, lost, only, gives⟩ := Channel.release_gives_up live nobody owned
    exact ⟨lost, congrArg (fun deeds => (deeds.getLast?).map (some number, ·)) only, gives⟩

-- A session takes the record under way along exactly if it wrote of it, and what it wrote of it is
-- then in no record ever committed.
theorem pending_is_owned (valid : settings.check = .ok ()) :
    ∃ start, create settings = .ok start ∧ ∀ calls,
      let after := (start.run calls).1
      let log := after.shared.log
      let reading := readingOf settings.terminator (start.history calls)
      log.pending.bytes = reading.tail.map Stamp.byte ∧
      (start.history calls).flatMap (·.2.committed) =
        reading.all.map (fun record => ⟨record.map Stamp.byte⟩) ∧
      log.contributors.Nodup ∧ (log.contributors = [] ↔ log.pending.bytes = []) ∧
      (∀ handle id, handle.any after.shared.gate.flags.isRaised = false →
        ∃ lost, (after.step (.log handle (.discard id))).2 = .count lost ∧
          log.GivesUp (id ∈ reading.tail.map Stamp.writer) lost
            (after.step (.log handle (.discard id))).1.shared.log) ∧
      (∀ number session call, after.session? number = some session → call = .close ∨ call = .drop →
        ∃ lost, (after.deeds (.session number call)).getLast? =
            some (some number, .ended session.id lost) ∧
          log.GivesUp (session.id ∈ reading.tail.map Stamp.writer) lost
            (after.step (.session number call)).1.shared.log) ∧
      (∀ former latter who id lost,
        start.history calls = former ++ (who, .ended id lost) :: latter →
          ∀ stamp ∈ (readingOf settings.terminator former).tail, stamp.writer = id →
            ∀ record ∈ reading.all, stamp ∉ record) ∧
      ∀ number, endings number (start.history calls) ≤ 1 := by
  refine ⟨_, create_eq valid, ?_⟩
  intro calls
  have owned := run_owned valid calls
  have authors := readingOf_authored settings.terminator
    (history (fresh settings) calls)
  have writers := congrArg (fun reading => reading.tail.map Prod.fst) authors
  have bytes := congrArg (fun reading => reading.tail.map Prod.snd) authors
  dsimp only [Reading.map] at writers bytes
  rw [List.map_map] at writers bytes
  refine ⟨owned.bytes.trans bytes.symm, run_committed valid calls, owned.unique, owned.none_iff,
    ?_, ?_, ?_, ?_⟩
  · intro handle id free
    obtain ⟨lost, told, gives⟩ := discard_gives_up free owned id
    rw [← writers] at gives
    exact ⟨lost, told, gives⟩
  · intro number session call present ends
    obtain ⟨lost, last, gives⟩ := end_gives_up present ends owned
    rw [← writers] at gives
    exact ⟨lost, last, gives⟩
  · intro former latter who id lost split stamp underWay wrote
    have sound : (fresh settings).shared.log.Sound := (Log.fresh_sound valid).1
    exact ended_never_committed sound Log.fresh_owned split underWay wrote
  · intro number
    have once := (run_passes (fresh settings) calls).endCount_eq number
    have atMost := Scene.endCount_le (run (fresh settings) calls).1.scene number
    omega

-- The close of the second session is interrupted, and its byte is lost all the same.
theorem byte_of_an_interrupted_close :
    let settings : Settings := ⟨1, 59, false, 1⟩
    let calls : List Call := [.openSession, .openSession, .session 0 (.write [97]),
      .session 1 (.write [98]), .handle (some (.session 1)) .raise, .session 1 .close,
      .session 0 (.write [59])]
    settings.check = .ok () ∧ ∃ start, create settings = .ok start ∧
      endings 1 (start.history calls) ≤ 1 ∧
      ∀ record ∈ (readingOf 59 (start.history calls)).all, ⟨1, ⟨2⟩, 98⟩ ∉ record := by
  intro settings calls
  have valid : settings.check = .ok () := rfl
  obtain ⟨start, created, owned⟩ := pending_is_owned valid
  have same : start = fresh settings :=
    Except.ok.inj (created.symm.trans (create_eq valid))
  let former : List Entry := [(some 0, .opened ⟨1⟩), (some 1, .opened ⟨2⟩),
    (some 0, .wrote ⟨1⟩ [97] [] []), (some 1, .wrote ⟨2⟩ [98] [] []), (some 1, .interrupted)]
  have split : start.history calls = former ++ (some 1, .ended ⟨2⟩ 2) ::
      [(some 0, .wrote ⟨1⟩ [59] [⟨[59]⟩] [])] := by
    rw [same]
    decide +kernel
  have underWay : ⟨1, ⟨2⟩, 98⟩ ∈ (readingOf settings.terminator former).tail := by decide +kernel
  obtain ⟨_, _, _, _, _, _, never, once⟩ := owned calls
  exact ⟨valid, start, created, once 1, never former _ _ _ _ split _ underWay rfl⟩

end Station

end CircularLog
