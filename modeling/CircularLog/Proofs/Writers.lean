import CircularLog.Proofs.Complete
import CircularLog.Proofs.Ownership
import Mathlib.Data.List.Count
import Mathlib.Logic.Equiv.Basic

namespace CircularLog

namespace Log

variable {log middle after last : Log} {batches others : List (List Record)}

structure Idle (log : Log) : Prop where
  bytes : log.pending.bytes = []
  contributors : log.contributors = []

-- How many records have to go for some batches of new ones.
def surplus (log : Log) (batches : List (List Record)) : Nat :=
  log.held.length + batches.flatten.length - log.settings.capacity

-- A log that took some batches of records, each in a write of its own, and nothing else. An empty
-- batch does not come to the log.
structure Took (log : Log) (batches : List (List Record)) (after : Log) : Prop where
  settings : after.settings = log.settings
  idle : after.Idle
  held : after.held = (log.held ++ batches.flatten).drop (log.surplus batches)
  generation : after.generation = log.generation + UInt64.ofNat (log.surplus batches)
  tally : after.tally = { log.tally.countCommits batches.flatten.length (log.surplus batches) with
    writes := log.tally.writes + UInt64.ofNat (batches.countP (!·.isEmpty))
    bytesWritten := log.tally.bytesWritten + UInt64.ofNat (totalSize batches.flatten) }

theorem Sound.surplus_none (sound : log.Sound) (empty : batches.flatten = []) :
    log.surplus batches = 0 := by
  have bounded := sound.ring.bounded
  rw [sound.capacity] at bounded
  rw [surplus, empty, List.length_nil, Nat.add_zero]
  exact Nat.sub_eq_zero_of_le bounded

theorem Still.took (same : Still log after) (sound : log.Sound) (idle : log.Idle)
    (tally : after.tally = log.tally) (empty : ∀ batch ∈ batches, batch = []) :
    log.Took batches after := by
  have flat : batches.flatten = [] := List.flatten_eq_nil_iff.mpr empty
  have none := sound.surplus_none flat
  have writes : batches.countP (!·.isEmpty) = 0 := by
    apply List.countP_eq_zero.mpr
    intro batch inside
    simp [empty batch inside]
  have held : after.held = log.held := same.held_eq
  refine ⟨same.settings, ⟨?_, ?_⟩, ?_, ?_, ?_⟩
  · rw [same.pending]
    exact idle.bytes
  · rw [same.contributors]
    exact idle.contributors
  · simp [held, none, flat]
  · simp [same.generation, none]
  · simp [tally, none, flat, writes, Tally.countCommits, totalSize]

theorem Took.length_held (took : log.Took batches after) :
    after.held.length = min log.settings.capacity (log.held.length + batches.flatten.length) := by
  rw [took.held, List.length_drop, List.length_append, surplus]
  omega

theorem Took.append (left : log.Took batches middle) (right : middle.Took others after) :
    log.Took (batches ++ others) after := by
  -- What the later batches push out comes on top of what the earlier ones did.
  have parts : log.surplus (batches ++ others) = log.surplus batches + middle.surplus others := by
    simp only [surplus, left.settings, left.length_held, List.flatten_append,
      List.length_append]
    omega
  refine ⟨right.settings.trans left.settings, right.idle, ?_, ?_, ?_⟩
  · have kept : log.surplus batches ≤ (log.held ++ batches.flatten).length := by
      rw [surplus, List.length_append]
      exact Nat.sub_le _ _
    rw [right.held, left.held, parts, List.flatten_append, ← List.append_assoc, ← List.drop_drop,
      List.drop_append_of_le_length kept]
  · rw [right.generation, left.generation, parts, UInt64.ofNat_add, UInt64.add_assoc]
  · simp only [right.tally, left.tally, parts, Tally.countCommits, List.flatten_append,
      List.length_append, List.countP_append, totalSize_append, UInt64.ofNat_add, UInt64.add_assoc]

theorem write_took (sound : log.Sound) (idle : log.Idle) (id : SessionId) {records : List Record}
    (complete : ∀ record ∈ records, record.Complete log.settings.terminator)
    (some : records ≠ []) : log.Took [records] (log.write id (joined records)) := by
  obtain ⟨journal, written⟩ := write_eq log id (joined records)
  rw [← sound.terminator] at complete
  obtain ⟨made, rest⟩ := Pending.append_complete complete idle.bytes
  obtain ⟨moved, length⟩ := write_held sound id (joined records)
  rw [made] at moved length
  have surplus : (log.ring.pushAll records).2.length = log.surplus [records] := by
    have lengths := congrArg List.length moved
    simp only [List.length_append] at lengths
    simp only [Log.surplus, List.flatten_singleton]
    omega
  have filled : records.isEmpty = false := List.isEmpty_eq_false_iff.mpr some
  have held : (log.write id (joined records)).held =
      (log.held ++ records).drop (log.surplus [records]) := by
    rw [← moved, ← surplus, List.drop_left]
  have emptied : (log.pending.append (joined records)).1.isEmpty = true := by
    rw [Pending.isEmpty_eq, rest]
    rfl
  refine ⟨?_, ⟨?_, ?_⟩, ?_, ?_, ?_⟩
  · rw [written]
  · rw [written]
    exact rest
  · rw [written]
    simp only [made, filled, emptied]
    rfl
  · rw [held, List.flatten_singleton]
  · rw [written, ← surplus]
    simp only [made]
  · rw [written, ← surplus]
    simp [made, filled, Tally.countWrite, Tally.countCommits, length_joined]

-- What a log took is told by it only in the records it holds: the counters are the same for any
-- other order.
theorem Took.alike (took : log.Took batches after) (likewise : log.Took others last)
    (same : batches.Perm others) : last.tally = after.tally ∧ last.generation = after.generation ∧
      last.held.length = after.held.length := by
  have records := same.flatten
  have count := records.length_eq
  have surplus : log.surplus batches = log.surplus others := by
    rw [Log.surplus, Log.surplus, count]
  have size : totalSize batches.flatten = totalSize others.flatten := by
    rw [← length_joined, ← length_joined]
    exact (records.flatMap_right Record.bytes).length_eq
  refine ⟨?_, ?_, ?_⟩
  · rw [took.tally, likewise.tally, count, surplus, size, same.countP_eq]
  · rw [took.generation, likewise.generation, surplus]
  · rw [took.length_held, likewise.length_held, count]

theorem Took.alike_held (took : log.Took batches after) (likewise : log.Took others last)
    (same : batches.Perm others) {record : Record}
    (equal : ∀ other ∈ batches.flatten, other = record) : last.held = after.held := by
  have records := same.flatten
  have repeated := List.eq_replicate_of_mem equal
  have again := List.eq_replicate_of_mem fun other inside =>
    equal other (records.mem_iff.mpr inside)
  have flat : others.flatten = batches.flatten := by
    rw [repeated, again, records.length_eq]
  rw [took.held, likewise.held, Log.surplus, Log.surplus, flat]

end Log

inductive Manner where
  | plain
  | stream
  | persistent
  deriving DecidableEq, Repr

-- What a writer of whole records does when its turn comes.
inductive Stint where
  | opens
  | writes (number : Nat) (manner : Manner) (records : List Record)
  | closes (number : Nat)
  | drops (number : Nat)
  deriving DecidableEq, Repr

abbrev Batch := Nat × List Record

namespace Stint

def call : Stint → Call
  | .opens => .openSession
  | .writes number .plain records => .session number (.write (joined records))
  | .writes number .stream records => .stream number (.write (joined records))
  | .writes number .persistent records => .stream number (.writeAll (joined records))
  | .closes number => .session number .close
  | .drops number => .session number .drop

def batches : Stint → List Batch
  | .writes number _ records => [(number, records)]
  | _ => []

-- How the call is answered when nothing is in its way. A close gives up no byte.
def Answered : Stint → Reply → Prop
  | .opens, reply => ∃ id, reply = .session id
  | .writes _ .persistent _, reply => reply = .done
  | .writes _ _ records, reply => reply = .count (totalSize records)
  | .closes _, reply => reply = .count 0
  | .drops _, reply => reply = .done

end Stint

def batchesOf (number : Nat) (batches : List Batch) : List (List Record) :=
  (batches.filter (·.1 == number)).map Prod.snd

def authors (batches : List Batch) : List (Option Nat × Record) :=
  batches.flatMap fun batch => batch.2.map (some batch.1, ·)

def completions (entries : List Entry) : List (Option Nat × Record) :=
  entries.flatMap fun entry => entry.2.committed.map (entry.1, ·)

theorem count_batch (number : Nat) (records : List Record) (batches : List Batch) :
    batches.count (number, records) = (batchesOf number batches).count records := by
  induction batches with
  | nil => rfl
  | cons batch batches ih =>
    obtain ⟨writer, written⟩ := batch
    rw [List.count_cons, ih, batchesOf, batchesOf, List.filter_cons]
    by_cases own : writer = number
    · simp [own, List.count_cons]
    · simp [own]

theorem authors_own (number : Nat) (batches : List Batch) :
    ((authors batches).filter (·.1 == some number)).map Prod.snd =
      (batchesOf number batches).flatten := by
  induction batches with
  | nil => rfl
  | cons batch batches ih =>
    obtain ⟨writer, records⟩ := batch
    have parts : authors ((writer, records) :: batches) =
        records.map (some writer, ·) ++ authors batches := rfl
    rw [parts, List.filter_append, List.map_append, ih, batchesOf, batchesOf, List.filter_cons]
    by_cases own : writer = number
    · simp [own, List.filter_map, Function.comp_def]
    · simp [own, List.filter_map, Function.comp_def]

-- The same lists of batches under other numbers are the same batches in another order.
theorem batches_perm {batches others : List Batch} (names : Equiv.Perm Nat)
    (same : ∀ number, batchesOf (names number) others = batchesOf number batches) :
    (batches.map Prod.snd).Perm (others.map Prod.snd) := by
  have renamed : (batches.map (Prod.map names id)).Perm others := by
    apply List.perm_iff_count.mpr
    rintro ⟨number, records⟩
    have own := same (names.symm number)
    rw [names.apply_symm_apply] at own
    have back : (number, records) = Prod.map names id (names.symm number, records) := by simp
    rw [count_batch number records others, own, ← count_batch, back]
    exact List.count_map_of_injective _ _ (names.injective.prodMap Function.injective_id) _
  have unnamed := renamed.map Prod.snd
  rwa [List.map_map] at unnamed

theorem completions_append (first others : List Entry) :
    completions (first ++ others) = completions first ++ completions others :=
  List.flatMap_append

namespace Channel

variable {channel : Channel} {handle : Option Handle}

theorem write_whole (channel : Channel)
    (free : channel.session.handle.any channel.shared.gate.flags.isRaised = false)
    (sound : channel.shared.log.Sound) (idle : channel.shared.log.Idle) {records : List Record}
    (complete : ∀ record ∈ records, record.Complete channel.shared.log.settings.terminator) :
    (channel.write (joined records)).2 = .ok (totalSize records) ∧
      channel.shared.log.Took [records] (channel.write (joined records)).1.shared.log ∧
      (channel.writeDeeds (joined records)).flatMap Deed.committed = records := by
  by_cases some : records = []
  · subst some
    refine ⟨rfl, ?_, rfl⟩
    exact Log.Still.took ⟨rfl, rfl, rfl, rfl, rfl, rfl, rfl⟩ sound idle rfl (by simp)
  · have filled : joined records ≠ [] := fun none => some ((joined_eq_nil complete).mp none)
    have whole := complete
    rw [← sound.terminator] at whole
    have made := (Pending.append_complete whole idle.bytes).1
    have written := SharedLog.write_free free channel.session.id filled
    refine ⟨?_, ?_, ?_⟩
    · rw [write, written, length_joined]
    · rw [write, written]
      exact channel.shared.log.write_took sound idle _ complete some
    · rw [writeDeeds, SharedLog.writeDeeds, written, List.isEmpty_eq_false_iff.mpr filled]
      simp [Deed.ofResult, Log.writing, Deed.committed, made]

theorem release_idle (channel : Channel) (live : channel.session.ended = false)
    (free : handle.any channel.shared.gate.flags.isRaised = false)
    (idle : channel.shared.log.Idle) :
    channel.release handle = (⟨channel.shared.note (.closed channel.session.id 0),
      { channel.session with ended := true }⟩, .ok 0) := by
  have other : channel.session.id ∉ channel.shared.log.contributors := by
    rw [idle.contributors]
    exact List.not_mem_nil
  have discarded : channel.shared.discard handle channel.session.id = (channel.shared, .ok 0) := by
    rw [SharedLog.discard, SharedLog.enter_free free, Log.discard_kept other]
    rfl
  rw [release, live, if_neg Bool.false_ne_true, discarded]

theorem close_idle (channel : Channel) (live : channel.session.ended = false)
    (free : channel.session.handle.any channel.shared.gate.flags.isRaised = false)
    (idle : channel.shared.log.Idle) :
    channel.close = (⟨channel.shared.note (.closed channel.session.id 0),
      { channel.session with ended := true }⟩, .ok 0) := by
  rw [close, channel.release_idle live free idle]
  rfl

theorem releaseDeeds_committed (channel : Channel) (handle : Option Handle) :
    (channel.releaseDeeds handle).flatMap Deed.committed = [] := by
  unfold releaseDeeds
  split
  · rfl
  · have none := Deed.ofResult_all (·.committed.isEmpty) rfl rfl
      (fun lost => (rfl : (Deed.ended channel.session.id lost).committed.isEmpty = true))
      (channel.release handle).2
    rw [List.flatMap_singleton]
    exact List.isEmpty_iff.mp none

end Channel

def Station.Unhindered (station : Station) (number : Nat) : Prop :=
  ∃ session ∈ station.session? number,
    session.handle.any station.shared.gate.flags.isRaised = false

instance (station : Station) (number : Nat) : Decidable (station.Unhindered number) :=
  inferInstanceAs (Decidable (∃ session ∈ station.session? number,
    session.handle.any station.shared.gate.flags.isRaised = false))

-- Whose turn it may be. A drop cannot be interrupted.
def Stint.Fits (station : Station) : Stint → Prop
  | .opens => True
  | .writes number _ _ | .closes number => station.Unhindered number
  | .drops number => (station.session? number).isSome

instance (station : Station) : (stint : Stint) → Decidable (stint.Fits station)
  | .opens => .isTrue trivial
  | .writes number _ _ => inferInstanceAs (Decidable (station.Unhindered number))
  | .closes number => inferInstanceAs (Decidable (station.Unhindered number))
  | .drops number => inferInstanceAs (Decidable ((station.session? number).isSome = true))

inductive Schedule : Station → List Stint → Prop where
  | nil {station : Station} : Schedule station []
  | cons {station : Station} {stint : Stint} {stints : List Stint} (fits : stint.Fits station)
      (rest : Schedule (station.step stint.call).1 stints) : Schedule station (stint :: stints)

theorem completions_visit (who : Option Nat) (deeds : List Deed) :
    completions (deeds.map (who, ·)) = (deeds.flatMap Deed.committed).map (who, ·) := by
  rw [completions, List.flatMap_map, List.map_flatMap]

structure Stint.Done (station : Station) (stint : Stint) : Prop where
  took : station.shared.log.Took (stint.batches.map Prod.snd)
    (station.step stint.call).1.shared.log
  completed : completions (station.deeds stint.call) = authors stint.batches
  answered : stint.Answered (station.step stint.call).2

namespace Station

variable {station : Station}

theorem opens_done (sound : station.shared.log.Sound) (idle : station.shared.log.Idle) :
    Stint.opens.Done station := by
  refine ⟨?_, rfl, _, rfl⟩
  exact Log.Still.took ⟨rfl, rfl, rfl, rfl, rfl, rfl, rfl⟩ sound idle rfl nofun

theorem visit_done {stint : Stint} {number : Nat} {session : Session}
    (act : Channel → Channel × Reply) (deeds : Channel → List Deed)
    (present : station.session? number = some session)
    (step : station.step stint.call = station.visit number act)
    (listed : station.deeds stint.call = station.visitDeeds number deeds)
    (took : station.shared.log.Took (stint.batches.map Prod.snd)
      (act ⟨station.shared, session⟩).1.shared.log)
    (completed : ((deeds ⟨station.shared, session⟩).flatMap Deed.committed).map (some number, ·) =
      authors stint.batches)
    (answered : stint.Answered (act ⟨station.shared, session⟩).2) : stint.Done station := by
  refine ⟨?_, ?_, ?_⟩
  · rw [step, visit_some present]
    exact took
  · rw [listed, visitDeeds_some present, completions_visit]
    exact completed
  · rw [step, visit_some present]
    exact answered

theorem writes_done (sound : station.shared.log.Sound) (idle : station.shared.log.Idle)
    {number : Nat} (unhindered : station.Unhindered number) (manner : Manner)
    {records : List Record}
    (complete : ∀ record ∈ records, record.Complete station.shared.log.settings.terminator) :
    (Stint.writes number manner records).Done station := by
  obtain ⟨session, present, free⟩ := unhindered
  obtain ⟨told, took, committed⟩ :=
    Channel.write_whole ⟨station.shared, session⟩ free sound idle complete
  have completed := congrArg (List.map (some number, ·)) committed
  rw [← List.flatMap_singleton (fun batch : Batch => batch.2.map (some batch.1, ·))
    (number, records)] at completed
  cases manner with
  | plain =>
    exact visit_done (·.answer (.write (joined records))) (·.deeds (.write (joined records)))
      present rfl rfl took completed (congrArg (Reply.ofResult .count) told)
  | stream =>
    exact visit_done (·.answerStream (.write (joined records)))
      (·.streamDeeds (.write (joined records))) present rfl rfl took completed
      (congrArg (fun result => Reply.ofStream .count (Except.mapError StreamFault.log result)) told)
  | persistent =>
    rcases made : Channel.write ⟨station.shared, session⟩ (joined records) with ⟨after, result⟩
    rw [made] at told took
    cases told
    have again : Channel.persist (·.write (joined records)) ⟨station.shared, session⟩ =
        (after, .ok (totalSize records)) := by
      simp only [Channel.persist, made]
    have deeds : Channel.streamDeeds ⟨station.shared, session⟩ (.writeAll (joined records)) =
        Channel.writeDeeds ⟨station.shared, session⟩ (joined records) := by
      simp only [Channel.streamDeeds, Channel.persistDeeds, made]
    refine visit_done (·.answerStream (.writeAll (joined records)))
      (·.streamDeeds (.writeAll (joined records))) present rfl rfl ?_ ?_ ?_
    · simp only [Channel.answerStream, Channel.writeAll, again]
      exact took
    · rw [deeds]
      exact completed
    · simp only [Channel.answerStream, Channel.writeAll, again]
      rfl

theorem ends_done (sound : station.shared.log.Sound) (idle : station.shared.log.Idle)
    {stint : Stint} {number : Nat}
    (fits : stint.Fits station) (ends : stint = .closes number ∨ stint = .drops number) :
    stint.Done station := by
  have still : ∀ id : SessionId,
      station.shared.log.Took [] (station.shared.note (.closed id 0)).log := by
    intro id
    exact Log.Still.took ⟨rfl, rfl, rfl, rfl, rfl, rfl, rfl⟩ sound idle rfl nofun
  rcases ends with rfl | rfl
  · obtain ⟨session, present, free⟩ := fits
    have live := (session?_some present).2
    have ended := Channel.close_idle ⟨station.shared, session⟩ live free idle
    refine visit_done (·.answer .close) (·.deeds .close) present rfl rfl ?_ ?_ ?_
    · simp only [Channel.answer, ended]
      exact still _
    · simp only [Channel.deeds, Channel.closeDeeds, List.flatMap_append,
        Channel.releaseDeeds_committed]
      rfl
    · simp only [Channel.answer, ended]
      rfl
  · obtain ⟨session, present⟩ := Option.isSome_iff_exists.mp fits
    have live := (session?_some present).2
    have nobody : (none : Option Handle).any station.shared.gate.flags.isRaised = false := rfl
    have ended := Channel.release_idle ⟨station.shared, session⟩ live nobody idle
    refine visit_done (·.answer .drop) (·.deeds .drop) present rfl rfl ?_ ?_ rfl
    · simp only [Channel.answer, Channel.drop, ended]
      exact still _
    · simp only [Channel.deeds, Channel.releaseDeeds_committed]
      rfl

theorem step_done (sound : station.shared.log.Sound) (idle : station.shared.log.Idle)
    {stint : Stint} (fits : stint.Fits station) (complete : ∀ batch ∈ stint.batches,
      ∀ record ∈ batch.2, record.Complete station.shared.log.settings.terminator) :
    stint.Done station := by
  cases stint with
  | opens => exact opens_done sound idle
  | writes number manner records =>
    exact writes_done sound idle fits manner (List.forall_mem_singleton.mp complete)
  | closes number => exact ends_done sound idle fits (.inl rfl)
  | drops number => exact ends_done sound idle fits (.inr rfl)

end Station

def batches (stints : List Stint) : List Batch :=
  stints.flatMap Stint.batches

def Whole (terminator : UInt8) (stints : List Stint) : Prop :=
  ∀ batch ∈ batches stints, ∀ record ∈ batch.2, record.Complete terminator

theorem Whole.take {terminator : UInt8} {stints : List Stint} (whole : Whole terminator stints)
    (count : Nat) : Whole terminator (stints.take count) := by
  intro batch inside
  obtain ⟨stint, early, own⟩ := List.mem_flatMap.mp inside
  exact whole batch (List.mem_flatMap.mpr ⟨stint, List.mem_of_mem_take early, own⟩)

namespace Schedule

variable {station : Station} {stints : List Stint}

theorem take (schedule : Schedule station stints) (count : Nat) :
    Schedule station (stints.take count) := by
  induction schedule generalizing count with
  | nil =>
    rw [List.take_nil]
    exact .nil
  | cons fits rest ih =>
    cases count with
    | zero => exact .nil
    | succ count => exact .cons fits (ih count)

-- Each stint finds nothing under way and leaves nothing under way.
theorem took (schedule : Schedule station stints) (sound : station.shared.log.Sound)
    (idle : station.shared.log.Idle)
    (whole : Whole station.shared.log.settings.terminator stints) :
    let calls := stints.map Stint.call
    station.shared.log.Took ((batches stints).map Prod.snd) (station.run calls).1.shared.log ∧
      completions (station.history calls) = authors (batches stints) ∧
      List.Forall₂ Stint.Answered stints (station.run calls).2 := by
  induction schedule with
  | nil =>
    refine ⟨?_, rfl, .nil⟩
    exact Log.Still.took ⟨rfl, rfl, rfl, rfl, rfl, rfl, rfl⟩ sound idle rfl nofun
  | @cons station stint stints fits rest ih =>
    obtain ⟨first, later⟩ := List.forall_mem_append.mp whole
    obtain ⟨took, completed, answered⟩ := station.step_done sound idle fits first
    have still := (Station.step_passes station stint.call).log_passes.sound sound
    rw [← took.settings] at later
    obtain ⟨others, behind, replies⟩ := ih still took.idle later
    have parts : batches (stint :: stints) = stint.batches ++ batches stints := rfl
    refine ⟨?_, ?_, .cons answered replies⟩
    · rw [parts, List.map_append]
      exact took.append others
    · have both := completions_append (station.deeds stint.call)
        ((station.step stint.call).1.history (stints.map Stint.call))
      rw [completed, behind] at both
      rw [parts, authors, List.flatMap_append]
      exact both

end Schedule

namespace Station

variable {settings : Settings}

-- The records of all writers are committed whole and the newest of them are held. What the counters
-- say is the same for every order of the turns.
theorem whole_records_stay_whole (valid : settings.check = .ok ()) :
    ∃ fresh, create settings = .ok fresh ∧ ∀ calls,
      let start := (fresh.run calls).1
      let log := start.shared.log
      log.pending.bytes = [] →
      (∀ stints, Schedule start stints → Whole settings.terminator stints →
        let made := stints.map Stint.call
        let written := (batches stints).flatMap Prod.snd
        let surplus := log.held.length + written.length - settings.capacity
        let after := (start.run made).1.shared.log
        completions (start.history made) = authors (batches stints) ∧
        (∀ number, ((completions (start.history made)).filter (·.1 == some number)).map Prod.snd =
          (batchesOf number (batches stints)).flatten) ∧
        after.held = (log.held ++ written).drop surplus ∧
        after.tally.commits = log.tally.commits + UInt64.ofNat written.length ∧
        after.tally.evictions = log.tally.evictions + UInt64.ofNat surplus ∧
        after.generation = log.generation + UInt64.ofNat surplus ∧
        List.Forall₂ Stint.Answered stints (start.run made).2 ∧
        ∀ count,
          let middle := (start.run (made.take count)).1.shared.log
          middle.pending.bytes = [] ∧ middle.tally.discards = log.tally.discards) ∧
      ∀ stints others, Schedule start stints → Whole settings.terminator stints →
        Schedule start others → Whole settings.terminator others →
        ∀ names : Equiv.Perm Nat,
          (∀ number, batchesOf (names number) (batches others) =
            batchesOf number (batches stints)) →
          let after := (start.run (stints.map Stint.call)).1.shared.log
          let last := (start.run (others.map Stint.call)).1.shared.log
          last.tally = after.tally ∧ last.generation = after.generation ∧
          last.held.length = after.held.length ∧
          ∀ record, (∀ batch ∈ batches stints, ∀ other ∈ batch.2, other = record) →
            last.held = after.held := by
  refine ⟨_, create_eq valid, ?_⟩
  intro calls start log nothing
  obtain ⟨new, _⟩ := Log.fresh_sound valid
  have passes := (run_passes (fresh settings) calls).log_passes
  have sound : log.Sound := passes.sound new
  have same : settings = log.settings := passes.settings.symm
  have idle : log.Idle := ⟨nothing, (run_owned valid calls).none_iff.mpr nothing⟩
  rw [same]
  constructor
  · intro stints schedule whole made written surplus after
    obtain ⟨took, completed, answered⟩ := schedule.took sound idle whole
    have flat : ((batches stints).map Prod.snd).flatten = written := List.flatMap_def.symm
    have evicted : log.surplus ((batches stints).map Prod.snd) = surplus := by
      rw [Log.surplus, flat]
    have held := took.held
    have commits := congrArg Tally.commits took.tally
    have evictions := congrArg Tally.evictions took.tally
    have generation := took.generation
    rw [flat] at held commits
    rw [evicted] at held evictions generation
    refine ⟨completed, ?_, held, commits, evictions, generation, answered, ?_⟩
    · intro number
      rw [completed]
      exact authors_own number _
    · intro count middle
      obtain ⟨part, _, _⟩ := (schedule.take count).took sound idle (whole.take count)
      rw [List.map_take] at part
      have discards := congrArg Tally.discards part.tally
      exact ⟨part.idle.bytes, discards⟩
  · intro stints others schedule whole likewise again names renamed after last
    obtain ⟨took, _, _⟩ := schedule.took sound idle whole
    obtain ⟨other, _, _⟩ := likewise.took sound idle again
    -- Both took the same batches, only in another order.
    have order := batches_perm names renamed
    obtain ⟨tally, generation, length⟩ := took.alike other order
    refine ⟨tally, generation, length, ?_⟩
    intro record equal
    have all : ∀ other ∈ ((batches stints).map Prod.snd).flatten, other = record := by
      rw [← List.flatMap_def]
      intro other inside
      obtain ⟨batch, one, own⟩ := List.mem_flatMap.mp inside
      exact equal batch one other own
    exact took.alike_held other order all

-- The second and the third session take turns in two ways, and under exchanged numbers.
theorem turns_of_two_writers :
    let settings : Settings := ⟨2, 59, false, 1⟩
    let calls : List Call := [.openSession, .session 0 (.write [97, 59])]
    let stints : List Stint := [.opens, .opens, .writes 1 .plain [⟨[98, 59]⟩],
      .writes 2 .persistent [⟨[99, 59]⟩, ⟨[59]⟩], .closes 2, .drops 1]
    let others : List Stint := [.opens, .opens, .writes 1 .stream [⟨[99, 59]⟩, ⟨[59]⟩],
      .closes 1, .writes 2 .plain [⟨[98, 59]⟩], .closes 2]
    settings.check = .ok () ∧ ∃ fresh, create settings = .ok fresh ∧
      let start := (fresh.run calls).1
      let after := (start.run (stints.map Stint.call)).1.shared.log
      let last := (start.run (others.map Stint.call)).1.shared.log
      start.shared.log.pending.bytes = [] ∧ Schedule start stints ∧ Whole 59 stints ∧
        Schedule start others ∧ Whole 59 others ∧
        completions (start.history (stints.map Stint.call)) =
          [(some 1, ⟨[98, 59]⟩), (some 2, ⟨[99, 59]⟩), (some 2, ⟨[59]⟩)] ∧
        after.held = [⟨[99, 59]⟩, ⟨[59]⟩] ∧ last.held = [⟨[59]⟩, ⟨[98, 59]⟩] ∧
        after.tally.commits = 1 + 3 ∧ after.tally.evictions = 0 + 2 ∧ last.tally = after.tally := by
  intro settings calls stints others
  have valid : settings.check = .ok () := rfl
  obtain ⟨fresh, created, whole⟩ := whole_records_stay_whole valid
  cases (create_eq valid).symm.trans created
  have nothing : ((Station.fresh settings).run calls).1.shared.log.pending.bytes = [] := by
    decide +kernel
  have holds : ((Station.fresh settings).run calls).1.shared.log.held = [⟨[97, 59]⟩] := by
    decide +kernel
  have before : ((Station.fresh settings).run calls).1.shared.log.tally.commits = 1 := by
    decide +kernel
  have kept : ((Station.fresh settings).run calls).1.shared.log.tally.evictions = 0 := by
    decide +kernel
  have one : ∀ record ∈ [(⟨[98, 59]⟩ : Record)], record.Complete 59 :=
    List.forall_mem_singleton.mpr ⟨[98], rfl, by decide⟩
  have two : ∀ record ∈ [(⟨[99, 59]⟩ : Record), ⟨[59]⟩], record.Complete 59 := by
    refine List.forall_mem_cons.mpr ⟨⟨[99], rfl, by decide⟩, ?_⟩
    exact List.forall_mem_singleton.mpr ⟨[], rfl, by decide⟩
  have schedule : Schedule ((Station.fresh settings).run calls).1 stints := by
    refine .cons trivial (.cons trivial (.cons ?_ (.cons ?_ (.cons ?_ (.cons ?_ .nil)))))
    all_goals decide +kernel
  have likewise : Schedule ((Station.fresh settings).run calls).1 others := by
    refine .cons trivial (.cons trivial (.cons ?_ (.cons ?_ (.cons ?_ (.cons ?_ .nil)))))
    all_goals decide +kernel
  have wholes : Whole 59 stints :=
    List.forall_mem_cons.mpr ⟨one, List.forall_mem_singleton.mpr two⟩
  have again : Whole 59 others :=
    List.forall_mem_cons.mpr ⟨two, List.forall_mem_singleton.mpr one⟩
  have renamed : ∀ number, batchesOf (Equiv.swap 1 2 number) (batches others) =
      batchesOf number (batches stints) := by
    intro number
    by_cases first : number = 1
    · subst first
      rfl
    · by_cases second : number = 2
      · subst second
        rfl
      · rw [Equiv.swap_apply_of_ne_of_ne first second]
        simp [batchesOf, batches, stints, others, Stint.batches, Ne.symm first, Ne.symm second]
  obtain ⟨turns, orders⟩ := whole calls nothing
  obtain ⟨completed, _, held, commits, evictions, _⟩ := turns stints schedule wholes
  obtain ⟨_, _, otherwise, _⟩ := turns others likewise again
  obtain ⟨tally, _⟩ := orders stints others schedule wholes likewise again (Equiv.swap 1 2) renamed
  rw [holds] at held otherwise
  rw [before] at commits
  rw [kept, holds] at evictions
  exact ⟨valid, _, created, nothing, schedule, wholes, likewise, again, completed, held, otherwise,
    commits, evictions, tally⟩

end Station

end CircularLog
