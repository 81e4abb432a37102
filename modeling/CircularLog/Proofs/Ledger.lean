import CircularLog.Proofs.Annals
import CircularLog.Proofs.Ownership

namespace CircularLog

namespace Deed

@[simp] def accepted : Deed → Bytes
  | .wrote _ chunk _ _ => chunk
  | _ => []

@[simp] def brought : Deed → Bytes
  | .read data | .fetched data => data
  | _ => []

@[simp] def evicted : Deed → List Record
  | .wrote _ _ _ evicted => evicted
  | _ => []

@[simp] def lost : Deed → Nat
  | .discarded _ lost | .ended _ lost => lost
  | _ => 0

@[simp] def isInterrupt : Deed → Bool
  | .interrupted => true
  | _ => false

@[simp] def tearsDown : Deed → Bool
  | .tornDown _ => true
  | _ => false

end Deed

namespace Tally

def ofDeeds (deeds : List Deed) : Tally where
  writes := UInt64.ofNat (deeds.countP (!·.accepted.isEmpty))
  bytesWritten := UInt64.ofNat (deeds.flatMap Deed.accepted).length
  reads := UInt64.ofNat (deeds.countP (!·.brought.isEmpty))
  bytesRead := UInt64.ofNat (deeds.flatMap Deed.brought).length
  commits := UInt64.ofNat (deeds.flatMap Deed.committed).length
  evictions := UInt64.ofNat (deeds.flatMap Deed.evicted).length
  discards := UInt64.ofNat (deeds.countP (·.lost != 0))
  interrupts := UInt64.ofNat (deeds.countP Deed.isInterrupt)

def enter (tally : Tally) (deed : Deed) : Tally where
  writes := tally.writes + UInt64.ofNat (!deed.accepted.isEmpty).toNat
  bytesWritten := tally.bytesWritten + UInt64.ofNat deed.accepted.length
  reads := tally.reads + UInt64.ofNat (!deed.brought.isEmpty).toNat
  bytesRead := tally.bytesRead + UInt64.ofNat deed.brought.length
  commits := tally.commits + UInt64.ofNat deed.committed.length
  evictions := tally.evictions + UInt64.ofNat deed.evicted.length
  discards := tally.discards + UInt64.ofNat (deed.lost != 0).toNat
  interrupts := tally.interrupts + UInt64.ofNat deed.isInterrupt.toNat

theorem ofDeeds_concat (deeds : List Deed) (deed : Deed) :
    ofDeeds (deeds ++ [deed]) = (ofDeeds deeds).enter deed := by
  have one : ∀ found : Bool, (if found = true then 1 else 0) = found.toNat := by decide
  simp only [ofDeeds, enter, List.countP_append, List.countP_singleton, List.flatMap_append,
    List.flatMap_singleton, List.length_append, UInt64.ofNat_add, one]

end Tally

-- What is complete and what is left of some bytes is all that came before and the bytes.
theorem Pending.joined_append (pending : Pending) (chunk : Bytes) :
    joined (pending.append chunk).2.records ++ (pending.append chunk).1.bytes =
      pending.bytes ++ chunk := by
  have whole := flatten_cut pending.terminator chunk
  unfold append bytes
  rcases pieces : cut pending.terminator chunk with ⟨_ | ⟨first, others⟩, rest⟩
  · rw [pieces] at whole
    simpa [Appended.records, joined] using whole
  · rw [pieces] at whole
    simpa [Appended.records, joined, List.flatMap_map] using whole

theorem Pending.length_bytes (pending : Pending) : pending.bytes.length = pending.size :=
  List.length_reverse

theorem Annals.follow_tearless (annals : Annals) {deed : Deed} (tearless : deed.tearsDown = false) :
    annals.follow deed = ⟨annals.committed ++ deed.committed, annals.released ++ deed.evicted,
      annals.releases + deed.evicted.length⟩ := by
  cases deed with
  | tornDown released => cases tearless
  | wrote id chunk committed evicted => rfl
  | _ => simp [follow, Deed.committed]

namespace Log

variable {log middle after : Log} {deed : Deed} {deeds others : List Deed}

theorem read_tally {cursor next : UInt64} {limit : Nat} {since : Option UInt64} {data : Bytes}
    (found : (log.read cursor limit since).2 = .ok (data, next)) :
    (log.read cursor limit since).1.tally = log.tally.countRead data.length := by
  unfold read at found ⊢
  split at found
  · cases found
  · split at found
    · cases found
      simp [note, Tally.countRead]
    · cases found
      rfl

theorem countRead_eq (tally : Tally) (data : Bytes) :
    tally.countRead data.length = { tally with
      reads := tally.reads + UInt64.ofNat (!data.isEmpty).toNat
      bytesRead := tally.bytesRead + UInt64.ofNat data.length } := by
  cases data <;> simp [Tally.countRead]

theorem discard_tally {reading : Reading (SessionId × UInt8)} (owned : log.Owned reading)
    (id : SessionId) :
    (log.discard id).1.tally = { log.tally with
      discards := log.tally.discards + UInt64.ofNat ((log.discard id).2 != 0).toNat } := by
  by_cases contributor : id ∈ log.contributors
  · have some : (log.pending.size != 0) = true :=
      bne_iff_ne.mpr (Nat.ne_of_gt (owned.size_positive contributor))
    simp [discard_lost contributor, some, note, Tally.countDiscard]
  · simp [discard_kept contributor]

-- Each deed is entered in the counters as it happens.
theorem Pass.tally {reading : Reading (SessionId × UInt8)} (pass : Pass log deed after)
    (owned : log.Owned reading) : after.tally = log.tally.enter deed := by
  unfold Tally.enter Deed.committed
  cases pass with
  | interrupted => simp [countInterrupt, Tally.countInterrupt]
  | looked => simp
  | opened => simp [admitSession, note]
  | @wrote id chunk filled =>
    have some : chunk.isEmpty = false := List.isEmpty_eq_false_iff.mpr filled
    obtain ⟨journal, written⟩ := write_eq log id chunk
    rw [written]
    simp [writing, some, Tally.countCommits, Tally.countWrite]
  | read found => simp [read_tally found, countRead_eq]
  | fetched found => simp [read_tally found, countRead_eq]
  | positioned => simp
  | sought => simp [note]
  | discarded => simp [discard_tally owned]
  | ended => simp [note, discard_tally owned]
  | tornDown => simp [teardown, note]

theorem Passes.tally {reading : Reading (SessionId × UInt8)} {past : List Deed}
    (passes : Passes log deeds after) (sound : log.Sound) (owned : log.Owned reading)
    (entered : log.tally = Tally.ofDeeds past) : after.tally = Tally.ofDeeds (past ++ deeds) := by
  induction passes generalizing past reading with
  | nil => simpa using entered
  | @cons log middle after deed deeds pass _ ih =>
    have next : middle.tally = Tally.ofDeeds (past ++ [deed]) := by
      rw [Tally.ofDeeds_concat, ← entered]
      exact pass.tally owned
    simpa using ih (pass.sound sound) (pass.owned sound owned) next

end Log

-- What a teardown answered, and how many bytes it took away, complete or under way.
structure Teardown where
  released : Nat
  bytes : Nat
  deriving DecidableEq, Repr

namespace Log

-- The bytes a log has to account for, complete or under way.
def bytesKept (log : Log) : Nat :=
  log.heldBytes + log.pending.size

-- What some deeds brought in has gone out again or is still there.
structure Balance (log : Log) (deeds : List Deed) (teardowns : List Teardown) (after : Log) :
    Prop where
  records : (deeds.flatMap Deed.evicted).length + (teardowns.map Teardown.released).sum +
    after.held.length = log.held.length + (deeds.flatMap Deed.committed).length
  bytes : totalSize (deeds.flatMap Deed.evicted) + (deeds.map Deed.lost).sum +
    (teardowns.map Teardown.bytes).sum + after.bytesKept =
      log.bytesKept + (deeds.flatMap Deed.accepted).length
  generation : after.generation = log.generation + UInt64.ofNat
    ((deeds.flatMap Deed.evicted).length + teardowns.countP (0 < ·.released))

theorem Balance.nil : Balance log [] [] log := by
  constructor <;> simp [totalSize]

theorem Balance.append {first second : List Teardown} (left : Balance log deeds first middle)
    (right : Balance middle others second after) :
    Balance log (deeds ++ others) (first ++ second) after := by
  obtain ⟨records, bytes, generation⟩ := left
  obtain ⟨records', bytes', generation'⟩ := right
  refine ⟨?_, ?_, ?_⟩
  · simp only [List.flatMap_append, List.map_append, List.sum_append, List.length_append]
    omega
  · simp only [List.flatMap_append, List.map_append, List.sum_append, List.length_append,
      totalSize_append]
    omega
  · rw [generation', generation, UInt64.add_assoc, ← UInt64.ofNat_add]
    simp only [List.flatMap_append, List.length_append, List.countP_append]
    congr 2
    omega

theorem discard_size (log : Log) (id : SessionId) :
    (log.discard id).2 + (log.discard id).1.pending.size = log.pending.size := by
  by_cases contributor : id ∈ log.contributors
  · simp [discard_lost contributor, note, Pending.discard, Pending.size]
  · simp [discard_kept contributor]

theorem Pass.pending_size (pass : Pass log deed after) (tearless : deed.tearsDown = false) :
    deed.lost + totalSize deed.committed + after.pending.size =
      log.pending.size + deed.accepted.length := by
  cases pass.change with
  | still keeps same =>
    obtain ⟨lost, committed, accepted⟩ :
        deed.lost = 0 ∧ deed.committed = [] ∧ deed.accepted = [] := by
      cases deed <;> first | exact ⟨rfl, rfl, rfl⟩ | cases keeps
    rw [lost, committed, accepted, same.pending]
    simp [totalSize]
  | @wrote id chunk filled =>
    obtain ⟨journal, written⟩ := write_eq log id chunk
    have sizes := congrArg List.length (log.pending.joined_append chunk)
    rw [written]
    simp only [List.length_append, length_joined, Pending.length_bytes] at sizes
    simp only [writing, Deed.lost, Deed.committed, Deed.accepted]
    omega
  | gaveUp gives same =>
    rw [same.pending]
    rcases gives with rfl | rfl <;> simp [Deed.committed, totalSize, discard_size]
  | tornDown => cases tearless

theorem Pass.balance (pass : Pass log deed after) (sound : log.Sound)
    (tearless : deed.tearsDown = false) : Balance log [deed] [] after := by
  have kept := pass.keeps sound log.keeps_now
  rw [Annals.follow_tearless _ tearless] at kept
  have moved : deed.evicted ++ after.held = log.held ++ deed.committed := kept.held
  have counts := congrArg List.length moved
  have sizes := congrArg totalSize moved
  have pending := pass.pending_size tearless
  simp only [List.length_append, totalSize_append] at counts sizes
  refine ⟨?_, ?_, ?_⟩
  · simpa using counts
  · simp only [bytesKept, heldBytes, List.flatMap_singleton, List.map_singleton, List.map_nil,
      List.sum_singleton, List.sum_nil]
    omega
  · rw [kept.generation, UInt64.ofNat_add, UInt64.ofNat_toNat]
    simp

theorem teardown_balance (sound : log.Sound) :
    Balance log [.tornDown log.held] [⟨log.held.length, log.bytesKept⟩] log.teardown.1 := by
  obtain ⟨holds, count⟩ := sound.ring.clear_empty
  have empty : log.teardown.1.held = [] := holds.toList_eq
  refine ⟨?_, ?_, ?_⟩
  · simp [empty, Deed.committed]
  · rw [bytesKept, bytesKept, heldBytes, heldBytes, empty]
    simp [teardown, note, Pending.discard, Pending.size, totalSize]
  · simp only [teardown, note, count]
    cases log.held <;> simp

theorem Passes.balance (passes : Passes log deeds after) (sound : log.Sound)
    (tearless : ∀ deed ∈ deeds, deed.tearsDown = false) : Balance log deeds [] after := by
  induction passes with
  | nil => exact .nil
  | cons pass _ ih =>
    have first := pass.balance sound (tearless _ List.mem_cons_self)
    have others := ih (pass.sound sound) fun deed inside =>
      tearless deed (List.mem_cons_of_mem _ inside)
    exact first.append others

end Log

theorem Visit.tearless {log after : Log} {session moved : Session} {deed : Deed}
    (visit : Visit log session deed after moved) : deed.tearsDown = false := by
  cases visit with
  | aside pass leaves => cases deed <;> first | rfl | cases leaves
  | _ => rfl

theorem Visits.tearless {log after : Log} {session moved : Session} {deeds : List Deed}
    (visits : Visits log session deeds after moved) : ∀ deed ∈ deeds, deed.tearsDown = false := by
  induction visits with
  | nil => exact nofun
  | cons _ visit _ ih => exact List.forall_mem_cons.mpr ⟨visit.tearless, ih⟩

theorem Deed.ofResult_tearless {β : Type} {found : β → Deed}
    (all : ∀ result, (found result).tearsDown = false) (result : Except Fault β) :
    (Deed.ofResult found result).tearsDown = false := by
  simpa using Deed.ofResult_all (!·.tearsDown) rfl rfl (by simpa using all) result

namespace SharedLog

theorem burstDeeds_tearless (times : Nat) (chunk : Bytes) (writers : Nat) (shared : SharedLog) :
    ∀ deed ∈ shared.burstDeeds times chunk writers, deed.tearsDown = false := by
  induction writers with
  | zero => exact nofun
  | succ writers ih =>
    intro deed inside
    rcases List.mem_append.mp inside with before | last
    · exact ih deed before
    · have live : (Channel.ofShared (Nat.repeat (burstOnce times chunk) writers shared)
          none).session.ended = false := rfl
      obtain ⟨writes, _⟩ := Channel.repeat_makes live chunk times
      rcases List.mem_cons.mp last with rfl | own
      · rfl
      · exact (writes.append (Channel.release_makes none)).tearless deed own

theorem deeds_tearless (shared : SharedLog) (handle : Option Handle) {call : LogCall}
    (other : call ≠ .teardown) : ∀ deed ∈ shared.deeds handle call, deed.tearsDown = false := by
  intro deed inside
  cases call with
  | write id chunk =>
    simp only [deeds, writeDeeds] at inside
    split at inside
    · cases inside
    · rw [List.mem_singleton.mp inside]
      exact Deed.ofResult_tearless (fun _ => rfl) _
  | teardown => exact absurd rfl other
  | settings => cases inside
  | _ =>
    rw [List.mem_singleton.mp inside]
    exact Deed.ofResult_tearless (fun _ => rfl) _

end SharedLog

namespace Station

variable {station : Station}

def teardown? (station : Station) (call : Call) : Option Teardown :=
  match call, (station.step call).2 with
  | .log _ .teardown, .count released => some ⟨released, station.shared.log.bytesKept⟩
  | _, _ => none

def teardowns (station : Station) : List Call → List Teardown
  | [] => []
  | call :: calls => (station.teardown? call).toList ++ (station.step call).1.teardowns calls

theorem teardown?_none (station : Station) {call : Call}
    (other : ∀ handle, call ≠ .log handle .teardown) : station.teardown? call = none := by
  unfold teardown?
  split
  · rename_i handle released told
    exact absurd rfl (other handle)
  · rfl

theorem visitDeeds_tearless {number : Nat} {deeds : Channel → List Deed}
    (tearless : ∀ channel : Channel, channel.session.ended = false →
      ∀ deed ∈ deeds channel, deed.tearsDown = false) :
    ∀ entry ∈ station.visitDeeds number deeds, entry.2.tearsDown = false := by
  intro entry inside
  unfold visitDeeds at inside
  cases found : station.session? number with
  | none =>
    rw [found] at inside
    cases inside
  | some session =>
    rw [found] at inside
    obtain ⟨deed, own, rfl⟩ := List.mem_map.mp inside
    exact tearless ⟨station.shared, session⟩ (session?_some found).2 deed own

theorem deeds_tearless (station : Station) {call : Call}
    (other : ∀ handle, call ≠ .log handle .teardown) :
    ∀ entry ∈ station.deeds call, entry.2.tearsDown = false := by
  intro entry inside
  cases call with
  | openSession =>
    rw [List.mem_singleton.mp inside]
    rfl
  | session number call =>
    exact visitDeeds_tearless (fun _ live => (Channel.answer_makes live call).tearless) entry inside
  | stream number call =>
    exact visitDeeds_tearless (fun _ live => (Channel.answerStream_makes live call).tearless)
      entry inside
  | log handle call =>
    obtain ⟨deed, own, rfl⟩ := List.mem_map.mp inside
    exact station.shared.deeds_tearless handle (fun same => other handle (congrArg _ same)) deed own
  | handle handle call => cases inside
  | burst writers times chunk =>
    obtain ⟨deed, own, rfl⟩ := List.mem_map.mp inside
    exact SharedLog.burstDeeds_tearless times chunk writers station.shared deed own

theorem teardown_balance (sound : station.shared.log.Sound) (handle : Option Handle) :
    let call := Call.log handle .teardown
    station.shared.log.Balance ((station.deeds call).map Prod.snd) (station.teardown? call).toList
      (station.step call).1.shared.log := by
  intro call
  rcases made : station.shared.teardown handle with ⟨after, result⟩
  have deeds : (station.deeds call).map Prod.snd =
      [.ofResult (fun _ => .tornDown station.shared.log.held) result] := by
    simp [call, Station.deeds, SharedLog.deeds, made]
  have step : station.step call = ({ station with shared := after }, .ofResult .count result) := by
    simp [call, Station.step, SharedLog.answer, made]
  unfold teardown?
  rw [deeds, step]
  rcases SharedLog.enter_cases made with ⟨same, rfl⟩ | ⟨same, rfl⟩
  · dsimp only
    rw [same]
    exact Log.Pass.interrupted.balance sound rfl
  · have count : station.shared.log.teardown.2 = station.shared.log.held.length :=
      sound.ring.clear_empty.2
    dsimp only
    rw [same]
    simp only [Reply.ofResult, Deed.ofResult, count]
    exact Log.teardown_balance sound

theorem step_balance (sound : station.shared.log.Sound) (call : Call) :
    station.shared.log.Balance ((station.deeds call).map Prod.snd) (station.teardown? call).toList
      (station.step call).1.shared.log := by
  by_cases tears : ∃ handle, call = .log handle .teardown
  · obtain ⟨handle, rfl⟩ := tears
    exact teardown_balance sound handle
  · have other : ∀ handle, call ≠ .log handle .teardown := fun handle same => tears ⟨handle, same⟩
    have tearless : ∀ deed ∈ (station.deeds call).map Prod.snd, deed.tearsDown = false := by
      intro deed inside
      obtain ⟨entry, own, rfl⟩ := List.mem_map.mp inside
      exact station.deeds_tearless other entry own
    rw [station.teardown?_none other]
    exact (step_passes station call).log_passes.balance sound tearless

theorem run_balance (sound : station.shared.log.Sound) (calls : List Call) :
    station.shared.log.Balance ((station.history calls).map Prod.snd) (station.teardowns calls)
      (station.run calls).1.shared.log := by
  induction calls generalizing station with
  | nil => exact .nil
  | cons call calls ih =>
    have first := step_balance sound call
    have still := (step_passes station call).log_passes.sound sound
    unfold history
    rw [List.map_append]
    exact first.append (ih still)

variable {settings : Settings}

-- Records and bytes are neither lost nor made, and the counters tell where they went.
theorem books_balance (valid : settings.check = .ok ()) :
    ∃ start, create settings = .ok start ∧ ∀ calls,
      let after := (start.run calls).1
      let deeds := (start.history calls).map Prod.snd
      let teardowns := start.teardowns calls
      ∃ snapshot generation,
        (after.step (.log none .snapshot)).2 = .snapshot snapshot ∧
        (after.step (.log none .extent)).2 = .pair snapshot.heldBytes generation ∧
        let tally := snapshot.tally
        tally = Tally.ofDeeds deeds ∧
        tally.commits = tally.evictions + UInt64.ofNat snapshot.heldRecords +
          UInt64.ofNat (teardowns.map Teardown.released).sum ∧
        generation = tally.evictions + UInt64.ofNat (teardowns.countP (0 < ·.released)) ∧
        tally.bytesWritten = UInt64.ofNat (snapshot.heldBytes + snapshot.pendingBytes +
          totalSize (deeds.flatMap Deed.evicted) + (deeds.map Deed.lost).sum +
          (teardowns.map Teardown.bytes).sum) := by
  refine ⟨_, create_eq valid, ?_⟩
  intro calls after deeds teardowns
  obtain ⟨sound, empty⟩ := Log.fresh_sound valid
  have passes := (run_passes (fresh settings) calls).log_passes
  have entered : after.shared.log.tally = Tally.ofDeeds ([] ++ deeds) :=
    passes.tally sound Log.fresh_owned rfl
  have balance : Log.Balance (Log.fresh settings) deeds teardowns after.shared.log :=
    run_balance (show (fresh settings).shared.log.Sound from sound) calls
  have size : after.shared.log.ring.size = after.shared.log.held.length :=
    (passes.sound sound).ring.size_eq
  have nothing : (Log.fresh settings).bytesKept = 0 := by
    rw [Log.bytesKept, Log.heldBytes, empty]
    rfl
  obtain ⟨records, bytes, generation⟩ := balance
  rw [List.nil_append] at entered
  rw [empty, List.length_nil, Nat.zero_add] at records
  rw [nothing, Nat.zero_add] at bytes
  refine ⟨after.shared.log.snapshot, after.shared.log.generation, rfl, rfl, entered, ?_, ?_, ?_⟩
  · simp only [Log.snapshot, entered, Tally.ofDeeds, size]
    rw [← UInt64.ofNat_add, ← UInt64.ofNat_add, ← records]
    congr 1
    omega
  · simp only [Log.snapshot, entered, Tally.ofDeeds]
    rw [generation, ← UInt64.ofNat_add]
    exact UInt64.zero_add _
  · simp only [Log.snapshot, entered, Tally.ofDeeds]
    rw [← bytes, Log.bytesKept]
    congr 1
    omega

-- One slot: a write that evicts its own record, a close that is interrupted and made up for by its
-- drop, and a teardown with bytes under way.
theorem books_of_one_slot :
    let settings : Settings := ⟨1, 59, false, 1⟩
    let calls : List Call := [.openSession, .openSession, .session 0 (.write [97, 59, 98, 59, 99]),
      .stream 1 (.readExact 1), .handle (some (.session 0)) .raise, .session 0 .close,
      .session 1 (.write [100]), .log none .teardown]
    settings.check = .ok () ∧ ∃ start, create settings = .ok start ∧
      start.teardowns calls = [⟨1, 3⟩] ∧
      ∃ snapshot, ((start.run calls).1.step (.log none .snapshot)).2 = .snapshot snapshot ∧
        snapshot.tally = ⟨2, 6, 1, 1, 2, 1, 1, 1⟩ ∧
        snapshot.tally.commits = snapshot.tally.evictions +
          UInt64.ofNat snapshot.heldRecords + UInt64.ofNat 1 := by
  intro settings calls
  have valid : settings.check = .ok () := rfl
  obtain ⟨start, created, books⟩ := books_balance valid
  obtain ⟨snapshot, _, told, _, tally, commits, _⟩ := books calls
  cases (create_eq valid).symm.trans created
  have teardowns : teardowns (fresh settings) calls = [⟨1, 3⟩] := by decide +kernel
  rw [teardowns] at commits
  refine ⟨valid, _, created, teardowns, snapshot, told, ?_, commits⟩
  rw [tally]
  decide +kernel

end Station

end CircularLog
