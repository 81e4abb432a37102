import CircularLog.Proofs.History
import CircularLog.Proofs.Places

namespace CircularLog

variable {β : Type}

namespace Log

inductive Pass : Log → Deed → Log → Prop where
  | interrupted {log : Log} : Pass log .interrupted log.countInterrupt
  | looked {log : Log} : Pass log .looked log
  | opened {log : Log} : Pass log (.opened log.admitSession.2) log.admitSession.1
  | wrote {log : Log} {id : SessionId} {chunk : Bytes} (filled : chunk ≠ []) :
      Pass log (log.writing id chunk) (log.write id chunk)
  | read {log : Log} {cursor next : UInt64} {limit : Nat} {since : Option UInt64} {data : Bytes}
      (found : (log.read cursor limit since).2 = .ok (data, next)) :
      Pass log (.read data) (log.read cursor limit since).1
  | fetched {log : Log} {cursor next : UInt64} {limit : Nat} {since : Option UInt64} {data : Bytes}
      (found : (log.read cursor limit since).2 = .ok (data, next)) :
      Pass log (.fetched data) (log.read cursor limit since).1
  | positioned {log : Log} {cursor : UInt64} : Pass log (.positioned cursor) log
  | sought {log : Log} {id : SessionId} {index offset : Nat} {cursor : UInt64} :
      Pass log (.positioned cursor) (log.note (.sought id index offset cursor))
  | discarded {log : Log} {id : SessionId} :
      Pass log (.discarded id (log.discard id).2) (log.discard id).1
  | ended {log : Log} {id : SessionId} : Pass log (.ended id (log.discard id).2)
      ((log.discard id).1.note (.closed id (log.discard id).2))
  | tornDown {log : Log} : Pass log (.tornDown log.held) log.teardown.1

inductive Passes : Log → List Deed → Log → Prop where
  | nil {log : Log} : Passes log [] log
  | cons {log middle after : Log} {deed : Deed} {deeds : List Deed} :
      Pass log deed middle → Passes middle deeds after → Passes log (deed :: deeds) after

variable {log middle after : Log}

theorem Passes.append {first others : List Deed} (left : Passes log first middle)
    (right : Passes middle others after) : Passes log (first ++ others) after := by
  induction left with
  | nil => exact right
  | cons pass _ ih => exact .cons pass (ih right)

-- A read fails for no other reason than that its reader was left behind.
theorem read_fault {cursor : UInt64} {limit : Nat} {since : Option UInt64} {fault : Fault}
    (failed : (log.read cursor limit since).2 = .error fault) :
    (log.read cursor limit since).1 = log ∧ ∃ positioned, since = some positioned ∧
      positioned ≠ log.generation ∧ fault = .staleCursor positioned log.generation := by
  unfold Log.read at failed ⊢
  split at failed
  · rename_i positioned behind
    cases failed
    obtain ⟨named, other⟩ := Option.filter_eq_some_iff.mp behind
    exact ⟨rfl, positioned, named, by simpa using other, rfl⟩
  · split at failed
    · cases failed
    · cases failed

theorem locate_fault {index offset : Nat} {fault : Fault}
    (failed : log.locate index offset = .error fault) :
    ∃ cause, fault = .invalidArgument cause := by
  unfold Log.locate at failed
  cases place : Position.cursorOf log.held index offset with
  | error cause =>
    rw [place] at failed
    cases failed
    exact Position.cursorOf_refused place
  | ok cursor =>
    rw [place] at failed
    cases failed

theorem locate_found {index offset : Nat} {cursor generation : UInt64}
    (found : log.locate index offset = .ok (cursor, generation)) :
    ∃ place, Position.cursorOf log.held index offset = .ok place ∧
      cursor = UInt64.ofNat place ∧ generation = log.generation := by
  unfold Log.locate at found
  cases place : Position.cursorOf log.held index offset with
  | error fault =>
    rw [place] at found
    cases found
  | ok cursor =>
    rw [place] at found
    cases found
    exact ⟨cursor, rfl, rfl, rfl⟩

end Log

theorem Deed.ofResult_refused {found : β → Deed} {fault : Fault} (other : fault ≠ .interrupted) :
    Deed.ofResult found (.error fault) = .looked := by
  cases fault with
  | interrupted => exact absurd rfl other
  | _ => rfl

namespace SharedLog

variable {shared after : SharedLog} {handle : Option Handle}

-- Whoever enters is either sent away or let in.
theorem enter_cases {act : Log → Log × Except Fault β} {result : Except Fault β}
    (made : shared.enter handle act = (after, result)) :
    (after.log = shared.log.countInterrupt ∧ result = .error .interrupted) ∨
      (after.log = (act shared.log).1 ∧ result = (act shared.log).2) := by
  unfold enter Gate.pass at made
  split at made
  · rename_i gate found passed
    cases made
    split at passed
    · cases passed
    · cases passed
      exact .inr ⟨rfl, rfl⟩
  · rename_i gate fault passed
    cases made
    split at passed
    · cases passed
      exact .inl ⟨rfl, rfl⟩
    · cases passed

theorem enter_free (free : handle.any shared.gate.flags.isRaised = false)
    (act : Log → Log × Except Fault β) :
    shared.enter handle act =
      (⟨{ shared.gate with value := (act shared.log).1 }⟩, (act shared.log).2) := by
  unfold enter Gate.pass
  rw [free]
  rfl

theorem write_free (free : handle.any shared.gate.flags.isRaised = false) (id : SessionId)
    {chunk : Bytes} (filled : chunk ≠ []) :
    shared.write handle id chunk = (shared.adjust (·.write id chunk), .ok chunk.length) := by
  unfold write
  rw [List.isEmpty_eq_false_iff.mpr filled, if_neg Bool.false_ne_true, enter_free free]
  rfl

theorem enter_raised (raised : handle.any shared.gate.flags.isRaised = true)
    (act : Log → Log × Except Fault β) :
    (shared.enter handle act).1.log = shared.log.countInterrupt ∧
      (shared.enter handle act).2 = .error .interrupted := by
  unfold enter Gate.pass
  rw [raised]
  exact ⟨rfl, rfl⟩

theorem ask_pass {question : Log → Except Fault β}
    (other : question shared.log ≠ .error .interrupted) :
    Log.Pass shared.log (.ofResult (fun _ => .looked) (shared.ask handle question).2)
      (shared.ask handle question).1.log := by
  rcases made : shared.ask handle question with ⟨after, result⟩
  rcases enter_cases made with ⟨same, rfl⟩ | ⟨same, rfl⟩
  · dsimp only
    rw [same]
    exact .interrupted
  · dsimp only
    rw [same]
    cases told : question shared.log with
    | ok found => exact .looked
    | error fault =>
      rw [Deed.ofResult_refused (fun same => other (by rw [told, same]))]
      exact .looked

theorem fetch_pass (cursor : UInt64) (limit : Nat) (since : Option UInt64) :
    Log.Pass shared.log
      (.ofResult (fun found => .fetched found.1) (shared.read handle cursor limit since).2)
      (shared.read handle cursor limit since).1.log := by
  rcases made : shared.read handle cursor limit since with ⟨after, fault | ⟨data, next⟩⟩
  · rcases enter_cases made with ⟨same, result⟩ | ⟨same, result⟩
    · cases result
      dsimp only
      rw [same]
      exact .interrupted
    · obtain ⟨kept, _, _, _, rfl⟩ := Log.read_fault result.symm
      dsimp only
      rw [same, kept]
      exact .looked
  · rcases enter_cases made with ⟨same, result⟩ | ⟨same, result⟩
    · cases result
    · dsimp only
      rw [same]
      exact .fetched result.symm

theorem write_pass {id : SessionId} {chunk : Bytes} (filled : chunk.isEmpty = false) :
    Log.Pass shared.log
      (.ofResult (fun _ => shared.log.writing id chunk) (shared.write handle id chunk).2)
      (shared.write handle id chunk).1.log := by
  unfold write
  rw [filled, if_neg Bool.false_ne_true]
  rcases made : shared.enter handle (fun log => (log.write id chunk, .ok chunk.length)) with
    ⟨after, result⟩
  rcases enter_cases made with ⟨same, rfl⟩ | ⟨same, rfl⟩
  · dsimp only
    rw [same]
    exact .interrupted
  · dsimp only
    rw [same]
    exact .wrote (fun empty => by rw [empty] at filled; cases filled)

theorem write_passes (id : SessionId) (chunk : Bytes) :
    Log.Passes shared.log (shared.writeDeeds handle id chunk)
      (shared.write handle id chunk).1.log := by
  unfold writeDeeds
  cases filled : chunk.isEmpty with
  | true =>
    unfold write
    rw [filled]
    exact .nil
  | false => exact .cons (write_pass filled) .nil

theorem discard_pass (id : SessionId) :
    Log.Pass shared.log (.ofResult (.discarded id) (shared.discard handle id).2)
      (shared.discard handle id).1.log := by
  rcases made : shared.discard handle id with ⟨after, result⟩
  rcases enter_cases made with ⟨same, rfl⟩ | ⟨same, rfl⟩
  · dsimp only
    rw [same]
    exact .interrupted
  · dsimp only
    rw [same]
    exact .discarded

theorem teardown_pass :
    Log.Pass shared.log (.ofResult (fun _ => .tornDown shared.log.held) (shared.teardown handle).2)
      (shared.teardown handle).1.log := by
  rcases made : shared.teardown handle with ⟨after, result⟩
  rcases enter_cases made with ⟨same, rfl⟩ | ⟨same, rfl⟩
  · dsimp only
    rw [same]
    exact .interrupted
  · dsimp only
    rw [same]
    exact .tornDown

theorem readInto_shared (cursor : UInt64) (buffer : Bytes) (since : Option UInt64) :
    (shared.readInto handle cursor buffer since).1 =
      (shared.read handle cursor buffer.length since).1 := by
  unfold readInto
  split
  · rename_i made
    rw [made]
  · rename_i made
    rw [made]

theorem answer_passes (call : LogCall) :
    Log.Passes shared.log (shared.deeds handle call) (shared.answer handle call).1.log := by
  cases call with
  | write id chunk => exact write_passes id chunk
  | discard id => exact .cons (discard_pass id) .nil
  | readInto cursor buffer since =>
    have same : (shared.answer handle (.readInto cursor buffer since)).1 =
        (shared.readInto handle cursor buffer since).1 := by
      unfold answer
      dsimp only
      split
      · rename_i made
        rw [made]
      · rename_i made
        rw [made]
    rw [same, readInto_shared]
    exact .cons (fetch_pass cursor buffer.length since) .nil
  | readOut cursor limit => exact .cons (fetch_pass cursor limit none) .nil
  | locate index offset =>
    refine .cons (ask_pass ?_) .nil
    intro failed
    obtain ⟨_, other⟩ := Log.locate_fault failed
    cases other
  | extent => exact .cons (ask_pass nofun) .nil
  | held => exact .cons (ask_pass nofun) .nil
  | snapshot => exact .cons (ask_pass nofun) .nil
  | teardown => exact .cons teardown_pass .nil
  | settings => exact .nil

end SharedLog

end CircularLog
