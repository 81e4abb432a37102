import CircularLog.Proofs.Records
import CircularLog.Ring.Walk
import Mathlib.Data.Nat.ModEq

namespace CircularLog

namespace Ring

variable {α : Type} {ring : Ring α} {items : List α}

-- Seen from the read index and around the ring, the slots hold `items` and then nothing. The flag
-- is needed only where the two indices meet.
structure Holds (ring : Ring α) (items : List α) : Prop where
  read : ring.readIndex < ring.capacity
  bounded : items.length ≤ ring.capacity
  write : ring.writeIndex = (ring.readIndex + items.length) % ring.capacity
  full : ring.full = decide (items.length = ring.capacity)
  slots : ∀ place < ring.capacity,
    ring.slots[(ring.readIndex + place) % ring.capacity]? = some items[place]?

theorem place_unique {origin left right around : Nat} (less : left < around) (more : right < around)
    (same : (origin + left) % around = (origin + right) % around) : left = right :=
  (Nat.ModEq.add_left_cancel' origin same).eq_of_lt_of_lt less more

theorem once_around {origin around : Nat} (inside : origin < around) :
    (origin + around) % around = origin := by
  rw [Nat.add_mod_right, Nat.mod_eq_of_lt inside]

theorem taken_in_turn (items : List α) (first count : Nat) :
    (List.range' first count).filterMap (fun index => items[index]?) =
      (items.drop first).take count := by
  induction count generalizing first with
  | zero => simp
  | succ count ih =>
    rw [List.range'_succ]
    cases found : items[first]? with
    | none =>
      have beyond : items.length ≤ first := List.getElem?_eq_none_iff.mp found
      rw [List.filterMap_cons_none found, ih]
      simp [List.drop_eq_nil_of_le beyond, List.drop_eq_nil_of_le (Nat.le_succ_of_le beyond)]
    | some item =>
      obtain ⟨inside, same⟩ := List.getElem?_eq_some_iff.mp found
      rw [List.filterMap_cons_some found, ih, List.drop_eq_getElem_cons inside, same,
        List.take_succ_cons]

@[simp] theorem capacity_push (ring : Ring α) (item : α) :
    (ring.push item).1.capacity = ring.capacity := by
  simp [push, Ring.capacity]

@[simp] theorem capacity_clear (ring : Ring α) : ring.clear.1.capacity = ring.capacity := by
  simp [clear, Ring.capacity]

theorem empty_holds {capacity : Nat} (positive : 0 < capacity) :
    (⟨Array.replicate capacity none, 0, 0, false⟩ : Ring α).Holds [] := by
  refine ⟨?_, Nat.zero_le _, ?_, ?_, ?_⟩
  · simpa [Ring.capacity] using positive
  · simp [Ring.capacity]
  · simp [Ring.capacity, Nat.ne_of_lt positive]
  · intro place inside
    have slot : place % capacity < capacity := Nat.mod_lt _ positive
    simp [Ring.capacity, slot]

theorem create_holds {capacity : Nat} (created : create capacity = .ok ring) :
    ring.Holds [] ∧ ring.capacity = capacity := by
  unfold create at created
  split at created
  · cases created
  · rename_i nonzero
    cases created
    exact ⟨empty_holds (Nat.pos_of_ne_zero nonzero), by simp [Ring.capacity]⟩

namespace Holds

theorem positive (holds : ring.Holds items) : 0 < ring.capacity :=
  Nat.lt_of_le_of_lt (Nat.zero_le _) holds.read

theorem start (holds : ring.Holds items) : (ring.readIndex + 0) % ring.capacity = ring.readIndex :=
  Nat.mod_eq_of_lt holds.read

theorem size_eq (holds : ring.Holds items) : ring.size = items.length := by
  unfold size
  rw [holds.full]
  by_cases brim : items.length = ring.capacity
  · simp [brim]
  · have room : items.length < ring.capacity := Nat.lt_of_le_of_ne holds.bounded brim
    have inside := holds.read
    simp only [brim, decide_false, Bool.false_eq_true, if_false]
    rw [holds.write]
    -- The run either ends before the last slot or goes on from the first one.
    rcases Nat.lt_or_ge (ring.readIndex + items.length) ring.capacity with short | wraps
    · have ahead : ring.readIndex + items.length + ring.capacity - ring.readIndex =
          items.length + ring.capacity := by omega
      rw [Nat.mod_eq_of_lt short, ahead, once_around room]
    · have behind : ring.readIndex + items.length - ring.capacity < ring.capacity := by omega
      have back : ring.readIndex + items.length - ring.capacity + ring.capacity - ring.readIndex =
          items.length := by omega
      rw [Nat.mod_eq_sub_mod wraps, Nat.mod_eq_of_lt behind, back, Nat.mod_eq_of_lt room]

theorem isFull_eq (holds : ring.Holds items) :
    ring.isFull = decide (items.length = ring.capacity) := holds.full

theorem meet_iff (holds : ring.Holds items) :
    ring.writeIndex = ring.readIndex ↔ items.length = ring.capacity ∨ items = [] := by
  rw [holds.write]
  constructor
  · intro meet
    rcases Nat.lt_or_eq_of_le holds.bounded with room | brim
    · right
      have again : (ring.readIndex + items.length) % ring.capacity =
          (ring.readIndex + 0) % ring.capacity := by
        rw [meet, Nat.add_zero, Nat.mod_eq_of_lt holds.read]
      exact List.length_eq_zero_iff.mp (place_unique room holds.positive again)
    · exact .inl brim
  · rintro (brim | rfl)
    · rw [brim, once_around holds.read]
    · exact Nat.mod_eq_of_lt holds.read

theorem isEmpty_eq (holds : ring.Holds items) : ring.isEmpty = items.isEmpty := by
  unfold isEmpty
  rw [holds.full]
  cases items with
  | nil =>
    have meet := holds.meet_iff.mpr (.inr rfl)
    simp [meet, Nat.ne_of_lt holds.positive]
  | cons first others =>
    by_cases brim : (first :: others).length = ring.capacity
    · simp [brim]
    · have apart : ring.writeIndex ≠ ring.readIndex := by
        intro meet
        rcases holds.meet_iff.mp meet with full | empty
        · exact brim full
        · cases empty
      simp [apart]

theorem get?_eq (holds : ring.Holds items) (index : Nat) : ring.get? index = items[index]? := by
  unfold get?
  rw [holds.size_eq]
  split
  · rename_i held
    rw [holds.slots index (Nat.lt_of_lt_of_le held holds.bounded)]
    rfl
  · rename_i beyond
    exact (List.getElem?_eq_none (Nat.le_of_not_lt beyond)).symm

theorem toList_eq (holds : ring.Holds items) : ring.toList = items := by
  have looks : ring.get? = fun index => items[index]? := funext holds.get?_eq
  rw [toList, looks, holds.size_eq, List.range_eq_range', taken_in_turn, List.drop_zero,
    List.take_length]

theorem write_bounded (holds : ring.Holds items) : ring.writeIndex < ring.capacity := by
  rw [holds.write]
  exact Nat.mod_lt _ holds.positive

theorem slot_push (holds : ring.Holds items) (item : α) (slot : Nat) :
    (ring.push item).1.slots[slot]? =
      if slot = ring.writeIndex then some (some item) else ring.slots[slot]? := by
  have inside : ring.writeIndex < ring.slots.size := holds.write_bounded
  rw [push, Array.getElem?_setIfInBounds, if_pos inside]
  by_cases same : slot = ring.writeIndex
  · rw [if_pos same.symm, if_pos same]
  · rw [if_neg (Ne.symm same), if_neg same]

-- A push onto a full ring writes over the oldest item, where the run begins and ends, and the run
-- then begins one slot later.
theorem push_full (holds : ring.Holds items) (brim : items.length = ring.capacity) (item : α) :
    (ring.push item).1.Holds (items.tail ++ [item]) ∧ (ring.push item).2 = items.head? := by
  have positive := holds.positive
  have meet : ring.writeIndex = ring.readIndex := holds.meet_iff.mpr (.inl brim)
  have full : ring.full = true := by simp [holds.full, brim]
  have length : (items.tail ++ [item]).length = ring.capacity := by
    simp only [List.length_append, List.length_tail, List.length_singleton]
    omega
  have next : ring.advance ring.readIndex < ring.capacity := Nat.mod_lt _ positive
  have begins : (ring.push item).1.readIndex = ring.advance ring.readIndex := if_pos full
  have ends : (ring.push item).1.writeIndex = ring.advance ring.readIndex := by
    rw [← meet]
    rfl
  refine ⟨⟨?_, ?_, ?_, ?_, ?_⟩, ?_⟩
  · rw [begins, capacity_push]
    exact next
  · rw [capacity_push, length]
  · rw [begins, ends, capacity_push, length, once_around next]
  · rw [capacity_push, length]
    simp [push, full, meet]
  · intro place less
    rw [capacity_push] at less
    have later : (ring.advance ring.readIndex + place) % ring.capacity =
        (ring.readIndex + (place + 1)) % ring.capacity := by
      rw [advance, Nat.mod_add_mod, Nat.add_assoc, Nat.add_comm 1]
    rw [begins, capacity_push, later, holds.slot_push, meet]
    -- Every slot but the one written over holds what it held, one place nearer to the front.
    rcases Nat.lt_or_eq_of_le (Nat.succ_le_of_lt less) with before | last
    · have apart : (ring.readIndex + (place + 1)) % ring.capacity ≠ ring.readIndex := by
        intro same
        cases place_unique before positive (same.trans holds.start.symm)
      have old : place < items.tail.length := by
        rw [List.length_tail]
        omega
      rw [if_neg apart, holds.slots _ before, List.getElem?_append_left old, List.getElem?_tail]
    · have newest : place = items.tail.length := by
        rw [List.length_tail]
        omega
      rw [if_pos (by rw [← Nat.succ_eq_add_one, last, once_around holds.read]), newest,
        List.getElem?_concat_length]
  · have oldest := holds.slots 0 positive
    have gone : (ring.push item).2 = (ring.slots[ring.readIndex]?).join := if_pos full
    rw [holds.start] at oldest
    rw [gone, oldest, List.head?_eq_getElem?]
    rfl

theorem push_room (holds : ring.Holds items) (room : items.length < ring.capacity) (item : α) :
    (ring.push item).1.Holds (items ++ [item]) ∧ (ring.push item).2 = none := by
  have full : ring.full = false := by simp [holds.full, Nat.ne_of_lt room]
  have begins : (ring.push item).1.readIndex = ring.readIndex := by simp [push, full]
  have ends : (ring.push item).1.writeIndex =
      (ring.readIndex + (items.length + 1)) % ring.capacity := by
    rw [← Nat.add_assoc, ← Nat.mod_add_mod, ← holds.write]
    rfl
  have length : (items ++ [item]).length = items.length + 1 := List.length_append
  refine ⟨⟨?_, ?_, ?_, ?_, ?_⟩, ?_⟩
  · rw [begins, capacity_push]
    exact holds.read
  · rw [capacity_push, length]
    exact room
  · rw [begins, ends, capacity_push, length]
  · have flag : (ring.push item).1.full =
        ((ring.push item).1.writeIndex == (ring.push item).1.readIndex) := rfl
    rw [capacity_push, length, flag, begins, ends]
    -- The indices meet again only behind the last free slot.
    rcases Nat.lt_or_eq_of_le (Nat.succ_le_of_lt room) with more | brim
    · have apart : (ring.readIndex + (items.length + 1)) % ring.capacity ≠ ring.readIndex := by
        intro same
        cases place_unique more holds.positive (same.trans holds.start.symm)
      simp [apart, Nat.ne_of_lt more]
    · rw [Nat.succ_eq_add_one] at brim
      simp [brim, once_around holds.read]
  · intro place less
    rw [capacity_push] at less
    rw [begins, capacity_push, holds.slot_push, holds.write]
    by_cases newest : place = items.length
    · rw [if_pos (by rw [newest]), newest, List.getElem?_concat_length]
    · have apart : (ring.readIndex + place) % ring.capacity ≠
          (ring.readIndex + items.length) % ring.capacity :=
        fun same => newest (place_unique less room same)
      rw [if_neg apart, holds.slots place less]
      rcases Nat.lt_or_gt_of_ne newest with old | beyond
      · rw [List.getElem?_append_left old]
      · rw [List.getElem?_eq_none (Nat.le_of_lt beyond),
          List.getElem?_eq_none (by rw [length]; exact beyond)]
  · simp [push, full]

theorem clear_empty (holds : ring.Holds items) :
    ring.clear.1.Holds [] ∧ ring.clear.2 = items.length :=
  ⟨empty_holds holds.positive, holds.size_eq⟩

theorem push_kept (holds : ring.Holds items) (item : α) :
    ∃ kept, (ring.push item).1.Holds kept ∧ (ring.push item).2.toList ++ kept = items ++ [item] ∧
      kept.length = min ring.capacity (items.length + 1) := by
  rcases Nat.lt_or_eq_of_le holds.bounded with room | brim
  · obtain ⟨kept, gone⟩ := holds.push_room room item
    refine ⟨_, kept, by simp [gone], ?_⟩
    rw [List.length_append, Nat.min_eq_right room, List.length_singleton]
  · obtain ⟨kept, gone⟩ := holds.push_full brim item
    have positive := holds.positive
    refine ⟨_, kept, ?_, ?_⟩
    · cases items with
      | nil => cases brim.trans_gt positive
      | cons first others => simp [gone]
    · simp only [List.length_append, List.length_tail, List.length_singleton]
      omega

end Holds

def pushAll (ring : Ring α) : List α → Ring α × List α
  | [] => (ring, [])
  | item :: more =>
    let (after, gone) := ring.push item
    let (last, others) := after.pushAll more
    (last, gone.toList ++ others)

@[simp] theorem capacity_pushAll (ring : Ring α) (more : List α) :
    (ring.pushAll more).1.capacity = ring.capacity := by
  induction more generalizing ring with
  | nil => rfl
  | cons item more ih => exact (ih _).trans (capacity_push ring item)

theorem Holds.pushAll_kept (holds : ring.Holds items) (more : List α) :
    ∃ kept, (ring.pushAll more).1.Holds kept ∧ (ring.pushAll more).2 ++ kept = items ++ more ∧
      kept.length = min ring.capacity (items.length + more.length) := by
  induction more generalizing ring items with
  | nil => exact ⟨items, holds, by simp [pushAll], by simpa using holds.bounded⟩
  | cons item more ih =>
    obtain ⟨middle, first, parts, length⟩ := holds.push_kept item
    obtain ⟨kept, last, rest, total⟩ := ih first
    refine ⟨kept, last, ?_, ?_⟩
    · simp only [pushAll, List.append_assoc]
      rw [rest, ← List.append_assoc, parts, List.append_assoc, List.singleton_append]
    · rw [total, capacity_push, length, List.length_cons]
      omega

inductive Call (α : Type) where
  | push (item : α)
  | clear
  deriving DecidableEq, Repr

inductive Reply (α : Type) where
  | evicted (item : Option α)
  | released (count : Nat)
  deriving DecidableEq, Repr

def step (ring : Ring α) : Call α → Ring α × Reply α
  | .push item => (ring.push item).map id .evicted
  | .clear => ring.clear.map id .released

def run (ring : Ring α) : List (Call α) → Ring α × List (Reply α)
  | [] => (ring, [])
  | call :: calls =>
    let (after, reply) := ring.step call
    let (last, replies) := after.run calls
    (last, reply :: replies)

def Call.goneIn (items : List α) : Call α → List α
  | .push item => items ++ [item]
  | .clear => []

def Reply.comeOut (items : List α) : Reply α → List α
  | .evicted item => items ++ item.toList
  | .released _ => []

end Ring

structure Queue (α : Type) where
  capacity : Nat
  items : List α := []
  deriving DecidableEq, Repr

namespace Queue

variable {α : Type}

def step (queue : Queue α) : Ring.Call α → Queue α × Ring.Reply α
  | .push item =>
    if queue.items.length = queue.capacity then
      ({ queue with items := queue.items.tail ++ [item] }, .evicted queue.items.head?)
    else ({ queue with items := queue.items ++ [item] }, .evicted none)
  | .clear => ({ queue with items := [] }, .released queue.items.length)

def run (queue : Queue α) : List (Ring.Call α) → Queue α × List (Ring.Reply α)
  | [] => (queue, [])
  | call :: calls =>
    let (after, reply) := queue.step call
    let (last, replies) := after.run calls
    (last, reply :: replies)

theorem step_balance (queue : Queue α) (call : Ring.Call α) {out into : List α}
    (balance : out ++ queue.items = into) :
    (queue.step call).2.comeOut out ++ (queue.step call).1.items = call.goneIn into := by
  cases call with
  | push item =>
    have parts : queue.items.head?.toList ++ queue.items.tail = queue.items := by
      cases queue.items <;> rfl
    by_cases brim : queue.items.length = queue.capacity
    · simp only [step, if_pos brim, Ring.Reply.comeOut, Ring.Call.goneIn]
      rw [← balance, List.append_assoc, ← List.append_assoc _ _ [item], parts, List.append_assoc]
    · simp [step, brim, Ring.Reply.comeOut, Ring.Call.goneIn, ← balance]
  | clear => rfl

-- Nothing is lost or overtaken: what came out and what is still there is what went in.
theorem run_balance (queue : Queue α) (calls : List (Ring.Call α)) {out into : List α}
    (balance : out ++ queue.items = into) :
    (queue.run calls).2.foldl Ring.Reply.comeOut out ++ (queue.run calls).1.items =
      calls.foldl Ring.Call.goneIn into := by
  induction calls generalizing queue out into with
  | nil => exact balance
  | cons call calls ih => exact ih _ (step_balance queue call balance)

@[simp] theorem capacity_step (queue : Queue α) (call : Ring.Call α) :
    (queue.step call).1.capacity = queue.capacity := by
  cases call with
  | push item =>
    unfold step
    dsimp only
    split <;> rfl
  | clear => rfl

@[simp] theorem capacity_run (queue : Queue α) (calls : List (Ring.Call α)) :
    (queue.run calls).1.capacity = queue.capacity := by
  induction calls generalizing queue with
  | nil => rfl
  | cons call calls ih => exact (ih _).trans (capacity_step queue call)

end Queue

namespace Ring

variable {α : Type} {ring : Ring α} {queue : Queue α}

def Shows (ring : Ring α) (queue : Queue α) : Prop :=
  ring.Holds queue.items ∧ ring.capacity = queue.capacity

theorem step_shows (agree : ring.Shows queue) (call : Call α) :
    (ring.step call).1.Shows (queue.step call).1 ∧ (ring.step call).2 = (queue.step call).2 := by
  obtain ⟨holds, capacity⟩ := agree
  cases call with
  | push item =>
    by_cases brim : queue.items.length = queue.capacity
    · obtain ⟨kept, gone⟩ := holds.push_full (brim.trans capacity.symm) item
      simp [step, Queue.step, brim, Shows, kept, gone, capacity]
    · have room : queue.items.length < ring.capacity :=
        Nat.lt_of_le_of_ne holds.bounded (fun same => brim (same.trans capacity))
      obtain ⟨kept, gone⟩ := holds.push_room room item
      simp [step, Queue.step, brim, Shows, kept, gone, capacity]
  | clear =>
    obtain ⟨kept, released⟩ := holds.clear_empty
    simp [step, Queue.step, Shows, kept, released, capacity]

theorem run_shows (agree : ring.Shows queue) (calls : List (Call α)) :
    (ring.run calls).1.Shows (queue.run calls).1 ∧ (ring.run calls).2 = (queue.run calls).2 := by
  induction calls generalizing ring queue with
  | nil => exact ⟨agree, rfl⟩
  | cons call calls ih =>
    obtain ⟨kept, same⟩ := step_shows agree call
    obtain ⟨keptAll, sameAll⟩ := ih kept
    refine ⟨keptAll, ?_⟩
    simp only [run, Queue.run, same, sameAll]

namespace Walk

variable {walk : Walk α} {rest : List α}

structure Leads (walk : Walk α) (rest : List α) : Prop where
  items : ∃ items, walk.ring.Holds items ∧ rest = items.drop walk.position
  remaining : walk.remaining = rest.length

theorem start_leads {items : List α} (holds : ring.Holds items) : (start ring).Leads items :=
  ⟨⟨items, holds, rfl⟩, holds.size_eq⟩

theorem next_leads (leads : walk.Leads rest) :
    walk.next.1 = rest.head? ∧ walk.next.2.Leads rest.tail := by
  obtain ⟨⟨items, holds, ahead⟩, remaining⟩ := leads
  unfold next
  split
  · rename_i exhausted
    have exhausted : rest = [] := List.length_eq_zero_iff.mp (remaining.symm.trans exhausted)
    subst exhausted
    exact ⟨rfl, ⟨items, holds, ahead⟩, remaining⟩
  · refine ⟨?_, ⟨items, holds, ?_⟩, ?_⟩
    · rw [holds.get?_eq, ahead, List.head?_drop]
    · rw [ahead, List.tail_drop]
    · rw [List.length_tail, ← remaining]

-- What a number of steps over a list bring: each item with the number of items behind it, and once
-- the list is over nothing with zero.
def sight (rest : List α) (count : Nat) : List (Option α × Nat) :=
  (List.range count).map fun place => (rest[place]?, rest.length - (place + 1))

theorem sight_succ (rest : List α) (count : Nat) :
    sight rest (count + 1) = (rest.head?, rest.tail.length) :: sight rest.tail count := by
  rw [sight, List.range_succ_eq_map, List.map_cons, List.map_map]
  apply congrArg₂ List.cons
  · rw [List.head?_eq_getElem?, List.length_tail]
  · apply List.map_congr_left
    intro place _
    simp only [Function.comp_apply, List.getElem?_tail, List.length_tail]
    rw [Nat.succ_eq_add_one, Nat.sub_sub, Nat.add_comm 1]

theorem steps_leads (leads : walk.Leads rest) (count : Nat) :
    (walk.steps count).1 = sight rest count ∧ (walk.steps count).2.Leads (rest.drop count) := by
  induction count generalizing walk rest with
  | zero => exact ⟨rfl, by simpa [steps] using leads⟩
  | succ count ih =>
    obtain ⟨item, onward⟩ := next_leads leads
    obtain ⟨more, last⟩ := ih onward
    refine ⟨?_, ?_⟩
    · rw [sight_succ, ← item, ← onward.remaining, ← more]
      rfl
    · rw [List.drop_tail] at last
      exact last

theorem rest_eq (leads : walk.Leads rest) : walk.rest = rest := by
  obtain ⟨⟨items, holds, ahead⟩, remaining⟩ := leads
  have looks : walk.ring.get? = fun index => items[index]? := funext holds.get?_eq
  rw [Walk.rest, looks, taken_in_turn, ← ahead, remaining, List.take_length]

end Walk

-- The two indices and the slots of a ring, without regard to what is in it. Where the indices meet,
-- the flag tells a full ring from an empty one.
structure Sound (ring : Ring α) (capacity : Nat) : Prop where
  around : ring.slots.size = capacity
  read : ring.readIndex < capacity
  write : ring.writeIndex < capacity
  meet : ring.writeIndex = ring.readIndex ↔ ring.size = capacity ∨ ring.size = 0
  flag : ring.full = true ↔ ring.size = capacity
  taken : ∀ place < ring.size,
    ∃ item, ring.slots[(ring.readIndex + place) % capacity]? = some (some item)
  free : ∀ place, ring.size ≤ place → place < capacity →
    ring.slots[(ring.readIndex + place) % capacity]? = some none

theorem Holds.sound {items : List α} (holds : ring.Holds items) : ring.Sound ring.capacity where
  around := rfl
  read := holds.read
  write := holds.write_bounded
  meet := by rw [holds.meet_iff, holds.size_eq, List.length_eq_zero_iff]
  flag := by rw [holds.full, holds.size_eq, decide_eq_true_iff]
  taken := by
    intro place held
    rw [holds.size_eq] at held
    refine ⟨items[place], ?_⟩
    rw [holds.slots place (Nat.lt_of_lt_of_le held holds.bounded), List.getElem?_eq_getElem held]
  free := by
    intro place beyond inside
    rw [holds.size_eq] at beyond
    rw [holds.slots place inside, List.getElem?_eq_none beyond]

-- Every look at a ring of records is a look at one list. A walk may be broken off after any number
-- of steps and gone on with, by itself or by a copy of it.
structure Looks (ring : Ring Record) (records : List Record) : Prop where
  size : ring.size = records.length
  isEmpty : ring.isEmpty = true ↔ records = []
  isFull : ring.isFull = true ↔ records.length = ring.capacity
  get? : ∀ index, ring.get? index = records[index]?
  toList : ring.toList = records
  total : totalSize ring.toList = (records.map Record.size).sum
  walk : ∀ passed, ((Walk.start ring).steps passed).1 = Walk.sight records passed
  bounds : ∀ passed, ((Walk.start ring).steps passed).2.bounds =
    (records.length - passed, records.length - passed)
  rest : ∀ passed, ((Walk.start ring).steps passed).2.rest = records.drop passed
  onward : ∀ passed more, (((Walk.start ring).steps passed).2.steps more).1 =
    Walk.sight (records.drop passed) more

theorem Holds.looks {ring : Ring Record} {records : List Record} (holds : ring.Holds records) :
    ring.Looks records where
  size := holds.size_eq
  isEmpty := by rw [holds.isEmpty_eq, List.isEmpty_iff]
  isFull := by rw [holds.isFull_eq, decide_eq_true_iff]
  get? := holds.get?_eq
  toList := holds.toList_eq
  total := by
    rw [holds.toList_eq]
    exact totalSize_eq_sum records
  walk := by
    intro passed
    exact (Walk.steps_leads (Walk.start_leads holds) passed).1
  bounds := by
    intro passed
    have leads := (Walk.steps_leads (Walk.start_leads holds) passed).2
    rw [Walk.bounds, leads.remaining, List.length_drop]
  rest := by
    intro passed
    exact Walk.rest_eq (Walk.steps_leads (Walk.start_leads holds) passed).2
  onward := by
    intro passed more
    have leads := (Walk.steps_leads (Walk.start_leads holds) passed).2
    exact (Walk.steps_leads leads more).1

-- A ring does what a bounded queue does, whatever is done to it.
theorem behaves_as_queue (capacity : Nat) (positive : 0 < capacity) :
    ∃ start : Ring Record, create capacity = .ok start ∧ ∀ calls : List (Call Record),
      let after := (start.run calls).1
      let replies := (start.run calls).2
      let queue := (Queue.run ⟨capacity, []⟩ calls).1
      after.Sound capacity ∧ after.Looks queue.items ∧ queue.items.length ≤ capacity ∧
        replies = (Queue.run ⟨capacity, []⟩ calls).2 ∧
        replies.foldl Reply.comeOut [] ++ queue.items = calls.foldl Call.goneIn [] := by
  have created :
      create capacity = .ok (⟨Array.replicate capacity none, 0, 0, false⟩ : Ring Record) :=
    if_neg (Nat.ne_of_gt positive)
  obtain ⟨holds, around⟩ := create_holds created
  refine ⟨_, created, ?_⟩
  intro calls
  have empty : Shows _ (⟨capacity, []⟩ : Queue Record) := ⟨holds, around⟩
  obtain ⟨⟨kept, same⟩, replies⟩ := run_shows empty calls
  have sound := kept.sound
  have bounded := kept.bounded
  rw [same, Queue.capacity_run] at sound bounded
  refine ⟨sound, kept.looks, bounded, replies, ?_⟩
  rw [replies]
  exact Queue.run_balance _ calls rfl

theorem queue_of_two_wraps :
    0 < 2 ∧ ∃ start : Ring Record, create 2 = .ok start ∧
      (start.run [.push ⟨[1]⟩, .push ⟨[2]⟩, .push ⟨[3]⟩]).1.Looks [⟨[2]⟩, ⟨[3]⟩] ∧
      (start.run [.push ⟨[1]⟩, .push ⟨[2]⟩, .push ⟨[3]⟩]).2 =
        [.evicted none, .evicted none, .evicted (some ⟨[1]⟩)] := by
  obtain ⟨start, created, behaves⟩ := behaves_as_queue 2 (by decide)
  obtain ⟨_, looks, _, replies, _⟩ := behaves [.push ⟨[1]⟩, .push ⟨[2]⟩, .push ⟨[3]⟩]
  exact ⟨by decide, start, created, looks, replies⟩

end Ring

end CircularLog
