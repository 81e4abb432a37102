import CircularLog.Position
import CircularLog.Proofs.Queue
import Mathlib.Data.List.Infix

namespace CircularLog

namespace Position

variable {records : List Record} {record : Record} {location : Location}
  {index offset cursor place : Nat}

theorem locateFrom_none : locateFrom index records cursor = none ↔ totalSize records ≤ cursor := by
  induction records generalizing index cursor with
  | nil => simp [locateFrom, totalSize]
  | cons record records ih =>
    have total := totalSize_cons record records
    unfold locateFrom
    split
    · simp only [reduceCtorEq, false_iff, total]
      omega
    · rw [ih, total]
      omega

theorem locateFrom_some {first : Nat} :
    locateFrom first records cursor = some location ↔ ∃ index, location.index = first + index ∧
      records[index]? = some location.record ∧ location.offset < location.record.size ∧
      totalSize (records.take index) + location.offset = cursor := by
  -- `first` counts the records passed already, `index` those before the place.
  induction records generalizing first cursor with
  | nil => simp [locateFrom]
  | cons record records ih =>
    unfold locateFrom
    split
    · rename_i inside
      constructor
      · rintro found
        cases found
        exact ⟨0, rfl, rfl, inside, Nat.zero_add _⟩
      · rintro ⟨index, number, found, within, place⟩
        cases index with
        | zero =>
          obtain ⟨_, _, _⟩ := location
          cases found
          cases number
          cases place
          simp [totalSize]
        | succ index =>
          rw [List.take_succ_cons, totalSize_cons] at place
          omega
    · rename_i outside
      rw [ih]
      constructor
      · rintro ⟨index, number, found, within, place⟩
        refine ⟨index + 1, by omega, found, within, ?_⟩
        rw [List.take_succ_cons, totalSize_cons]
        omega
      · rintro ⟨index, number, found, within, place⟩
        cases index with
        | zero =>
          cases found
          rw [List.take_zero, totalSize, List.foldr_nil, Nat.zero_add] at place
          exact absurd (place ▸ within) outside
        | succ index =>
          rw [List.take_succ_cons, totalSize_cons] at place
          exact ⟨index, by omega, found, within, by omega⟩

theorem locate?_none : locate? records cursor = none ↔ totalSize records ≤ cursor :=
  locateFrom_none

theorem locate?_before (before : cursor < totalSize records) :
    ∃ location, locate? records cursor = some location := by
  cases found : locate? records cursor with
  | none => exact absurd before (Nat.not_lt_of_le (locate?_none.mp found))
  | some location => exact ⟨location, rfl⟩

theorem locate?_some :
    locate? records cursor = some location ↔ records[location.index]? = some location.record ∧
      location.offset < location.record.size ∧
      totalSize (records.take location.index) + location.offset = cursor := by
  rw [locate?, locateFrom_some]
  constructor
  · rintro ⟨index, number, facts⟩
    rw [Nat.zero_add] at number
    exact number ▸ facts
  · intro facts
    exact ⟨location.index, (Nat.zero_add _).symm, facts⟩

theorem locate?_inside (found : locate? records cursor = some location) :
    ∃ former latter, records = former ++ location.record :: latter ∧
      cursor = totalSize former + location.offset := by
  obtain ⟨present, _, rfl⟩ := locate?_some.mp found
  refine ⟨records.take location.index, records.drop (location.index + 1), ?_, rfl⟩
  rw [← List.singleton_append, ← List.append_assoc, ← take_succ_of_found present,
    List.take_append_drop]

theorem cursorOf_ok :
    cursorOf records index offset = .ok place ↔ ∃ record, records[index]? = some record ∧
      offset < record.size ∧ totalSize (records.take index) + offset = place := by
  unfold cursorOf
  cases found : records[index]? with
  | none => simp
  | some record =>
    by_cases outside : record.size ≤ offset
    · simp [outside]
    · simp [outside, Nat.lt_of_not_le outside]

theorem cursorOf_refused {fault : Fault} (refused : cursorOf records index offset = .error fault) :
    ∃ cause, fault = .invalidArgument cause := by
  unfold cursorOf at refused
  split at refused
  · cases refused
    exact ⟨_, rfl⟩
  · split at refused
    · cases refused
      exact ⟨_, rfl⟩
    · cases refused

theorem cursorOf_inside (found : records[index]? = some record) (inside : offset < record.size) :
    cursorOf records index offset = .ok (totalSize (records.take index) + offset) :=
  cursorOf_ok.mpr ⟨record, found, inside, rfl⟩

theorem locate?_iff_cursorOf :
    locate? records cursor = some ⟨index, offset, record⟩ ↔
      records[index]? = some record ∧ cursorOf records index offset = .ok cursor := by
  rw [locate?_some, cursorOf_ok]
  constructor
  · rintro ⟨found, inside, place⟩
    exact ⟨found, record, found, inside, place⟩
  · rintro ⟨found, other, same, inside, place⟩
    cases found.symm.trans same
    exact ⟨found, inside, place⟩

theorem cursorOf_found (found : cursorOf records index offset = .ok place) :
    place < totalSize records := by
  obtain ⟨record, present, inside, rfl⟩ := cursorOf_ok.mp found
  have upTo := totalSize_take_le records (index + 1)
  rw [totalSize_take_succ present] at upTo
  omega

theorem remaining_eq (found : locate? records cursor = some location) :
    location.remaining ≠ [] ∧ location.remaining =
      ((joined records).take (totalSize (records.take (location.index + 1)))).drop cursor := by
  obtain ⟨present, inside, rfl⟩ := locate?_some.mp found
  constructor
  · rw [Location.remaining, ← List.length_pos_iff, List.length_drop]
    exact Nat.sub_pos_of_lt inside
  · rw [← joined_take, take_succ_of_found present, joined_append, ← List.drop_drop, ← length_joined,
      List.drop_left]
    simp [Location.remaining, joined]

theorem locate?_found (found : locate? records cursor = some location) :
    location.remaining <+: (joined records).drop cursor := by
  rw [(remaining_eq found).2]
  exact List.IsPrefix.drop (List.take_prefix _ _) _

theorem locate?_mono {later : Nat} {here there : Location}
    (found : locate? records cursor = some here) (ahead : locate? records later = some there)
    (less : cursor < later) :
    here.index < there.index ∨ here.index = there.index ∧ here.offset < there.offset := by
  obtain ⟨_, _, rfl⟩ := locate?_some.mp found
  obtain ⟨present, inside, rfl⟩ := locate?_some.mp ahead
  rcases Nat.lt_trichotomy here.index there.index with before | same | behind
  · exact .inl before
  · rw [same] at less
    exact .inr ⟨same, by omega⟩
  · have past := totalSize_take_mono records (Nat.succ_le_of_lt behind)
    rw [totalSize_take_succ present] at past
    omega

end Position

namespace Ring

-- Cursors below the total and places in records held are the same thing named in two ways, and both
-- ways keep the order. What is held lies in memory, so that a 64-bit cursor can name each byte of it.
theorem cursors_name_places (capacity : Nat) (positive : 0 < capacity) :
    ∃ start : Ring Record, create capacity = .ok start ∧ ∀ calls : List (Call Record),
      let ring := (start.run calls).1
      let held := ring.toList
      totalSize held < 2 ^ 64 →
        (∀ cursor : UInt64,
          (Position.locate? held cursor.toNat = none ↔ totalSize held ≤ cursor.toNat) ∧
          ∀ location, Position.locate? held cursor.toNat = some location →
            location.index < ring.size ∧ location.offset < location.record.size ∧
            ring.get? location.index = some location.record ∧
            totalSize (held.take location.index) + location.offset = cursor.toNat ∧
            Position.cursorOf held location.index location.offset = .ok cursor.toNat ∧
            location.remaining ≠ [] ∧ location.remaining =
              ((joined held).take (totalSize (held.take (location.index + 1)))).drop
                cursor.toNat) ∧
        (∀ index offset,
          ((∃ place, Position.cursorOf held index offset = .ok place) ↔
            index < ring.size ∧ ∃ record, ring.get? index = some record ∧ offset < record.size) ∧
          (∀ place, Position.cursorOf held index offset = .ok place →
            place < totalSize held ∧ (UInt64.ofNat place).toNat = place ∧ ∃ record,
              Position.locate? held (UInt64.ofNat place).toNat = some ⟨index, offset, record⟩) ∧
          ∀ fault, Position.cursorOf held index offset = .error fault →
            ∃ cause, fault = .invalidArgument cause) ∧
        ∀ cursor later : UInt64, cursor < later → later.toNat < totalSize held →
          ∃ here there, Position.locate? held cursor.toNat = some here ∧
            Position.locate? held later.toNat = some there ∧
            (here.index < there.index ∨ here.index = there.index ∧ here.offset < there.offset) := by
  have created :
      create capacity = .ok (⟨Array.replicate capacity none, 0, 0, false⟩ : Ring Record) :=
    if_neg (Nat.ne_of_gt positive)
  obtain ⟨empty, around⟩ := create_holds created
  refine ⟨_, created, ?_⟩
  intro calls ring held fits
  have shows : Shows ring (Queue.run ⟨capacity, []⟩ calls).1 := (run_shows ⟨empty, around⟩ calls).1
  have holds : ring.Holds held := by
    have same : held = (Queue.run ⟨capacity, []⟩ calls).1.items := shows.1.toList_eq
    rw [same]
    exact shows.1
  -- From cursors to places, from places to cursors, and the order of both.
  refine ⟨?_, ?_, ?_⟩
  · intro cursor
    refine ⟨Position.locate?_none, ?_⟩
    intro location found
    obtain ⟨present, inside, place⟩ := Position.locate?_some.mp found
    obtain ⟨filled, remaining⟩ := Position.remaining_eq found
    refine ⟨?_, inside, ?_, place, ?_, filled, remaining⟩
    · rw [holds.size_eq]
      exact (List.getElem?_eq_some_iff.mp present).1
    · rw [holds.get?_eq]
      exact present
    · exact (Position.locate?_iff_cursorOf.mp found).2
  · intro index offset
    refine ⟨?_, ?_, ?_⟩
    · rw [holds.get?_eq, holds.size_eq]
      constructor
      · rintro ⟨place, found⟩
        obtain ⟨record, present, inside, _⟩ := Position.cursorOf_ok.mp found
        exact ⟨(List.getElem?_eq_some_iff.mp present).1, record, present, inside⟩
      · rintro ⟨_, record, present, inside⟩
        exact ⟨_, Position.cursorOf_inside present inside⟩
    · intro place found
      have before := Position.cursorOf_found found
      have named : (UInt64.ofNat place).toNat = place :=
        UInt64.toNat_ofNat_of_lt' (Nat.lt_trans before fits)
      obtain ⟨record, present, _⟩ := Position.cursorOf_ok.mp found
      refine ⟨before, named, record, ?_⟩
      rw [named]
      exact Position.locate?_iff_cursorOf.mpr ⟨present, found⟩
    · intro fault refused
      exact Position.cursorOf_refused refused
  · intro cursor later less before
    have earlier : cursor.toNat < later.toNat := UInt64.lt_iff_toNat_lt.mp less
    obtain ⟨here, found⟩ := Position.locate?_before (Nat.lt_trans earlier before)
    obtain ⟨there, ahead⟩ := Position.locate?_before before
    exact ⟨here, there, found, ahead, Position.locate?_mono found ahead earlier⟩

theorem places_of_a_wrapped_ring :
    let calls : List (Call Record) := [.push ⟨[1]⟩, .push ⟨[2, 3]⟩, .push ⟨[4]⟩]
    0 < 2 ∧ ∃ start : Ring Record, create 2 = .ok start ∧
      let held := (start.run calls).1.toList
      totalSize held = 3 ∧ Position.cursorOf held 1 0 = .ok 2 ∧
      (∃ record, Position.locate? held 2 = some ⟨1, 0, record⟩) ∧
      (∃ cause, Position.cursorOf held 0 2 = .error (.invalidArgument cause)) ∧
      Position.locate? held 3 = none ∧
      ∃ here there, Position.locate? held 1 = some here ∧ Position.locate? held 2 = some there ∧
        (here.index < there.index ∨ here.index = there.index ∧ here.offset < there.offset) := by
  intro calls
  obtain ⟨start, created, named⟩ := cursors_name_places 2 (by decide)
  have same : start = ⟨#[none, none], 0, 0, false⟩ := by
    cases created
    rfl
  have total : totalSize (start.run calls).1.toList = 3 := by
    rw [same]
    decide +kernel
  have found : Position.cursorOf (start.run calls).1.toList 1 0 = .ok 2 := by
    rw [same]
    decide +kernel
  have refused : ∃ fault, Position.cursorOf (start.run calls).1.toList 0 2 = .error fault := by
    rw [same]
    exact ⟨.invalidArgument (.beyondRecord 2 0 2), by decide +kernel⟩
  obtain ⟨located, placed, ordered⟩ := named calls (by rw [total]; decide)
  obtain ⟨_, _, back⟩ := (placed 1 0).2.1 2 found
  obtain ⟨fault, refused⟩ := refused
  obtain ⟨cause, rfl⟩ := (placed 0 2).2.2 fault refused
  have ends := (located 3).1.mpr (by rw [total]; decide)
  have onward := ordered 1 2 (by decide) (by rw [total]; decide)
  exact ⟨by decide, start, created, total, found, back, ⟨cause, refused⟩, ends, onward⟩

end Ring

end CircularLog
