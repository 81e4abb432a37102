import CircularLog.Record
import Mathlib.Algebra.GroupWithZero.Nat

namespace CircularLog

theorem totalSize_eq_sum (records : List Record) :
    totalSize records = (records.map Record.size).sum := by
  induction records with
  | nil => rfl
  | cons record records ih => exact congrArg (record.size + ·) ih

@[simp] theorem joined_append (left right : List Record) :
    joined (left ++ right) = joined left ++ joined right :=
  List.flatMap_append

@[simp] theorem length_joined (records : List Record) :
    (joined records).length = totalSize records := by
  rw [joined, List.length_flatMap, totalSize_eq_sum]
  rfl

@[simp] theorem totalSize_append (left right : List Record) :
    totalSize (left ++ right) = totalSize left + totalSize right := by
  rw [← length_joined, joined_append, List.length_append, length_joined, length_joined]

theorem totalSize_cons (record : Record) (records : List Record) :
    totalSize (record :: records) = record.size + totalSize records :=
  rfl

theorem take_succ_of_found {records : List Record} {index : Nat} {record : Record}
    (found : records[index]? = some record) :
    records.take (index + 1) = records.take index ++ [record] := by
  rw [List.take_add_one, found]
  rfl

theorem totalSize_take_succ {records : List Record} {index : Nat} {record : Record}
    (found : records[index]? = some record) :
    totalSize (records.take (index + 1)) = totalSize (records.take index) + record.size := by
  rw [take_succ_of_found found, totalSize_append]
  rfl

theorem totalSize_take_mono (records : List Record) {fewer more : Nat} (less : fewer ≤ more) :
    totalSize (records.take fewer) ≤ totalSize (records.take more) := by
  have parts := congrArg totalSize (List.take_append_drop fewer (records.take more))
  rw [List.take_take, Nat.min_eq_left less, totalSize_append] at parts
  omega

theorem totalSize_take_le (records : List Record) (count : Nat) :
    totalSize (records.take count) ≤ totalSize records := by
  have parts := congrArg totalSize (List.take_append_drop count records)
  rw [totalSize_append] at parts
  omega

theorem joined_take (records : List Record) (count : Nat) :
    joined (records.take count) = (joined records).take (totalSize (records.take count)) := by
  have parts := congrArg joined (List.take_append_drop count records)
  rw [joined_append] at parts
  rw [← parts, ← length_joined, List.take_left]

end CircularLog
